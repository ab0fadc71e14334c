import FundsTransfer.Proofs.Acceptance
import FundsTransfer.Proofs.Settlement
import FundsTransfer.Proofs.Verdict

/-!
# Instructions that are held

An instruction with a date that lies ahead is held: the accounts take over their views, which shows
in their currencies only.  Given again when its date has come, the instruction does to these accounts
what it would have done to the first ones at once without a date.

Main definitions:

- `Ready`: a text spells an instruction against which nothing is found.
- `Wording.response`: the response that repeats an instruction in full form.
- `Wording.withoutDate`: the instruction without its date.
- `Account.restated`, `restate`: accounts that have taken over views without a movement.
- `Calendar.writtenDayNumber`: the number of the day that a written date stands for.

Main results:

- Theorem `Ready.response_eq`: the response to an instruction that is ready, on any day.
- Theorem `Ready.withoutDate`: an instruction is as ready without its date.
- Theorem `Ready.restate`: an instruction stays ready when accounts take over their views without a
  movement.
- Theorem `held_then_executed_eq_executed_at_once`: holding an instruction and executing it later
  comes to the same as executing it at once.
-/

namespace FundsTransfer

/-! ## Instructions that are ready -/

/-- The response that repeats an instruction in full form with an amount. -/
def Wording.response (wording : Wording) (n : Nat) (outcome : Outcome) (views : List View) :
    Response where
  direction := some wording.lead
  amount := some n
  currency := some (Text.upper wording.currency)
  debitId := some wording.debitId
  creditId := some wording.creditId
  executeBy := wording.date.filter Calendar.isWellFormedDate
  outcome := outcome
  views := views

/-- A text spells an instruction in full form that states an amount, and nothing was found against it
among the accounts. -/
structure Ready (accounts : List Account) (text : String) (wording : Wording) (n : Nat)
    (debit credit : Account) : Prop where
  isSpelled : wording.IsSpelled (Text.words text)
  states_amount : readAmount wording.amount = .ok (some n)
  cleared : Cleared accounts (wording.reading (some n)) debit credit n

namespace Ready

variable {accounts : List Account} {text : String} {wording : Wording} {n : Nat}
  {debit credit : Account}

/-- The text is read as the instruction that it spells. -/
theorem ofText_eq (hready : Ready accounts text wording n debit credit) :
    Reading.ofText text = .ok (wording.reading (some n)) := by
  rw [Reading.ofText, ofWords_eq_of_isSpelled hready.isSpelled, hready.states_amount]
  rfl

/-- The date is well formed, if there is one. -/
theorem isWellFormedDate (hready : Ready accounts text wording n debit credit) :
    ∀ date ∈ wording.date, Calendar.isWellFormedDate date = true := by
  exact (breaches_reading_eq_nil_iff.1 hready.cleared.readingBreaches_eq_nil).2

/-- The response to an instruction that is ready: it is held if its date lies ahead, and executed
otherwise. -/
theorem response_eq (hready : Ready accounts text wording n debit credit)
    (today : Calendar.Date) :
    (answerText accounts today text).response =
      if wording.date.any (Calendar.liesAhead · today) then
        wording.response n .scheduled (movementViews accounts debit.id credit.id 0)
      else wording.response n .executed (movementViews accounts debit.id credit.id n) := by
  have hcleared := hready.cleared
  have hbad : wording.hasBadDate = false := by
    rw [Wording.hasBadDate, Option.any_eq_false]
    intro date hdate
    rw [hready.isWellFormedDate date hdate]
    rfl
  apply response_answerText_of_ok hready.ofText_eq
  rw [result_attemptReading_of_none (primary?_eq_none_iff.2 hcleared.breaches_eq_nil),
    hcleared.debit_found, hcleared.credit_found]
  change transfer accounts (wording.reading (some n)) debit credit n today = _
  rw [transfer, isDeferred_reading (some n) today hbad]
  cases wording.date.any (Calendar.liesAhead · today) <;> rfl

end Ready

/-- Every instruction that is held or executed was ready. -/
theorem exists_ready_of_cleared {accounts : List Account} {text : String} {reading : Reading}
    {debit credit : Account} {amount : Int} (hread : Reading.ofText text = .ok reading)
    (hcleared : Cleared accounts reading debit credit amount) :
    ∃ wording n, Ready accounts text wording n debit credit := by
  have hnone := hcleared.readingBreaches_eq_nil
  obtain ⟨wording, amount', hspelled, hamount, rfl⟩ :=
    exists_reading_of_readable hread (by simp [hnone])
  obtain ⟨⟨n, rfl⟩, _⟩ := breaches_reading_eq_nil_iff.1 hnone
  cases hcleared.amount_eq
  exact ⟨wording, n, hspelled, hamount, hcleared⟩

/-- Every instruction against which nothing is found is ready. -/
theorem exists_ready_of_breaches_eq_nil {accounts : List Account} {text : String}
    {reading : Reading} (hread : Reading.ofText text = .ok reading)
    (hnone : (examine accounts reading).breaches = []) :
    ∃ wording n debit credit, Ready accounts text wording n debit credit := by
  obtain ⟨wording, amount, hspelled, hamount, rfl, hobjection⟩ :=
    exists_objection?_eq_none hread hnone
  obtain ⟨_, n, debit, credit, rfl, hdebit, hcredit⟩ := exists_of_objection?_eq_none hobjection
  exact ⟨wording, n, debit, credit, hspelled, hamount, hdebit, hcredit, rfl, hnone⟩

/-- Every instruction that is not rejected was ready. -/
theorem exists_ready_of_status_ne_failed {accounts : List Account} {today : Calendar.Date}
    {text : String}
    (hstatus : (answerText accounts today text).response.outcome.status ≠ "failed") :
    ∃ wording n debit credit, Ready accounts text wording n debit credit := by
  have hanswers : Answers accounts today (.str text) (answerText accounts today text).response :=
    answers_answer accounts today (.str text)
  generalize (answerText accounts today text).response = response at hanswers hstatus
  cases hanswers with
  | blank hunreadable => exact absurd rfl hstatus
  | rejected hread hfit hprimary hreadable hecho =>
      obtain ⟨direction, _, rfl⟩ := eq_of_echo?_eq_ok hecho
      exact absurd rfl hstatus
  | scheduled hread hcleared hdeferred hecho =>
      obtain ⟨wording, n, hready⟩ := exists_ready_of_cleared hread hcleared
      exact ⟨wording, n, _, _, hready⟩
  | executed hread hcleared hdeferred hecho =>
      obtain ⟨wording, n, hready⟩ := exists_ready_of_cleared hread hcleared
      exact ⟨wording, n, _, _, hready⟩

/-- Every instruction that is held was ready, and its date lies ahead. -/
theorem exists_ready_of_pending {accounts : List Account} {today : Calendar.Date} {text : String}
    (hpending : (answerText accounts today text).response.outcome.status = "pending") :
    ∃ wording n debit credit, Ready accounts text wording n debit credit ∧
      wording.date.any (Calendar.liesAhead · today) = true := by
  obtain ⟨wording, n, debit, credit, hready⟩ :=
    exists_ready_of_status_ne_failed (by rw [hpending]; decide)
  refine ⟨wording, n, debit, credit, hready, ?_⟩
  rw [hready.response_eq] at hpending
  by_contra hahead
  rw [if_neg hahead] at hpending
  simp [Wording.response, Outcome.status] at hpending

/-! ## Without a date -/

/-- The instruction without its date. -/
def Wording.withoutDate (wording : Wording) : Wording :=
  { wording with date := none }

/-- The words of an instruction with a date are those without it, and two more. -/
theorem isSpelled_withoutDate {wording : Wording} {date : String} (hdate : wording.date = some date)
    {words : List String} {on written : String}
    (hspelled : wording.IsSpelled (words ++ [on, written])) :
    wording.withoutDate.IsSpelled words ∧ written = date := by
  have hpieces : wording.pieces = wording.withoutDate.pieces ++ [.keyword "ON", .given date] := by
    rcases wording with ⟨lead, amount, currency, debitId, creditId, _⟩
    cases hdate
    cases lead <;> rfl
  rw [Wording.IsSpelled, hpieces] at hspelled
  obtain ⟨front, back, hwords, hfront, hback⟩ := exists_words_of_fits_append hspelled
  -- Both ways of parting the words leave two of them behind.
  have hlength : [on, written].length = back.length := hback.length_eq
  obtain ⟨rfl, rfl⟩ := List.append_inj' hwords hlength
  rcases hback with _ | ⟨_, _ | ⟨hwritten, _⟩⟩
  exact ⟨hfront, hwritten⟩

/-- An instruction is as ready without its date. -/
theorem Ready.withoutDate {accounts : List Account} {text shorter on written date : String}
    {wording : Wording} {n : Nat} {debit credit : Account}
    (hready : Ready accounts text wording n debit credit) (hdate : wording.date = some date)
    (hwords : Text.words text = Text.words shorter ++ [on, written]) :
    Ready accounts shorter wording.withoutDate n debit credit ∧ written = date := by
  have hspelled := hready.isSpelled
  rw [hwords] at hspelled
  obtain ⟨hshorter, hwritten⟩ := isSpelled_withoutDate hdate hspelled
  have hcleared := hready.cleared
  refine ⟨⟨hshorter, hready.states_amount, ?_⟩, hwritten⟩
  exact .of_ruleBreaches hcleared.debit_found hcleared.credit_found hcleared.amount_eq rfl
    hcleared.ruleBreaches_eq_nil

/-! ## Accounts that have taken over their views -/

/-- An account that has taken over a view without a movement: its currency is in upper case. -/
def Account.restated (account : Account) : Account :=
  { account with currency := Text.upper account.currency }

/-- The accounts when those with certain ids have taken over views without a movement. -/
def restate (names : String → Bool) (accounts : List Account) : List Account :=
  accounts.map fun account => if names account.id then account.restated else account

/-- If nothing is executed, the accounts change in their currencies only. -/
theorem adopt_eq_restate {accounts : List Account} {today : Calendar.Date} {text : String}
    (houtcome : (answerText accounts today text).response.outcome ≠ .executed) :
    (answerText accounts today text).response.adopt accounts =
      restate (answerText accounts today text).response.names accounts := by
  have hsettled : (answerText accounts today text).response.adopt accounts =
      accounts.map (answerText accounts today text).response.settled :=
    accounts_entry ⟨.str text, today⟩ accounts
  rw [hsettled]
  refine List.map_congr_left fun account _ => ?_
  rw [Response.settled, movement_of_ne_executed houtcome, Account.view, Int.add_zero]
  rfl

theorem map_balance_restate (names : String → Bool) (accounts : List Account) :
    (restate names accounts).map Account.balance = accounts.map Account.balance := by
  rw [restate, List.map_map]
  refine List.map_congr_left fun account _ => ?_
  simp only [Function.comp_apply]
  split <;> rfl

/-- Of an id that is named the same account is found, and it has taken over its view. -/
theorem find?_restate_eq_map {names : String → Bool} {id : String} (hnames : names id = true)
    (accounts : List Account) :
    Account.find? (restate names accounts) (some id) =
      (Account.find? accounts (some id)).map Account.restated := by
  have hid : ∀ account : Account,
      (if names account.id then account.restated else account).id = account.id := by
    intro account
    split <;> rfl
  rw [restate, Account.find?_map hid]
  apply Option.map_congr
  intro account hfound
  rw [Account.id_of_find?_eq_some hfound, if_pos hnames]

/-- The same accounts are found whatever their currencies. -/
theorem find?_restate {names : String → Bool} {accounts : List Account} {id : String}
    {found : Account} (hnames : names id = true)
    (hfound : Account.find? accounts (some id) = some found) :
    Account.find? (restate names accounts) (some id) = some found.restated := by
  rw [find?_restate_eq_map hnames, hfound, Option.map_some]

/-- An account that a transfer shows is shown alike when its currency is in upper case, if that stays
as it then is. -/
theorem movementView?_restated {account : Account} {debitId creditId : String}
    (hupper : account.id = debitId ∨ account.id = creditId →
      Text.upper (Text.upper account.currency) = Text.upper account.currency) (movement : Int) :
    movementView? debitId creditId movement account.restated =
      movementView? debitId creditId movement account := by
  by_cases hnamed : account.id = debitId ∨ account.id = creditId
  · simp only [movementView?, Account.view, Account.restated, hupper hnamed]
  · rw [not_or] at hnamed
    simp [movementView?, Account.restated, hnamed]

/-- A supported currency is in upper case. -/
theorem upper_eq_of_supported {currency : String} (hsupported : currency ∈ supportedCurrencies) :
    Text.upper currency = currency := by
  rcases mem_supportedCurrencies_iff.1 hsupported with rfl | rfl | rfl | rfl <;> decide +kernel

/-- An id whose account is found breaks no rule on unknown accounts. -/
theorem lookupBreaches_of_found (id : Option String) (account : Account) :
    lookupBreaches id (some account) = [] := by
  unfold lookupBreaches
  cases named? id with
  | some id => exact reportIf_eq_nil_iff.2 (Option.some_ne_none account)
  | none => rfl

namespace Ready

variable {accounts : List Account} {text : String} {wording : Wording} {n : Nat}
  {debit credit : Account}

/-- The accounts hold one currency, which is the one instructed and supported. -/
theorem currencies (hready : Ready accounts text wording n debit credit) :
    debit.currency = credit.currency ∧ Text.upper debit.currency = Text.upper wording.currency ∧
      Text.upper wording.currency ∈ supportedCurrencies := by
  obtain ⟨_, _, hne⟩ := wording.ne_empty_of_isSpelled hready.isSpelled
  have hrules := hready.cleared.ruleBreaches_eq_nil
  simp only [ruleBreaches, generalBreaches, pairBreaches, holdingBreaches, Wording.reading,
    currencyBreaches_some hne, instructedBreaches_some hne, List.append_eq_nil_iff,
    reportIf_eq_nil_iff, not_not] at hrules
  exact ⟨hrules.2.1.1, hrules.2.1.2, hrules.1.1.1.2⟩

/-- In upper case that currency stays as it is. -/
theorem upper_upper_debit (hready : Ready accounts text wording n debit credit) :
    Text.upper (Text.upper debit.currency) = Text.upper debit.currency := by
  obtain ⟨_, hinstructed, hsupported⟩ := hready.currencies
  rw [hinstructed]
  exact upper_eq_of_supported hsupported

/-- The two accounts keep the rules that concern both when their currencies are in upper case. -/
theorem pairBreaches_restated (hready : Ready accounts text wording n debit credit) :
    pairBreaches (wording.reading (some n)) (some debit.restated) (some credit.restated) = [] := by
  obtain ⟨_, _, hne⟩ := wording.ne_empty_of_isSpelled hready.isSpelled
  obtain ⟨hsame, hinstructed, _⟩ := hready.currencies
  rw [pairBreaches, List.append_eq_nil_iff, List.append_eq_nil_iff]
  refine ⟨⟨?_, ?_⟩, ?_⟩
  · exact reportIf_eq_nil_iff.2 (not_not.2 (congrArg Text.upper hsame))
  · change instructedBreaches (some (Text.upper wording.currency)) debit.restated = []
    rw [instructedBreaches_some hne, reportIf_eq_nil_iff, not_not]
    exact hready.upper_upper_debit.trans hinstructed
  · exact reportIf_eq_nil_iff.2 (Int.not_lt.2 hready.cleared.amount_le)

/-- An instruction stays ready when the accounts that it names take over their views without a
movement. -/
theorem restate (hready : Ready accounts text wording n debit credit) {names : String → Bool}
    (hdebit : names wording.debitId = true) (hcredit : names wording.creditId = true) :
    Ready (restate names accounts) text wording n debit.restated credit.restated where
  isSpelled := hready.isSpelled
  states_amount := hready.states_amount
  cleared := by
    have hcleared := hready.cleared
    have hrules := hcleared.ruleBreaches_eq_nil
    refine .of_ruleBreaches (find?_restate hdebit hcleared.debit_found)
      (find?_restate hcredit hcleared.credit_found) hcleared.amount_eq
      hcleared.readingBreaches_eq_nil ?_
    rw [ruleBreaches, List.append_eq_nil_iff] at hrules ⊢
    simp only [generalBreaches, lookupBreaches_of_found] at hrules ⊢
    exact ⟨hrules.1, hready.pairBreaches_restated⟩

/-- Among accounts with distinct ids, the two accounts concerned are shown alike before and after they
have taken over their views. -/
theorem movementViews_restate (hready : Ready accounts text wording n debit credit)
    (hdistinct : (accounts.map Account.id).Nodup) (names : String → Bool) (movement : Int) :
    movementViews (FundsTransfer.restate names accounts) debit.id credit.id movement =
      movementViews accounts debit.id credit.id movement := by
  rw [movementViews, movementViews, FundsTransfer.restate, List.filterMap_map]
  refine List.filterMap_congr fun account hmem => ?_
  simp only [Function.comp_apply]
  split
  · -- Only the two accounts that were found have their ids, and their currency is supported.
    apply movementView?_restated
    rintro (hid | hid)
    · rw [eq_of_id_eq hdistinct hready.cleared.debit_found hmem hid]
      exact hready.upper_upper_debit
    · rw [eq_of_id_eq hdistinct hready.cleared.credit_found hmem hid, ← hready.currencies.1]
      exact hready.upper_upper_debit
  · rfl

end Ready

/-! ## Holding and executing -/

namespace Calendar

/-- The number of the day that a written date stands for; a day that its month does not have rolls
over into the next one. -/
def writtenDayNumber (text : String) : Nat :=
  dayNumber (writtenYear text) (writtenMonth text) (writtenDay text)

/-- A date whose day has come does not lie ahead. -/
theorem liesAhead_eq_false {text : String} {today : Date}
    (hcome : writtenDayNumber text ≤ today.dayNumber) : liesAhead text today = false := by
  rw [liesAhead, Bool.and_eq_false_iff]
  exact Or.inr (decide_eq_false (Nat.not_lt.2 hcome))

end Calendar

section Deferral

variable {accounts : List Account} {text : String} {wording : Wording} {n : Nat}
  {debit credit : Account} {date : String}

/-- Once its date has come, an instruction is executed on accounts that have taken over their views as
it would be on those before. -/
theorem Ready.response_restate (hready : Ready accounts text wording n debit credit)
    (hdistinct : (accounts.map Account.id).Nodup) {names : String → Bool}
    (hdebit : names wording.debitId = true) (hcredit : names wording.creditId = true)
    (hdate : wording.date = some date) {later : Calendar.Date}
    (hcome : Calendar.writtenDayNumber date ≤ later.dayNumber) :
    (answerText (FundsTransfer.restate names accounts) later text).response =
      wording.response n .executed (movementViews accounts debit.id credit.id n) := by
  rw [(hready.restate hdebit hcredit).response_eq later, hdate, Option.any_some,
    Calendar.liesAhead_eq_false hcome, if_neg Bool.false_ne_true]
  exact congrArg _ (hready.movementViews_restate hdistinct names n)

/-- The date is all that the response repeats more than that to the instruction without it. -/
theorem Ready.response_withoutDate (hready : Ready accounts text wording n debit credit)
    (hdate : wording.date = some date) (outcome : Outcome) (views : List View) :
    wording.response n outcome views =
      { wording.withoutDate.response n outcome views with executeBy := some date } := by
  have hformed := hready.isWellFormedDate date hdate
  have hkept : wording.date.filter Calendar.isWellFormedDate = some date := by
    rw [hdate, Option.filter_some_pos hformed]
  rw [Wording.response, hkept]
  rfl

/-- Holding an instruction and executing it later comes to the same as executing it at once.  Whatever
text has all words of an instruction that is held but the last two: the balances stay as they are
meanwhile, and on every day from the written date on the instruction is executed, with the response
that the other text would have had at once, but for the date. -/
theorem held_then_executed_eq_executed_at_once {today : Calendar.Date} {shorter on : String}
    (hdistinct : (accounts.map Account.id).Nodup)
    (hwords : Text.words text = Text.words shorter ++ [on, date])
    (hpending : (answerText accounts today text).response.outcome.status = "pending") :
    ((answerText accounts today text).response.adopt accounts).map Account.balance =
        accounts.map Account.balance ∧
    (answerText accounts today shorter).response.executeBy = none ∧
    ∀ later : Calendar.Date, Calendar.writtenDayNumber date ≤ later.dayNumber →
      (answerText ((answerText accounts today text).response.adopt accounts) later
        text).response.outcome.status = "successful" ∧
      (answerText ((answerText accounts today text).response.adopt accounts) later text).response =
        { (answerText accounts today shorter).response with executeBy := some date } := by
  obtain ⟨wording, n, debit, credit, hready, hahead⟩ := exists_ready_of_pending hpending
  obtain ⟨written, hdate⟩ : ∃ written, wording.date = some written :=
    Option.isSome_iff_exists.1 (Option.isSome_of_any hahead)
  obtain ⟨hshorter, rfl⟩ := hready.withoutDate hdate hwords
  -- The three runs: held today, executed today without the date, and executed later.
  have hheld := hready.response_eq today
  rw [if_pos hahead] at hheld
  have hprompt := hshorter.response_eq today
  rw [Wording.withoutDate, Option.any_none, if_neg Bool.false_ne_true] at hprompt
  have hnamed : ∀ id, id = wording.debitId ∨ id = wording.creditId →
      (answerText accounts today text).response.names id = true := by
    intro id hid
    rw [hheld]
    simpa [Response.names, Wording.response] using hid
  have hadopt : (answerText accounts today text).response.adopt accounts =
      restate (answerText accounts today text).response.names accounts :=
    adopt_eq_restate (by rw [hheld]; exact Outcome.noConfusion)
  rw [hadopt]
  refine ⟨map_balance_restate _ _, by rw [hprompt]; rfl, fun later hcome => ?_⟩
  have hlate := hready.response_restate hdistinct (hnamed _ (Or.inl rfl)) (hnamed _ (Or.inr rfl))
    hdate hcome
  rw [hlate, hprompt]
  exact ⟨rfl, hready.response_withoutDate hdate _ _⟩

/-- A transfer that is dated to a day which June does not have. -/
def endOfJune : String :=
  "debit 30x usd from account a for credit to account b on 2025-06-31"

/-- Accounts that hold their currencies in lower case. -/
def lowerCaseAccounts : List Account :=
  [⟨"b", 5, "usd"⟩, ⟨"c", 1, "ngn"⟩, ⟨"a", 100, "usd"⟩]

/-- The transfer is executed on the first of July as it would have been in the middle of June. -/
theorem endOfJune_executed_in_july :
    (answerText lowerCaseAccounts midJune endOfJune).response.outcome.status = "pending" ∧
      ((answerText lowerCaseAccounts midJune endOfJune).response.adopt lowerCaseAccounts).map
          Account.currency = ["USD", "ngn", "USD"] ∧
      (answerText ((answerText lowerCaseAccounts midJune endOfJune).response.adopt
          lowerCaseAccounts)
        ⟨2025, 7, 1, by decide, by decide, by decide, by decide, by decide, by decide⟩
        endOfJune).response =
      { (answerText lowerCaseAccounts midJune
          "debit 30x usd from account a for credit to account b").response with
        executeBy := some "2025-06-31" } := by
  have hdistinct : (lowerCaseAccounts.map Account.id).Nodup := by decide
  have hpending :
      (answerText lowerCaseAccounts midJune endOfJune).response.outcome.status = "pending" := by
    decide +kernel
  have hwords : Text.words endOfJune =
      Text.words "debit 30x usd from account a for credit to account b" ++ ["on", "2025-06-31"] := by
    decide +kernel
  obtain ⟨_, _, hlater⟩ := held_then_executed_eq_executed_at_once hdistinct hwords hpending
  refine ⟨hpending, by decide +kernel, (hlater _ ?_).2⟩
  decide +kernel

end Deferral

end FundsTransfer
