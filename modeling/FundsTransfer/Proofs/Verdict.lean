import FundsTransfer.Proofs.Acceptance
import FundsTransfer.Proofs.Amount
import FundsTransfer.Proofs.Answer
import FundsTransfer.Proofs.Calendar
import FundsTransfer.Proofs.Text

/-!
# The verdict on an instruction in full form

All breaches of an instruction are collected, rule by rule, and the gravest is picked.  For an
instruction in full form this comes to a list of cases that are tried one after another: the first
case that applies decides, and the rules behind it need not be looked at.

Main definitions:

- `Wording.objection?`: the first of the cases, in order, that stands against an instruction.
- `Wording.verdict`: what becomes of an instruction.

Main results:

- Theorem `primary?_examine_reading`: the breach that counts is the first objection.
- Theorem `outcome_answerText_eq_verdict`: the response to an instruction in full form states the
  verdict on it.
-/

namespace FundsTransfer

/-! ## Cases in order -/

namespace Wording

/-- The objections that need both accounts: a currency that is not supported, two accounts with
different currencies, an account with another currency than the one instructed, one account on both
sides, and a balance that does not cover the amount. -/
def pairObjection? (wording : Wording) (amount : Int) (debit credit : Account) : Option Breach :=
  if Text.upper wording.currency ∉ supportedCurrencies then
    some .unsupportedCurrency
  else if debit.currency ≠ credit.currency then
    some .accountCurrencies
  else if Text.upper debit.currency ≠ Text.upper wording.currency then
    some (.foreignCurrency (Text.upper wording.currency) (Text.upper debit.currency))
  else if wording.debitId = wording.creditId then
    some .sameAccount
  else if debit.balance < amount then
    some (.insufficientFunds debit.balance debit.currency amount)
  else none

/-- The objections that need the accounts on offer: an id that no account has, and those against the
two accounts that are found. -/
def accountObjection? (wording : Wording) (amount : Int) (accounts : List Account) :
    Option Breach :=
  match Account.find? accounts (some wording.debitId),
    Account.find? accounts (some wording.creditId) with
  | none, _ => some (.unknownAccount wording.debitId)
  | some _, none => some (.unknownAccount wording.creditId)
  | some debit, some credit => wording.pairObjection? amount debit credit

/-- The first objection to an instruction in full form: a word that states no amount, an id with a
character that no id has, a word that is no date, and those that need the accounts on offer. -/
def objection? (wording : Wording) (amount : Option Nat) (accounts : List Account) :
    Option Breach :=
  match amount with
  | none => some .badAmount
  | some amount =>
    if isWellFormedId wording.debitId = false then
      some (.badAccountId wording.debitId)
    else if isWellFormedId wording.creditId = false then
      some (.badAccountId wording.creditId)
    else if wording.hasBadDate then
      some .badDate
    else wording.accountObjection? amount accounts

/-- What becomes of an instruction in full form: it is rejected for the first objection to it, and
without one it is held when its date lies ahead and executed otherwise. -/
def verdict (wording : Wording) (amount : Option Nat) (accounts : List Account)
    (today : Calendar.Date) : Outcome :=
  match wording.objection? amount accounts with
  | some breach => .rejected breach
  | none => if wording.date.any (Calendar.liesAhead · today) then .scheduled else .executed

end Wording

/-! ## Collecting and picking -/

/-- Among the breaches of one rule only its own one is found. -/
theorem find?_reportIf {broken : Prop} [Decidable broken] {breach : Breach} {code : Code} :
    (reportIf broken breach).find? (·.code == code) =
      if broken ∧ breach.code = code then some breach else none := by
  by_cases hbroken : broken <;> by_cases hcode : breach.code = code <;>
    simp [reportIf, hbroken, hcode]

/-- What is found first is found at the front or, failing that, further on. -/
theorem findSome?_cons_eq_or {α β : Type} (f : α → Option β) (first : α) (rest : List α) :
    (first :: rest).findSome? f = (f first).or (rest.findSome? f) := by
  cases hfirst : f first <;> simp [hfirst]

/-- A case that applies is not looked behind. -/
theorem ite_some_or {α : Type} {case : Prop} [Decidable case] (a : α) (other rest : Option α) :
    (if case then some a else other).or rest = if case then some a else other.or rest := by
  by_cases hcase : case <;> simp [hcase]

/-- A breach of a kind that the rules on both accounts do not report is not found among theirs. -/
theorem find?_pairBreaches_of_ne {reading : Reading} {debit credit : Option Account} {code : Code}
    (hcurrencies : code ≠ .currencyMismatch) (hfunds : code ≠ .insufficientFunds) :
    (pairBreaches reading debit credit).find? (·.code == code) = none := by
  rw [List.find?_eq_none]
  intro breach hbreach hcode
  rcases code_of_mem_pairBreaches hbreach with hpair | hpair
  · exact hcurrencies ((beq_iff_eq.1 hcode).symm.trans hpair)
  · exact hfunds ((beq_iff_eq.1 hcode).symm.trans hpair)

/-- What may be found against an instruction in full form: that its amount is none, that its date is
none, and what the rules report. -/
theorem cases_of_mem_examine_reading {wording : Wording} {amount : Option Nat}
    {accounts : List Account} {breach : Breach}
    (hbreach : breach ∈ (examine accounts (wording.reading amount)).breaches) :
    (amount = none ∧ breach = .badAmount) ∨ (wording.hasBadDate = true ∧ breach = .badDate) ∨
      breach.code ∈ ruleCodes := by
  simp only [examine, Wording.reading, List.mem_append, mem_reportIf] at hbreach
  rcases hbreach with (hamount | hdate) | hrule
  · exact Or.inl hamount
  · exact Or.inr (Or.inl hdate)
  · exact Or.inr (Or.inr (code_mem_of_mem_ruleBreaches hrule))

/-- The breach that counts against an instruction in full form is the first objection to it. -/
theorem primary?_examine_reading {wording : Wording} (hdebit : wording.debitId ≠ "")
    (hcredit : wording.creditId ≠ "") (hcurrency : Text.upper wording.currency ≠ "")
    (amount : Option Nat) (accounts : List Account) :
    primary? (examine accounts (wording.reading amount)).breaches =
      wording.objection? amount accounts := by
  rw [primary?_eq_findSome?_of_mem]
  · simp only [examine, Wording.reading, ruleBreaches, generalBreaches, idBreaches_some hdebit,
      idBreaches_some hcredit, currencyBreaches_some hcurrency, lookupBreaches_some hdebit,
      lookupBreaches_some hcredit, sameAccountBreaches_some, List.find?_append, find?_reportIf]
    -- Each kind of the catalogue picks its own breaches, and the kinds come in the order of cases.
    simp only [Code.catalogue, findSome?_cons_eq_or, List.findSome?_nil, Breach.badAmount,
      Breach.badAccountId, Breach.badDate, Breach.sameAccount, Breach.unsupportedCurrency,
      Breach.unknownAccount, reduceCtorEq, and_false, and_true, if_false, Option.or_none,
      Option.none_or, find?_pairBreaches_of_ne, ne_eq, not_false_eq_true, ite_some_or]
    cases amount with
    | none => rfl
    | some amount =>
        simp only [Wording.objection?, Wording.accountObjection?, reduceCtorEq, if_false]
        cases hdebitFound : Account.find? accounts (some wording.debitId) with
        | none => rfl
        | some debit =>
            cases hcreditFound : Account.find? accounts (some wording.creditId) with
            | none => rfl
            | some credit =>
                simp only [reduceCtorEq, if_false, pairBreaches, List.find?_append, find?_reportIf,
                  holdingBreaches, instructedBreaches_some hcurrency, Option.map_some,
                  fundsBreaches_some, Breach.accountCurrencies, Breach.foreignCurrency,
                  Breach.insufficientFunds, and_false, and_true, ite_some_or, Option.or_none,
                  Option.none_or, Wording.pairObjection?]
                rfl
  · intro breach hbreach
    rcases cases_of_mem_examine_reading hbreach with ⟨-, rfl⟩ | ⟨-, rfl⟩ | hrule
    · decide
    · decide
    · exact mem_catalogue_of_mem_ruleCodes hrule

/-! ## Carrying out -/

/-- An instruction without an objection has an amount and two accounts on offer, and its date, if it
has one, is well formed. -/
theorem exists_of_objection?_eq_none {wording : Wording} {amount : Option Nat}
    {accounts : List Account} (hnone : wording.objection? amount accounts = none) :
    wording.hasBadDate = false ∧ ∃ n debit credit, amount = some n ∧
      Account.find? accounts (some wording.debitId) = some debit ∧
      Account.find? accounts (some wording.creditId) = some credit := by
  unfold Wording.objection? Wording.accountObjection? at hnone
  split at hnone
  · cases hnone
  · split_ifs at hnone with _ _ hdate
    split at hnone
    · cases hnone
    · cases hnone
    · rename_i debit credit hdebit hcredit
      exact ⟨by simpa using hdate, _, debit, credit, rfl, hdebit, hcredit⟩

/-- No empty text is a well-formed date. -/
theorem ne_empty_of_isWellFormedDate {text : String}
    (hformed : Calendar.isWellFormedDate text = true) : text ≠ "" := by
  rintro rfl
  exact absurd hformed (by decide)

/-- An instruction in full form is held when its date lies ahead. -/
theorem isDeferred_reading {wording : Wording} (amount : Option Nat) (today : Calendar.Date)
    (hdate : wording.hasBadDate = false) :
    isDeferred (wording.reading amount) today =
      .ok (wording.date.any (Calendar.liesAhead · today)) := by
  unfold Wording.hasBadDate at hdate
  unfold isDeferred Wording.reading
  cases hdateOf : wording.date with
  | none => rfl
  | some date =>
      have hformed : Calendar.isWellFormedDate date = true := by
        simpa [hdateOf] using hdate
      simp only [Option.filter, hformed, if_true, Option.any_some,
        named?_some (ne_empty_of_isWellFormedDate hformed)]
      exact Calendar.isAfter_eq_liesAhead hformed today

/-- A reading that names a side is repeated. -/
theorem echo?_reading (wording : Wording) (amount : Option Nat) (outcome : Outcome)
    (views : List View) :
    ∃ response, Response.echo? (wording.reading amount) outcome views = .ok response ∧
      response.outcome = outcome :=
  ⟨_, rfl, rfl⟩

/-- An instruction in full form without an objection is held or executed. -/
theorem exists_carryOut_reading {wording : Wording} {amount : Option Nat}
    {accounts : List Account} (hnone : wording.objection? amount accounts = none)
    (today : Calendar.Date) :
    ∃ response,
      carryOut accounts (wording.reading amount) (Account.find? accounts (some wording.debitId))
        (Account.find? accounts (some wording.creditId)) today = .ok response ∧
      response.outcome = wording.verdict amount accounts today := by
  rcases exists_of_objection?_eq_none hnone with ⟨hdate, n, debit, credit, rfl, hdebit, hcredit⟩
  have hdeferred := isDeferred_reading (some n) today hdate
  simp only [Wording.verdict, hnone, hdebit, hcredit, carryOut]
  change ∃ response, transfer accounts (wording.reading (some n)) debit credit n today = _ ∧ _
  unfold transfer
  rw [hdeferred]
  cases wording.date.any (Calendar.liesAhead · today) with
  | true => exact echo?_reading wording (some n) .scheduled _
  | false => exact echo?_reading wording (some n) .executed _

/-! ## The verdict -/

/-- The objections to an instruction in full form leave it readable. -/
theorem isUnreadable_of_mem_examine {wording : Wording} {amount : Option Nat}
    {accounts : List Account} {breach : Breach}
    (hbreach : breach ∈ (examine accounts (wording.reading amount)).breaches) :
    breach.code.isUnreadable = false ∧ breach.code.isKnown = true := by
  rcases cases_of_mem_examine_reading hbreach with ⟨-, rfl⟩ | ⟨-, rfl⟩ | hrule
  · decide
  · decide
  · exact ⟨isUnreadable_eq_false_of_mem_ruleCodes hrule,
      Code.isKnown_of_mem (mem_catalogue_of_mem_ruleCodes hrule)⟩

/-- The ids and the currency of an instruction in full form are words of its text, and so they are
not empty. -/
theorem Wording.ne_empty_of_isSpelled {wording : Wording} {text : String}
    (hspelled : wording.IsSpelled (Text.words text)) :
    wording.debitId ≠ "" ∧ wording.creditId ≠ "" ∧ Text.upper wording.currency ≠ "" := by
  have hword : ∀ word, .given word ∈ wording.pieces → word ≠ "" := by
    intro word hgiven
    exact Text.ne_empty_of_mem_words (mem_words_of_given_mem hspelled hgiven)
  obtain ⟨_, hcurrency, hdebit, hcredit, _⟩ := wording.given_mem_pieces
  exact ⟨hword _ hdebit, hword _ hcredit, Text.upper_ne_empty (hword _ hcurrency)⟩

/-- Nothing is found against an instruction in full form exactly if there is no objection to it. -/
theorem breaches_examine_reading_eq_nil_iff {wording : Wording} {text : String}
    (hspelled : wording.IsSpelled (Text.words text)) (amount : Option Nat)
    (accounts : List Account) :
    (examine accounts (wording.reading amount)).breaches = [] ↔
      wording.objection? amount accounts = none := by
  obtain ⟨hdebit, hcredit, hcurrency⟩ := wording.ne_empty_of_isSpelled hspelled
  rw [← primary?_examine_reading hdebit hcredit hcurrency, primary?_eq_none_iff]

/-- An instruction against which nothing is found is in full form, and there is no objection to
it. -/
theorem exists_objection?_eq_none {accounts : List Account} {text : String} {reading : Reading}
    (hread : Reading.ofText text = .ok reading)
    (hnone : (examine accounts reading).breaches = []) :
    ∃ (wording : Wording) (amount : Option Nat), wording.IsSpelled (Text.words text) ∧
      readAmount wording.amount = .ok amount ∧ reading = wording.reading amount ∧
      wording.objection? amount accounts = none := by
  have hwording : reading.breaches = [] := (List.append_eq_nil_iff.1 hnone).1
  rcases exists_reading_of_readable hread (by simp [hwording]) with
    ⟨wording, amount, hspelled, hamount, rfl⟩
  exact ⟨wording, amount, hspelled, hamount, rfl,
    (breaches_examine_reading_eq_nil_iff hspelled amount accounts).1 hnone⟩

section Spelled

variable {text : String} {wording : Wording} {amount : Option Nat}
  (hspelled : wording.IsSpelled (Text.words text))
  (hamount : readAmount wording.amount = .ok amount)
include hspelled hamount

/-- An instruction in full form is read part by part. -/
theorem ofText_of_isSpelled : Reading.ofText text = .ok (wording.reading amount) := by
  rw [Reading.ofText, ofWords_eq_of_isSpelled hspelled, hamount]
  rfl

/-- If the figures in the messages fit, what becomes of an instruction in full form is the verdict on
it. -/
theorem outcome_of_figuresFit {accounts : List Account}
    (hfit : FiguresFit accounts (wording.reading amount)) (today : Calendar.Date) :
    (answerText accounts today text).response.outcome =
      wording.verdict amount accounts today := by
  have hread := ofText_of_isSpelled hspelled hamount
  rcases wording.ne_empty_of_isSpelled hspelled with ⟨hdebit, hcredit, hcurrency⟩
  have hprimary := primary?_examine_reading hdebit hcredit hcurrency amount accounts
  cases hobjection : wording.objection? amount accounts with
  | none =>
      rw [hobjection] at hprimary
      rcases exists_carryOut_reading hobjection today with ⟨response, hresult, houtcome⟩
      rw [response_answerText_of_ok hread
        ((result_attemptReading_of_none hprimary).trans hresult), houtcome]
  | some breach =>
      rw [hobjection] at hprimary
      rcases isUnreadable_of_mem_examine (mem_of_primary?_eq_some hprimary) with
        ⟨hreadable, hknown⟩
      rcases echo?_reading wording amount (.rejected breach)
        (namedViews accounts (wording.reading amount)) with ⟨response, hecho, houtcome⟩
      have hresult : (attemptReading accounts today (wording.reading amount)).result =
          .ok response := by
        rw [result_attemptReading_of_some hfit hprimary, reject_eq_echo? hreadable hknown, hecho]
      rw [response_answerText_of_ok hread hresult, houtcome, Wording.verdict, hobjection]

end Spelled

end FundsTransfer
