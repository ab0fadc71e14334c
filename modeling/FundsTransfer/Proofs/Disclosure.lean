import FundsTransfer.Proofs.Continuation
import FundsTransfer.Proofs.Echo
import FundsTransfer.Proofs.Locality

/-!
# What an answer discloses

An answer tells nothing about accounts that the instruction does not name, and the response to an
unreadable instruction tells nothing about any account, although the rules have been applied to what
was read of it.

Main definitions:

- `MakesUnreadable`: a breach for which a text is unreadable.

Main results:

- Theorem `answer_congr_of_filter_involves`: accounts that are not named neither bear on an answer nor
  show in it.
- Theorem `filter_isUnreadable_eq_singleton`: a text is unreadable for one breach only.
- Theorem `response_of_makesUnreadable`: an unreadable instruction has one response, whatever the
  accounts and the day.
-/

namespace FundsTransfer

/-! ## Accounts that are not named -/

/-- The response to an order shows accounts that the order names. -/
theorem names_of_mem_views {order : Order} {accounts : List Account} {view : View}
    (hview : view ∈ (order.entry accounts).response.views) : order.names view.id = true := by
  change view ∈ (answer accounts order.today order.instruction).response.views at hview
  rw [views_answer] at hview
  obtain ⟨account, hmem, rfl⟩ := List.mem_map.1 hview
  exact names_of_names_response (List.mem_filter.1 hmem).2

/-- The log of an order is the same among accounts that differ only in what the order does not
involve, but for their number in its first entry. -/
theorem tail_events_congr {order : Order} {accounts others : List Account}
    (hinvolved : accounts.filter order.involves = others.filter order.involves) :
    (answer accounts order.today order.instruction).events.tail =
      (answer others order.today order.instruction).events.tail := by
  rcases order with ⟨instruction, today⟩
  cases instruction with
  | str text =>
      simp only [answer, answerText, attempt_congr hinvolved, Attempt.conclude]
      split <;> rfl
  | _ => rfl

/-- An answer discloses nothing about the accounts that the instruction does not name: among accounts
that differ only in these, repeated ids included, the response is the same, and so is the log behind
the entry that counts the accounts; and every account shown has an id that was read of the
instruction. -/
theorem answer_congr_of_filter_involves {order : Order} {accounts others : List Account}
    (hinvolved : accounts.filter order.involves = others.filter order.involves) :
    (answer accounts order.today order.instruction).response =
        (answer others order.today order.instruction).response ∧
      (answer accounts order.today order.instruction).events.tail =
        (answer others order.today order.instruction).events.tail ∧
      ∀ view ∈ (answer accounts order.today order.instruction).response.views,
        order.names view.id = true := by
  refine ⟨response_entry_congr hinvolved, tail_events_congr hinvolved, ?_⟩
  intro view hview
  exact names_of_mem_views hview

/-- A transfer is answered alike whether other accounts stand between its own or not. -/
theorem answer_congr_of_crowdedAccounts :
    crowdedAccounts.filter transferFromAToB.involves =
        [⟨"a", 100, "usd"⟩, ⟨"b", 0, "usd"⟩, ⟨"a", 5, "NGN"⟩].filter transferFromAToB.involves ∧
      (answer crowdedAccounts midJune transferFromAToB.instruction).response =
        (answer [⟨"a", 100, "usd"⟩, ⟨"b", 0, "usd"⟩, ⟨"a", 5, "NGN"⟩] midJune
          transferFromAToB.instruction).response ∧
      (answer crowdedAccounts midJune transferFromAToB.instruction).response.views.map View.id =
        ["a", "b", "a"] := by
  have hinvolved : crowdedAccounts.filter transferFromAToB.involves =
      [⟨"a", 100, "usd"⟩, ⟨"b", 0, "usd"⟩, ⟨"a", 5, "NGN"⟩].filter transferFromAToB.involves := by
    decide +kernel
  obtain ⟨hresponse, _, _⟩ := answer_congr_of_filter_involves hinvolved
  exact ⟨hinvolved, hresponse, by decide +kernel⟩

/-! ## Unreadable instructions -/

/-- A text is unreadable for a breach: the breach is reported of its wording and has the code of an
unreadable instruction, or the text cannot be read at all and counts as malformed. -/
def MakesUnreadable (text : String) (breach : Breach) : Prop :=
  match Reading.ofText text with
  | .ok reading => breach ∈ reading.breaches ∧ breach.code.text ∈ ["SY01", "SY02", "SY03"]
  | .error _ => breach = .malformed

/-- A breach that makes some words unreadable is the only one of theirs that does. -/
theorem filter_isUnreadable_eq_singleton {words : List String} {reading : Reading}
    {breach : Breach} (hread : Reading.ofWords words = .ok reading)
    (hbreach : breach ∈ reading.breaches) (hunreadable : breach.code.isUnreadable = true) :
    reading.breaches.filter (·.code.isUnreadable) = [breach] := by
  obtain ⟨front, last, hbreaches, hlast⟩ := exists_breaches_eq_append hread
  have hlapses : (lapses front).filter (·.code.isUnreadable) = [] := by
    rw [List.filter_eq_nil_iff]
    intro other hother
    simp [isUnreadable_of_mem_lapses hother]
  have honly : reading.breaches.filter (·.code.isUnreadable) = last.toList := by
    rw [hbreaches, List.filter_append, hlapses, List.nil_append, List.filter_eq_self]
    intro other hother
    exact hlast other (Option.mem_toList.1 hother)
  have hmem : breach ∈ last.toList := honly ▸ List.mem_filter.2 ⟨hbreach, hunreadable⟩
  rw [honly, Option.mem_toList.1 hmem, Option.toList_some]

/-- A breach that makes a text unreadable counts against it, whatever the rules report. -/
theorem primary?_examine_of_isUnreadable {text : String} {reading : Reading} {breach : Breach}
    (hread : Reading.ofText text = .ok reading) (hbreach : breach ∈ reading.breaches)
    (hunreadable : breach.code.isUnreadable = true) (accounts : List Account) :
    primary? (examine accounts reading).breaches = some breach := by
  have hexamined : breach ∈ (examine accounts reading).breaches := List.mem_append_left _ hbreach
  cases hprimary : primary? (examine accounts reading).breaches with
  | none =>
      rw [primary?_eq_none_iff] at hprimary
      rw [hprimary] at hexamined
      cases hexamined
  | some first =>
      -- What counts is at least as grave, so it is no rule that is broken.
      have hfirst : first.code.isUnreadable = true := by
        by_contra hreadable
        rw [Bool.not_eq_true] at hreadable
        rw [isUnreadable_eq_false_of_primary? hprimary hreadable hexamined] at hunreadable
        cases hunreadable
      have hmem : first ∈ reading.breaches := by
        rcases List.mem_append.1 (mem_of_primary?_eq_some hprimary) with hwording | hrule
        · exact hwording
        · rw [isUnreadable_eq_false_of_mem_ruleCodes (code_mem_of_mem_ruleBreaches hrule)] at hfirst
          cases hfirst
      have honly := filter_isUnreadable_eq_singleton hread hbreach hunreadable
      rw [filter_isUnreadable_eq_singleton hread hmem hfirst, List.cons.injEq] at honly
      rw [honly.1]

/-- A text with a figure that does not fit is unreadable for no other breach than that it is
malformed, which is what it then counts as. -/
theorem eq_malformed_of_not_figuresFit {accounts : List Account} {text : String}
    {reading : Reading} {breach : Breach} (hread : Reading.ofText text = .ok reading)
    (hbreach : breach ∈ reading.breaches) (hunreadable : breach.code.isUnreadable = true)
    (hunfit : ¬ FiguresFit accounts reading) : breach = .malformed := by
  obtain ⟨debit, credit, amount, hoverdraws, -⟩ := not_figuresFit_iff.1 hunfit
  refine eq_malformed_of_accountId_ne_none hread ?_ hbreach hunreadable
  intro side
  cases side with
  | debit =>
      rw [Reading.accountId, Account.eq_some_id_of_find? hoverdraws.debit_found]
      exact Option.some_ne_none _
  | credit =>
      rw [Reading.accountId, Account.eq_some_id_of_find? hoverdraws.credit_found]
      exact Option.some_ne_none _

/-- A text that is unreadable has one breach that makes it so, and the response to it is the rejection
for this breach, which repeats nothing and shows no account.  Neither the accounts nor the day bear on
it, nor does anything else that was reported or found. -/
theorem response_of_makesUnreadable {text : String} {breach : Breach}
    (hunreadable : MakesUnreadable text breach) :
    (∀ reading, Reading.ofText text = .ok reading →
      reading.breaches.filter (·.code.isUnreadable) = [breach]) ∧
    ∀ accounts today, (answerText accounts today text).response = Response.blank breach := by
  unfold MakesUnreadable at hunreadable
  cases hread : Reading.ofText text with
  | error fault =>
      rw [hread] at hunreadable
      subst hunreadable
      refine ⟨?_, fun accounts today => ?_⟩
      · intro reading hother
        cases hother
      · exact response_answerText_of_error hread
  | ok reading =>
      rw [hread] at hunreadable
      obtain ⟨hmem, htext⟩ := hunreadable
      have hcode : breach.code.isUnreadable = true := by
        by_contra hreadable
        rw [Bool.not_eq_true] at hreadable
        exact text_notMem_of_readable (mem_catalogue_of_mem_breaches hread hmem) hreadable htext
      refine ⟨?_, fun accounts today => ?_⟩
      · intro other hother
        cases hother
        exact filter_isUnreadable_eq_singleton hread hmem hcode
      · by_cases hfit : FiguresFit accounts reading
        · apply response_answerText_of_ok hread
          rw [result_attemptReading_of_some hfit
            (primary?_examine_of_isUnreadable hread hmem hcode accounts), reject, if_pos hcode]
        · rw [eq_malformed_of_not_figuresFit hread hmem hcode hfit]
          exact response_answerText_of_not_figuresFit hread hfit

/-- An instruction with a word too many, a bad amount and a bad date, on one account that is known and
on one that cannot be. -/
def wordTooMany : String :=
  "DEBIT 1.5 EUR FROM ACCOUNT a FOR CREDIT TO ACCOUNT b! ON tomorrow please"

/-- Only the word too many is answered. -/
theorem response_of_wordTooMany :
    MakesUnreadable wordTooMany .malformed ∧
      (∃ reading, Reading.ofText wordTooMany = .ok reading ∧
        (examine crowdedAccounts reading).breaches.map (·.code.text) =
          ["AM01", "DT01", "SY03", "AC04", "CU02", "AC03"]) ∧
      ∀ accounts today,
        (answerText accounts today wordTooMany).response = Response.blank .malformed := by
  have hread : Reading.ofText wordTooMany =
      .ok { heading := some (.side .debit), currency := some "EUR", debitId := some "a",
            creditId := some "b!", breaches := [.badAmount, .badDate, .malformed] } := by
    decide +kernel
  have hunreadable : MakesUnreadable wordTooMany .malformed := by
    rw [MakesUnreadable, hread]
    decide
  refine ⟨hunreadable, ⟨_, hread, by decide +kernel⟩, ?_⟩
  exact (response_of_makesUnreadable hunreadable).2

end FundsTransfer
