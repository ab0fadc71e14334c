import FundsTransfer.Proofs.Deferral
import FundsTransfer.Proofs.Faults

/-!
# What the clock decides

The rules do not look at the clock: whether an instruction is rejected, and for what, is the same on
all days.  Only an instruction against which nothing is found waits for its date, and once that has
come it is executed on every later day.

Main definitions:

- `View.before`: the account that a view shows, as it was before.
- `Response.AgreesButForExecution`: two responses that differ only in what an execution changes.

Main results:

- Theorem `fixed_or_ready`: an instruction has one response on all days, or nothing is found against
  it.
- Theorem `eq_or_comes_due`: between two days a response stays the same, or its instruction comes due.
- Theorem `response_on_later_date`: as time goes by, a response that is pending may become successful,
  and nothing else may change.
-/

namespace FundsTransfer

/-! ## Instructions that the clock does not bear on -/

/-- An instruction has one response on all days, or nothing is found against it. -/
theorem fixed_or_ready (accounts : List Account) (text : String) :
    (∃ response, ∀ today, (answerText accounts today text).response = response) ∨
    ∃ wording n debit credit, Ready accounts text wording n debit credit := by
  cases hread : Reading.ofText text with
  | error fault => exact Or.inl ⟨_, fun _ => response_answerText_of_error hread⟩
  | ok reading =>
      cases hprimary : primary? (examine accounts reading).breaches with
      | none =>
          exact Or.inr (exists_ready_of_breaches_eq_nil hread (primary?_eq_none_iff.1 hprimary))
      | some breach =>
          by_cases hfit : FiguresFit accounts reading
          · -- Neither the breach that counts nor the rejection for it hangs on the day.
            obtain ⟨response, hreject⟩ :=
              exists_reject_eq_ok hread (mem_of_primary?_eq_some hprimary)
            refine Or.inl ⟨response, fun today => response_answerText_of_ok hread ?_⟩
            rw [result_attemptReading_of_some hfit hprimary, hreject]
          · exact Or.inl ⟨_, fun _ => response_answerText_of_not_figuresFit hread hfit⟩

/-! ## Executions -/

/-- The account that a view shows, as it was before the instruction but with its currency in upper
case. -/
def View.before (view : View) : Account :=
  ⟨view.id, view.balanceBefore, view.currency⟩

/-- Two responses repeat the same and show the same accounts as they were before. -/
structure Response.AgreesButForExecution (first second : Response) : Prop where
  repeated_eq : { first with outcome := second.outcome, views := second.views } = second
  before_eq : first.views.map View.before = second.views.map View.before

/-- Whatever a transfer moves, it shows the same accounts as they were before. -/
theorem map_before_movementViews (accounts : List Account) (debitId creditId : String)
    (movement other : Int) :
    (movementViews accounts debitId creditId movement).map View.before =
      (movementViews accounts debitId creditId other).map View.before := by
  have hview : ∀ account : Account,
      (movementView? debitId creditId movement account).map View.before =
        (movementView? debitId creditId other account).map View.before := by
    intro account
    unfold movementView?
    split
    · rfl
    · split <;> rfl
  rw [movementViews, movementViews, List.map_filterMap, List.map_filterMap]
  exact List.filterMap_congr fun account _ => hview account

/-! ## Days that go by -/

section Later

variable {accounts : List Account} {today later : Calendar.Date} {text : String}
  (hle : today ≤ later)
include hle

/-- Between two days the response to an instruction stays the same, or its date comes. -/
theorem eq_or_comes_due :
    (answerText accounts today text).response = (answerText accounts later text).response ∨
      (answerText accounts today text).response.outcome = .scheduled ∧
        (answerText accounts later text).response.outcome = .executed ∧
        (answerText accounts today text).response.AgreesButForExecution
          (answerText accounts later text).response := by
  rcases fixed_or_ready accounts text with ⟨response, hresponse⟩ |
    ⟨wording, n, debit, credit, hready⟩
  · exact Or.inl (by rw [hresponse, hresponse])
  · rw [hready.response_eq, hready.response_eq]
    by_cases hlater : wording.date.any (Calendar.liesAhead · later) = true
    · -- What still lies ahead on the later day lay ahead on the first one.
      have htoday : wording.date.any (Calendar.liesAhead · today) = true := by
        obtain ⟨date, hdate, hahead⟩ := (Option.any_eq_true _ _).1 hlater
        exact (Option.any_eq_true _ _).2 ⟨date, hdate, Calendar.liesAhead_of_le hle hahead⟩
      rw [if_pos htoday, if_pos hlater]
      exact Or.inl rfl
    · rw [if_neg hlater]
      by_cases htoday : wording.date.any (Calendar.liesAhead · today) = true
      · rw [if_pos htoday]
        exact Or.inr ⟨rfl, rfl, rfl, map_before_movementViews _ _ _ _ _⟩
      · rw [if_neg htoday]
        exact Or.inl rfl

/-- All that the clock can do.  Of the responses to an instruction on two days, a failed one is the
same on both, a successful one stays as it is, and a pending one was the same before.  If the
instruction comes due in between, the responses differ in no more than what the execution changes. -/
theorem response_on_later_date {first second : Response}
    (hfirst : (answerText accounts today text).response = first)
    (hsecond : (answerText accounts later text).response = second) :
    (first.outcome.status = "failed" ∨ second.outcome.status = "failed" → first = second) ∧
    (first.outcome.status = "successful" → second = first) ∧
    (second.outcome.status = "pending" → first = second) ∧
    (first.outcome.status = "pending" → second.outcome.status = "successful" →
      first.AgreesButForExecution second) := by
  have hcases := @eq_or_comes_due accounts today later text hle
  rw [hfirst, hsecond] at hcases
  rcases hcases with rfl | ⟨hscheduled, hexecuted, hagrees⟩
  · refine ⟨fun _ => rfl, fun _ => rfl, fun _ => rfl, fun hpending hsuccessful => ?_⟩
    rw [hpending] at hsuccessful
    exact absurd hsuccessful (by decide)
  · rw [hscheduled, hexecuted]
    refine ⟨?_, ?_, ?_, fun _ _ => hagrees⟩
    · rintro (hfailed | hfailed) <;> exact absurd hfailed (by decide)
    · intro hsuccessful
      exact absurd hsuccessful (by decide)
    · intro hpending
      exact absurd hpending (by decide)

end Later

/-- A transfer that is dated to a day which the February of a leap year does not have. -/
def endOfFebruary : String :=
  "CREDIT 30 usd TO ACCOUNT b FOR DEBIT FROM ACCOUNT a ON 2024-02-31"

/-- The last day on which the transfer is held. -/
def firstOfMarch : Calendar.Date :=
  ⟨2024, 3, 1, by decide, by decide, by decide, by decide, by decide, by decide⟩

/-- The day for which the transfer is dated. -/
def secondOfMarch : Calendar.Date :=
  ⟨2024, 3, 2, by decide, by decide, by decide, by decide, by decide, by decide⟩

/-- The transfer comes due from one day to the next. -/
theorem endOfFebruary_comes_due :
    firstOfMarch ≤ secondOfMarch ∧
      (answerText lowerCaseAccounts firstOfMarch endOfFebruary).response.outcome.status = "pending" ∧
      (answerText lowerCaseAccounts secondOfMarch endOfFebruary).response.outcome.status =
        "successful" ∧
      (answerText lowerCaseAccounts firstOfMarch endOfFebruary).response.AgreesButForExecution
        (answerText lowerCaseAccounts secondOfMarch endOfFebruary).response := by
  have hle : firstOfMarch ≤ secondOfMarch := by decide
  have hpending : (answerText lowerCaseAccounts firstOfMarch endOfFebruary).response.outcome.status =
      "pending" := by
    decide +kernel
  have hsuccessful :
      (answerText lowerCaseAccounts secondOfMarch endOfFebruary).response.outcome.status =
        "successful" := by
    decide +kernel
  obtain ⟨_, _, _, hagrees⟩ := response_on_later_date hle rfl rfl
  exact ⟨hle, hpending, hsuccessful, hagrees hpending hsuccessful⟩

end FundsTransfer
