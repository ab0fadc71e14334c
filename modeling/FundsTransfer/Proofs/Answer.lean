import FundsTransfer.Answer
import FundsTransfer.Proofs.Findings
import FundsTransfer.Proofs.Precedence

/-!
# How an answer comes about

A text is read, examined and then carried out or rejected; whatever faults on the way ends in a
response that repeats nothing.  This module takes an answer apart again.

Main definitions:

- `Answers`: the responses that an instruction can have, each with what is known about it.

Main results:

- Theorem `answers_answer`: every response is of one of these kinds.
-/

namespace FundsTransfer

/-! ## Step by step -/

/-- The response to a text is that of the attempt at its reading, unless that ends in a fault. -/
theorem response_answerText_of_ok {accounts : List Account} {today : Calendar.Date} {text : String}
    {reading : Reading} {response : Response} (hread : Reading.ofText text = .ok reading)
    (hresult : (attemptReading accounts today reading).result = .ok response) :
    (answerText accounts today text).response = response := by
  simp only [answerText, attempt, hread, Attempt.conclude, hresult]

/-- The response to a text that cannot be read repeats nothing. -/
theorem response_answerText_of_error {accounts : List Account} {today : Calendar.Date}
    {text : String} {fault : Fault} (hread : Reading.ofText text = .error fault) :
    (answerText accounts today text).response = Response.blank .malformed := by
  simp only [answerText, attempt, hread, Attempt.conclude]

/-- Texts that are read alike have the same response. -/
theorem response_answerText_congr {text other : String}
    (hread : Reading.ofText text = Reading.ofText other) (accounts : List Account)
    (today : Calendar.Date) :
    (answerText accounts today text).response = (answerText accounts today other).response := by
  simp only [answerText, attempt, hread, Attempt.conclude]
  split <;> rfl

/-- An execution is logged but not changed. -/
@[simp]
theorem result_ofExecution (execution : Except Fault Response) :
    (Attempt.ofExecution execution).result = execution := by
  cases execution <;> rfl

/-- If the figures in the messages fit, an attempt goes by what was found out. -/
theorem attemptReading_of_figuresFit {accounts : List Account} {today : Calendar.Date}
    {reading : Reading} (hfit : FiguresFit accounts reading) :
    attemptReading accounts today reading =
      attemptFound accounts today reading (examine accounts reading) := by
  simp only [attemptReading, inspect_of_figuresFit hfit]

/-- If a figure does not fit, an attempt ends before anything is logged. -/
theorem attemptReading_of_not_figuresFit {accounts : List Account} {today : Calendar.Date}
    {reading : Reading} (hunfit : ¬ FiguresFit accounts reading) :
    attemptReading accounts today reading = ⟨[], .error .unwritableInteger⟩ := by
  simp only [attemptReading, inspect_of_not_figuresFit hunfit]

/-- The response to a text repeats nothing if a figure in the messages about it does not fit. -/
theorem response_answerText_of_not_figuresFit {accounts : List Account} {today : Calendar.Date}
    {text : String} {reading : Reading} (hread : Reading.ofText text = .ok reading)
    (hunfit : ¬ FiguresFit accounts reading) :
    (answerText accounts today text).response = Response.blank .malformed := by
  simp only [answerText, attempt, hread, attemptReading_of_not_figuresFit hunfit, Attempt.conclude]

/-- An instruction with a breach is rejected for the breach that counts. -/
theorem result_attemptReading_of_some {accounts : List Account} {today : Calendar.Date}
    {reading : Reading} {breach : Breach} (hfit : FiguresFit accounts reading)
    (hprimary : primary? (examine accounts reading).breaches = some breach) :
    (attemptReading accounts today reading).result = reject accounts reading breach := by
  simp only [attemptReading_of_figuresFit hfit, attemptFound, hprimary]

/-- An instruction without a breach is carried out between the accounts that it names. -/
theorem result_attemptReading_of_none {accounts : List Account} {today : Calendar.Date}
    {reading : Reading} (hprimary : primary? (examine accounts reading).breaches = none) :
    (attemptReading accounts today reading).result =
      carryOut accounts reading (Account.find? accounts reading.debitId)
        (Account.find? accounts reading.creditId) today := by
  have hfit := figuresFit_of_breaches_eq_nil (primary?_eq_none_iff.1 hprimary)
  simp only [attemptReading_of_figuresFit hfit, attemptFound, hprimary, result_ofExecution]
  rfl

/-- A rejection that does not make the instruction unreadable repeats its reading. -/
theorem reject_eq_echo? {accounts : List Account} {reading : Reading} {breach : Breach}
    (hreadable : breach.code.isUnreadable = false) (hknown : breach.code.isKnown = true) :
    reject accounts reading breach =
      Response.echo? reading (.rejected breach) (namedViews accounts reading) := by
  simp [reject, hreadable, hknown]

/-- A response that repeats a reading has its parts. -/
theorem eq_of_echo?_eq_ok {reading : Reading} {outcome : Outcome} {views : List View}
    {response : Response} (hecho : Response.echo? reading outcome views = .ok response) :
    ∃ direction, reading.direction? = .ok direction ∧
      response =
        { direction := direction
          amount := reading.amount
          currency := reading.currency
          debitId := reading.debitId
          creditId := reading.creditId
          executeBy := reading.executeBy
          outcome := outcome
          views := views } := by
  unfold Response.echo? at hecho
  cases hdirection : reading.direction? with
  | error fault =>
      rw [hdirection] at hecho
      cases hecho
  | ok direction =>
      rw [hdirection] at hecho
      cases hecho
      exact ⟨direction, rfl, rfl⟩

/-- A response that repeats a reading states the outcome. -/
theorem outcome_of_echo? {reading : Reading} {outcome : Outcome} {views : List View}
    {response : Response} (hecho : Response.echo? reading outcome views = .ok response) :
    response.outcome = outcome := by
  obtain ⟨direction, _, rfl⟩ := eq_of_echo?_eq_ok hecho
  rfl

/-! ## Kinds of responses -/

/-- The responses that an instruction can have. -/
inductive Answers (accounts : List Account) (today : Calendar.Date) : Json → Response → Prop where
  /-- The instruction is unreadable or could not be handled. -/
  | blank {instruction : Json} {breach : Breach} (hunreadable : breach.code.isUnreadable = true) :
      Answers accounts today instruction (Response.blank breach)
  /-- The instruction is readable, but something was found against it. -/
  | rejected {text : String} {reading : Reading} {breach : Breach} {response : Response}
      (hread : Reading.ofText text = .ok reading) (hfit : FiguresFit accounts reading)
      (hprimary : primary? (examine accounts reading).breaches = some breach)
      (hreadable : breach.code.isUnreadable = false)
      (hecho : Response.echo? reading (.rejected breach) (namedViews accounts reading) =
        .ok response) :
      Answers accounts today (.str text) response
  /-- Nothing was found against the instruction, but its date lies ahead. -/
  | scheduled {text : String} {reading : Reading} {debit credit : Account} {amount : Int}
      {response : Response} (hread : Reading.ofText text = .ok reading)
      (hcleared : Cleared accounts reading debit credit amount)
      (hdeferred : isDeferred reading today = .ok true)
      (hecho : Response.echo? reading .scheduled (movementViews accounts debit.id credit.id 0) =
        .ok response) :
      Answers accounts today (.str text) response
  /-- Nothing was found against the instruction, and it was carried out at once. -/
  | executed {text : String} {reading : Reading} {debit credit : Account} {amount : Int}
      {response : Response} (hread : Reading.ofText text = .ok reading)
      (hcleared : Cleared accounts reading debit credit amount)
      (hdeferred : isDeferred reading today = .ok false)
      (hecho : Response.echo? reading .executed (movementViews accounts debit.id credit.id amount) =
        .ok response) :
      Answers accounts today (.str text) response

variable {accounts : List Account} {today : Calendar.Date}

/-- An instruction that is rejected is unreadable, or its response repeats it. -/
theorem answers_of_reject {text : String} {reading : Reading} {breach : Breach}
    {response : Response} (hread : Reading.ofText text = .ok reading)
    (hfit : FiguresFit accounts reading)
    (hprimary : primary? (examine accounts reading).breaches = some breach)
    (hresult : reject accounts reading breach = .ok response) :
    Answers accounts today (.str text) response := by
  unfold reject at hresult
  split at hresult
  · rename_i hunreadable
    cases hresult
    exact .blank hunreadable
  · rename_i hreadable
    split at hresult
    · exact .rejected hread hfit hprimary (Bool.eq_false_iff.2 hreadable) hresult
    · cases hresult

/-- An instruction that is carried out has two accounts and an amount, and is held or executed. -/
theorem answers_of_carryOut {text : String} {reading : Reading} {response : Response}
    (hread : Reading.ofText text = .ok reading)
    (hnone : (examine accounts reading).breaches = [])
    (hresult : carryOut accounts reading (Account.find? accounts reading.debitId)
      (Account.find? accounts reading.creditId) today = .ok response) :
    Answers accounts today (.str text) response := by
  unfold carryOut at hresult
  split at hresult
  · rename_i debit credit amount hdebit hcredit hamount
    have hcleared : Cleared accounts reading debit credit amount :=
      ⟨hdebit, hcredit, hamount, hnone⟩
    unfold transfer at hresult
    split at hresult
    · rename_i hdeferred
      exact .scheduled hread hcleared hdeferred hresult
    · rename_i hdeferred
      exact .executed hread hcleared hdeferred hresult
    · cases hresult
  · cases hresult

/-- The response to an instruction is of one of these kinds. -/
theorem answers_answer (accounts : List Account) (today : Calendar.Date) (instruction : Json) :
    Answers accounts today instruction (answer accounts today instruction).response := by
  have hmalformed : Breach.malformed.code.isUnreadable = true := rfl
  cases instruction with
  | str text =>
      simp only [answer, answerText, attempt]
      cases hread : Reading.ofText text with
      | error fault => exact .blank hmalformed
      | ok reading =>
          simp only [Attempt.conclude]
          cases hresult : (attemptReading accounts today reading).result with
          | error fault => exact .blank hmalformed
          | ok response =>
              have hfit : FiguresFit accounts reading := by
                by_contra hunfit
                rw [attemptReading_of_not_figuresFit hunfit] at hresult
                cases hresult
              cases hprimary : primary? (examine accounts reading).breaches with
              | some breach =>
                  rw [result_attemptReading_of_some hfit hprimary] at hresult
                  exact answers_of_reject hread hfit hprimary hresult
              | none =>
                  rw [result_attemptReading_of_none hprimary] at hresult
                  exact answers_of_carryOut hread (primary?_eq_none_iff.1 hprimary) hresult
  | _ => exact .blank hmalformed

end FundsTransfer
