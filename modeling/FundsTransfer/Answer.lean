import FundsTransfer.Account.Validation
import FundsTransfer.Instruction.Progress
import FundsTransfer.Execution

/-!
# Answers

An instruction is read, examined and then carried out or rejected, and the log keeps what happened.
There is always an answer: an instruction that cannot be handled at all counts as malformed.

Main definitions:

- `Event`: the entries of the log, with their level, name and details.
- `Attempt`: the entries that an attempt has made and the response or fault it came to.
- `attempt`: reads and examines a text, and carries it out or rejects it.
- `Answer`: a response and the log of how it came about.
- `answer`: the answer to an instruction.
- `Validation.answer`: the same on accounts that are still to be checked.
-/

namespace FundsTransfer

/-- The entries of the log. -/
inductive Event where
  /-- An instruction came in, with this many accounts. -/
  | received (instruction : Json) (accounts : Nat)
  /-- An instruction was rejected for one of these breaches. -/
  | failed (breach : Breach) (breaches : List Breach)
  /-- An instruction was executed or scheduled. -/
  | settled (response : Response)
  /-- An instruction could not be handled. -/
  | broken (instruction : Json)

namespace Event

/-- The level of an entry. -/
def level : Event → String
  | received _ _ => "INFO"
  | failed _ _ => "WARNING"
  | settled _ => "INFO"
  | broken _ => "ERROR"

/-- The name of an entry. -/
def name : Event → String
  | received _ _ => "instruction.received"
  | failed _ _ => "instruction.failed"
  | settled _ => "instruction.settled"
  | broken _ => "instruction.error"

/-- The details of an entry. -/
def details : Event → Json
  | received instruction accounts =>
    .obj [("instruction", instruction), ("accounts", .int accounts)]
  | failed breach breaches =>
    .obj [("status_code", .str breach.code.text),
      ("violations", .arr (breaches.map fun b => .str b.code.text))]
  | settled response =>
    .obj [("status", .str response.outcome.status),
      ("debit_account", .ofText? response.debitId),
      ("credit_account", .ofText? response.creditId),
      ("amount", .ofInt? response.amount)]
  | broken instruction => .obj [("instruction", instruction)]

/-- An entry as JSON. -/
def toJson (event : Event) : Json :=
  .obj [("level", .str event.level), ("event", .str event.name), ("extra", event.details)]

end Event

/-- The entries that an attempt has made, and the response or the fault it came to. -/
structure Attempt where
  events : List Event
  result : Except Fault Response

/-- The attempt that ends with an execution, which is logged unless a fault stops it. -/
def Attempt.ofExecution : Except Fault Response → Attempt
  | .ok response => ⟨[.settled response], .ok response⟩
  | .error fault => ⟨[], .error fault⟩

/-- Carries an instruction out or rejects it after what was found out about it. -/
def attemptFound (accounts : List Account) (today : Calendar.Date) (reading : Reading)
    (found : Findings) : Attempt :=
  match primary? found.breaches with
  | some breach => ⟨[.failed breach found.breaches], reject accounts reading breach⟩
  | none => .ofExecution (carryOut accounts reading found.debit found.credit today)

/-- Examines a reading, and carries it out or rejects it. -/
def attemptReading (accounts : List Account) (today : Calendar.Date) (reading : Reading) :
    Attempt :=
  match inspect accounts reading with
  | .ok found => attemptFound accounts today reading found
  | .error fault => ⟨[], .error fault⟩

/-- Reads and examines a text, and carries it out or rejects it. -/
def attempt (accounts : List Account) (today : Calendar.Date) (text : String) : Attempt :=
  match Reading.ofText text with
  | .ok reading => attemptReading accounts today reading
  | .error fault => ⟨[], .error fault⟩

/-- The response to an instruction and the log of how it came about. -/
structure Answer where
  response : Response
  events : List Event

/-- The answer after an attempt at an instruction: a fault counts as malformed. -/
def Attempt.conclude (tried : Attempt) (instruction : Json) (accounts : Nat) : Answer :=
  match tried.result with
  | .ok response => ⟨response, .received instruction accounts :: tried.events⟩
  | .error _ =>
    ⟨Response.blank .malformed,
      .received instruction accounts :: tried.events ++ [.broken instruction]⟩

/-- The answer to the text of an instruction. -/
def answerText (accounts : List Account) (today : Calendar.Date) (text : String) : Answer :=
  (attempt accounts today text).conclude (.str text) accounts.length

/-- The answer to an instruction; one that is no text cannot be read. -/
def answer (accounts : List Account) (today : Calendar.Date) : Json → Answer
  | .str text => answerText accounts today text
  | instruction =>
    ⟨Response.blank .malformed, [.received instruction accounts.length, .broken instruction]⟩

/-- The answer to an instruction on accounts that are still to be checked. -/
def Validation.answer {Torn : Type} (v : Validation Torn) (accounts : List (Value Torn))
    (today : Calendar.Date) (instruction : Json) : Except Fault Answer :=
  match v.eachAccount accounts with
  | .ok accounts => .ok (FundsTransfer.answer accounts today instruction)
  | .error complaints => .error (.invalid complaints)

/-- The answer to an instruction on accounts that are still to be checked, in the standard
validation. -/
def answerUnchecked (accounts : List Json) (today : Calendar.Date) (instruction : Json) :
    Except Fault Answer :=
  Validation.standard.answer accounts today instruction

end FundsTransfer
