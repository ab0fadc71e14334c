import FundsTransfer.Account.Basic
import FundsTransfer.Fault
import FundsTransfer.Instruction.Reading
import FundsTransfer.Text.Uppercase

/-!
# Responses

The response to an instruction says what became of it, repeats its parts and shows the accounts that
it concerns before and after.

Main definitions:

- `Outcome`: executed, scheduled or rejected, with its status, code and reason.
- `View`: an account before and after.
- `Response`: the response to an instruction, and `Response.toJson`, its JSON form.
- `Response.echo?`: the response that repeats a reading.
- `Response.blank`: the response that repeats nothing.
- `Response.names`, `Response.involves`: the ids and the accounts that a response concerns.
-/

namespace FundsTransfer

/-- What becomes of an instruction. -/
inductive Outcome where
  | executed
  | scheduled
  | rejected (breach : Breach)
deriving DecidableEq, Repr

namespace Outcome

/-- The word for an outcome. -/
def status : Outcome → String
  | executed => "successful"
  | scheduled => "pending"
  | rejected _ => "failed"

/-- The code of an outcome; that of a rejection is the code of the breach. -/
def code : Outcome → String
  | executed => "AP00"
  | scheduled => "AP02"
  | rejected breach => breach.code.text

/-- The reason that is given for an outcome. -/
def reason : Outcome → String
  | executed => "Transaction executed successfully"
  | scheduled => "Transaction scheduled for future execution"
  | rejected breach => breach.message

/-- An outcome is a rejection. -/
def isRejected : Outcome → Bool
  | rejected _ => true
  | _ => false

/-- The status of a rejection is that of no other outcome. -/
theorem status_eq_failed_iff {outcome : Outcome} :
    outcome.status = "failed" ↔ outcome.isRejected = true := by
  cases outcome <;> simp [status, isRejected]

end Outcome

/-- An account before and after an instruction, with its currency in upper case. -/
structure View where
  id : String
  balance : Int
  balanceBefore : Int
  currency : String
deriving DecidableEq, Repr

/-- The view of an account whose balance changes by a movement. -/
def Account.view (account : Account) (movement : Int) : View :=
  ⟨account.id, account.balance + movement, account.balance, Text.upper account.currency⟩

/-- The response to an instruction. -/
structure Response where
  direction : Option Direction := none
  amount : Option Int := none
  currency : Option String := none
  debitId : Option String := none
  creditId : Option String := none
  executeBy : Option String := none
  outcome : Outcome
  views : List View := []
deriving DecidableEq, Repr

/-- The direction of a reading; a heading that names no side is refused. -/
def Reading.direction? (reading : Reading) : Except Fault (Option Direction) :=
  match reading.heading with
  | none => .ok none
  | some (.side side) => .ok (some side)
  | some (.word _ _) => .error (.invalid [⟨[.name "type"], .unknownDirection⟩])

namespace Response

/-- The response that repeats nothing of the instruction and shows no account. -/
def blank (breach : Breach) : Response :=
  { outcome := .rejected breach }

/-- The response that repeats the parts of a reading. -/
def echo? (reading : Reading) (outcome : Outcome) (views : List View) : Except Fault Response :=
  reading.direction?.map fun direction =>
    { direction := direction
      amount := reading.amount
      currency := reading.currency
      debitId := reading.debitId
      creditId := reading.creditId
      executeBy := reading.executeBy
      outcome := outcome
      views := views }

/-- A response names the two ids that it repeats. -/
def names (response : Response) (id : String) : Bool :=
  some id == response.debitId || some id == response.creditId

/-- A response involves the accounts whose id it names. -/
def involves (response : Response) (account : Account) : Bool :=
  response.names account.id

end Response

/-- A view as JSON. -/
def View.toJson {Torn : Type} (view : View) : Value Torn :=
  .obj [("id", .str view.id), ("balance", .int view.balance),
    ("balance_before", .int view.balanceBefore), ("currency", .str view.currency)]

/-- A response as JSON. -/
def Response.toJson {Torn : Type} (response : Response) : Value Torn :=
  .obj [("type", .ofText? (response.direction.map Direction.keyword)),
    ("amount", .ofInt? response.amount),
    ("currency", .ofText? response.currency),
    ("debit_account", .ofText? response.debitId),
    ("credit_account", .ofText? response.creditId),
    ("execute_by", .ofText? response.executeBy),
    ("status", .str response.outcome.status),
    ("status_reason", .str response.outcome.reason),
    ("status_code", .str response.outcome.code),
    ("accounts", .arr (response.views.map View.toJson))]

end FundsTransfer
