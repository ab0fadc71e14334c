import FundsTransfer.Instruction.Direction
import FundsTransfer.Breach

/-!
# Readings

What has been read of an instruction: its parts as far as they are known, and the breaches of the
grammar that were met on the way.

Main definitions:

- `Reading`: the parts and the breaches.
- `Reading.lead`: the side that the instruction opens with.
- `Reading.withAccount`: enters an account on one side.
- `Reading.report`: adds a breach.
-/

namespace FundsTransfer

/-- The parts of an instruction, as far as they are known, and the breaches of its wording. -/
structure Reading where
  heading : Option Heading := none
  amount : Option Int := none
  currency : Option String := none
  debitId : Option String := none
  creditId : Option String := none
  executeBy : Option String := none
  breaches : List Breach := []
deriving DecidableEq, Repr

namespace Reading

/-- The side that the instruction opens with; without the keyword of a debit it is a credit. -/
def lead (reading : Reading) : Direction :=
  if reading.heading = some (.side .debit) then .debit else .credit

/-- The id of the account on a side. -/
def accountId (reading : Reading) : Direction → Option String
  | .debit => reading.debitId
  | .credit => reading.creditId

/-- The reading with an account entered on a side. -/
def withAccount (reading : Reading) (side : Direction) (id : String) : Reading :=
  match side with
  | .debit => { reading with debitId := some id }
  | .credit => { reading with creditId := some id }

/-- The reading with one more breach. -/
def report (reading : Reading) (breach : Breach) : Reading :=
  { reading with breaches := reading.breaches ++ [breach] }

@[simp]
theorem breaches_report (reading : Reading) (breach : Breach) :
    (reading.report breach).breaches = reading.breaches ++ [breach] := rfl

@[simp]
theorem lead_report (reading : Reading) (breach : Breach) :
    (reading.report breach).lead = reading.lead := rfl

@[simp]
theorem accountId_withAccount_self (reading : Reading) (side : Direction) (id : String) :
    (reading.withAccount side id).accountId side = some id := by
  cases side <;> rfl

@[simp]
theorem accountId_withAccount_opposite (reading : Reading) (side : Direction) (id : String) :
    (reading.withAccount side id).accountId side.opposite = reading.accountId side.opposite := by
  cases side <;> rfl

@[simp]
theorem breaches_withAccount (reading : Reading) (side : Direction) (id : String) :
    (reading.withAccount side id).breaches = reading.breaches := by
  cases side <;> rfl

end Reading

end FundsTransfer
