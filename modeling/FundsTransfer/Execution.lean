import FundsTransfer.Calendar.Stamp
import FundsTransfer.Findings
import FundsTransfer.Response

/-!
# Execution

An instruction against which nothing was found is carried out at once, or held if its date lies
ahead.  One with a breach is rejected, and the accounts are shown as they are.

Main definitions:

- `isDeferred`: the instructions that are held.
- `movementViews`: the accounts concerned, before and after the movement of an amount.
- `carryOut`: the response to an instruction without a breach.
- `reject`: the response to an instruction with a breach.
- `handOut`: the handing out of views to those whom they concern.
- `Response.adopt`: the accounts after a response.

Main results:

- Theorem `map_id_adopt`: the accounts after a response have the ids they had before.
-/

namespace FundsTransfer

/-- An instruction is held when it names a date after today. -/
def isDeferred (reading : Reading) (today : Calendar.Date) : Except Fault Bool :=
  match named? reading.executeBy with
  | some date => Calendar.isAfter date today
  | none => .ok false

/-- The view of an account in a transfer: the id of the debited account loses the movement, the id
of the credited account gains it, and other accounts are not shown. -/
def movementView? (debitId creditId : String) (movement : Int) (account : Account) :
    Option View :=
  if account.id = debitId then some (account.view (-movement))
  else if account.id = creditId then some (account.view movement)
  else none

/-- The views of a transfer, in the order of the accounts. -/
def movementViews (accounts : List Account) (debitId creditId : String) (movement : Int) :
    List View :=
  accounts.filterMap (movementView? debitId creditId movement)

/-- Transfers an amount between two accounts, or holds the transfer without a movement. -/
def transfer (accounts : List Account) (reading : Reading) (debit credit : Account) (amount : Int)
    (today : Calendar.Date) : Except Fault Response :=
  match isDeferred reading today with
  | .ok true => Response.echo? reading .scheduled (movementViews accounts debit.id credit.id 0)
  | .ok false => Response.echo? reading .executed (movementViews accounts debit.id credit.id amount)
  | .error fault => .error fault

/-- Carries an instruction out between the accounts that were found. -/
def carryOut (accounts : List Account) (reading : Reading) (debit credit : Option Account)
    (today : Calendar.Date) : Except Fault Response :=
  match debit, credit, reading.amount with
  | some debit, some credit, some amount => transfer accounts reading debit credit amount today
  | _, _, _ => .error .incompleteTransfer

/-- The accounts that a reading names, as they are. -/
def namedViews (accounts : List Account) (reading : Reading) : List View :=
  (accounts.filter fun account =>
    some account.id == reading.debitId || some account.id == reading.creditId).map (·.view 0)

/-- Rejects an instruction.  If its wording is unreadable the response repeats nothing of it; a
breach of an unknown kind cannot be answered. -/
def reject (accounts : List Account) (reading : Reading) (breach : Breach) :
    Except Fault Response :=
  if breach.code.isUnreadable then .ok (Response.blank breach)
  else if breach.code.isKnown then
    Response.echo? reading (.rejected breach) (namedViews accounts reading)
  else .error .unknownCode

/-- An account with the balance and the currency of a view. -/
def Account.adopt (account : Account) (view : View) : Account :=
  { account with balance := view.balance, currency := view.currency }

/-- Hands the views one by one to the holders that are involved. -/
def handOut {α : Type} (involved : α → Bool) (adopt : α → View → α) : List α → List View → List α
  | [], _ => []
  | holder :: rest, views =>
    if involved holder then
      match views with
      | [] => holder :: rest
      | view :: later => adopt holder view :: handOut involved adopt rest later
    else holder :: handOut involved adopt rest views

/-- The accounts after a response: those that are involved take over the views. -/
def Response.adopt (response : Response) (accounts : List Account) : List Account :=
  handOut response.involves Account.adopt accounts response.views

/-- Without views the holders stay as they are. -/
theorem handOut_nil {α : Type} (involved : α → Bool) (adopt : α → View → α) (holders : List α) :
    handOut involved adopt holders [] = holders := by
  induction holders with
  | nil => rfl
  | cons holder rest ih => by_cases h : involved holder <;> simp [handOut, h, ih]

/-- What a view does not change stays as it is when views are handed out. -/
theorem map_handOut {α β : Type} {involved : α → Bool} {adopt : α → View → α} {f : α → β}
    (h : ∀ holder view, f (adopt holder view) = f holder) (holders : List α) (views : List View) :
    (handOut involved adopt holders views).map f = holders.map f := by
  induction holders generalizing views with
  | nil => rfl
  | cons holder rest ih =>
    by_cases hin : involved holder
    · cases views <;> simp [handOut, hin, ih, h]
    · simp [handOut, hin, ih]

/-- The ids of the accounts stay as they are. -/
theorem map_id_adopt (response : Response) (accounts : List Account) :
    (response.adopt accounts).map Account.id = accounts.map Account.id := by
  rw [Response.adopt]
  exact map_handOut (fun _ _ => by rfl) _ _

end FundsTransfer
