import FundsTransfer.Answer

/-!
# Sessions

Instructions are answered one after another, each on the accounts that the response to the one
before has left.  Accounts that are handed in as JSON are answered as JSON: what a response does not
overwrite in them stays as it was written.

Main definitions:

- `Order`: an instruction and the date on which it is given.
- `Entry`: the response to an order and the accounts after it.
- `session`: the entries of a list of orders.
- `sessionUnchecked`: the same for accounts that are still to be checked.

Main results:

- Theorem `length_session`: every order is answered.
- Theorem `map_id_entry`: an order leaves the ids of the accounts as they are.
- Theorem `checkEach_adoptDocuments`: a response does the same to accounts in either form.
-/

namespace FundsTransfer

/-- An instruction and the date on which it is given. -/
structure Order where
  instruction : Json
  today : Calendar.Date

/-- The response to an order and the accounts after it, in one form or the other. -/
structure Entry (Form : Type) where
  response : Response
  accounts : List Form
deriving DecidableEq, Repr

/-- The entry of one order. -/
def Order.entry (order : Order) (accounts : List Account) : Entry Account :=
  let response := (answer accounts order.today order.instruction).response
  ⟨response, response.adopt accounts⟩

/-- The entries of orders that are given one after another. -/
def session (accounts : List Account) : List Order → List (Entry Account)
  | [] => []
  | order :: rest =>
    let entry := order.entry accounts
    entry :: session entry.accounts rest

/-! ## Accounts as they are handed in -/

/-- An account in JSON with the balance and the currency of a view. -/
def adoptDocument (document : Json) (view : View) : Json :=
  match document with
  | .obj members =>
    .obj (Value.put "currency" (.str view.currency)
      (Value.put "balance" (.int view.balance) members))
  | other => other

/-- A response involves the accounts in JSON whose id it names. -/
def Response.involvesDocument (response : Response) (document : Json) : Bool :=
  match document.get? "id" with
  | some (.str id) => response.names id
  | _ => false

/-- The accounts in JSON after a response. -/
def Response.adoptDocuments (response : Response) (documents : List Json) : List Json :=
  handOut response.involvesDocument adoptDocument documents response.views

/-- The entries with the accounts in JSON. -/
def retrace (documents : List Json) : List (Entry Account) → List (Entry Json)
  | [] => []
  | entry :: rest =>
    let later := entry.response.adoptDocuments documents
    ⟨entry.response, later⟩ :: retrace later rest

/-- The entries of orders on accounts that are still to be checked.  The accounts are not looked at
before there is an order. -/
def sessionUnchecked (documents : List Json) (orders : List Order) :
    Except Fault (List (Entry Json)) :=
  if orders.isEmpty then .ok []
  else
    match Account.checkEach documents with
    | .ok accounts => .ok (retrace documents (session accounts orders))
    | .error complaints => .error (.invalid complaints)

/-! ## Laws -/

@[simp]
theorem session_nil (accounts : List Account) : session accounts [] = [] := rfl

/-- Every order is answered. -/
@[simp]
theorem length_session (accounts : List Account) (orders : List Order) :
    (session accounts orders).length = orders.length := by
  induction orders generalizing accounts with
  | nil => rfl
  | cons order rest ih => simp [session, ih]

/-- An order leaves the ids of the accounts as they are. -/
theorem map_id_entry (order : Order) (accounts : List Account) :
    (order.entry accounts).accounts.map Account.id = accounts.map Account.id :=
  map_id_adopt _ _

/-- An account in JSON takes over a view as the account itself does. -/
theorem check_adoptDocument {otherwise : Defect} {document : Json} {account : Account}
    (h : Account.check otherwise document = .ok account) (view : View) :
    Account.check otherwise (adoptDocument document view) = .ok (account.adopt view) := by
  obtain ⟨members, rfl⟩ := Account.exists_members_of_check_eq_ok h
  have hid := (Account.check_obj_eq_ok_iff.1 h).1
  refine Account.check_obj_eq_ok_iff.2 ⟨?_, ⟨.int view.balance, ?_, rfl⟩, ?_⟩
  · rw [Value.lookup_put_of_ne (by decide), Value.lookup_put_of_ne (by decide), hid]
    rfl
  · rw [Value.lookup_put_of_ne (by decide), Value.lookup_put_self]
  · rw [Value.lookup_put_self]
    rfl

/-- A response involves an account in either form. -/
theorem involvesDocument_eq {otherwise : Defect} {document : Json} {account : Account}
    (h : Account.check otherwise document = .ok account) (response : Response) :
    response.involvesDocument document = response.involves account := by
  obtain ⟨members, rfl⟩ := Account.exists_members_of_check_eq_ok h
  have hid := (Account.check_obj_eq_ok_iff.1 h).1
  simp [Response.involvesDocument, Response.involves, Value.get?, hid]

/-- A response does the same to accounts in either form. -/
theorem checkEach_adoptDocuments {documents : List Json} {accounts : List Account}
    (h : Account.checkEach documents = .ok accounts) (response : Response) :
    Account.checkEach (response.adoptDocuments documents) = .ok (response.adopt accounts) := by
  unfold Response.adoptDocuments Response.adopt
  generalize response.views = views
  induction documents generalizing accounts views with
  | nil =>
    cases h
    rfl
  | cons document rest ih =>
    obtain ⟨account, later, hd, hr, rfl⟩ := Validation.eachAccount_cons_eq_ok_iff.1 h
    have hin := involvesDocument_eq hd response
    by_cases hinv : response.involves account
    · cases views with
      | nil => simpa [handOut, hin, hinv] using h
      | cons view views =>
        simp only [handOut, hin, hinv, if_true]
        exact Validation.eachAccount_cons_eq_ok_iff.2
          ⟨_, _, check_adoptDocument hd view, ih hr views, rfl⟩
    · simp only [handOut, hin, hinv, Bool.false_eq_true, if_false]
      exact Validation.eachAccount_cons_eq_ok_iff.2 ⟨_, _, hd, ih hr views, rfl⟩

end FundsTransfer
