import Mathlib.Algebra.BigOperators.Group.List.Basic
import Mathlib.Tactic.Ring
import FundsTransfer.Proofs.Answer
import FundsTransfer.Proofs.Progress
import FundsTransfer.Session

/-!
# What an answer moves

An executed instruction takes its amount from one id and gives it to another; every other answer
moves nothing.  The views show this movement for each account that is concerned, and the accounts
take it over.

Main definitions:

- `Response.movement`: what a response adds to the balance of an id.
- `Executed`: what is known about an executed instruction.

Main results:

- Theorem `exists_executed_of_answers`: what is known about an executed instruction holds of every one.
- Theorem `views_answer`: the views are those of the accounts concerned, in order.
- Theorem `map_balance_entry`: an order adds the movement to every balance.
- Theorem `Executed.sum_movement`: what the accounts gain and lose by an execution in all.
-/

namespace FundsTransfer

/-! ## Movements -/

/-- What a response adds to the balance of the accounts with an id. -/
def Response.movement (response : Response) (id : String) : Int :=
  match response.outcome, response.amount with
  | .executed, some amount =>
    if some id = response.debitId then -amount
    else if some id = response.creditId then amount
    else 0
  | _, _ => 0

/-- Without an execution nothing is moved. -/
theorem movement_of_ne_executed {response : Response} (houtcome : response.outcome ≠ .executed)
    (id : String) : response.movement id = 0 := by
  unfold Response.movement
  split
  · rename_i hexecuted _
    exact absurd hexecuted houtcome
  · rfl

/-- Nothing is moved for an id that the response does not name. -/
theorem movement_of_not_names {response : Response} {id : String}
    (hnames : response.names id = false) : response.movement id = 0 := by
  simp only [Response.names, Bool.or_eq_false_iff, beq_eq_false_iff_ne] at hnames
  unfold Response.movement
  split
  · rw [if_neg hnames.1, if_neg hnames.2]
  · rfl

/-! ## Executions -/

variable {accounts : List Account} {today : Calendar.Date} {instruction : Json}
  {response : Response}

/-- What is known about an executed instruction: the accounts that its ids name first are two, and
the debited one covers an amount that is positive. -/
structure Executed (accounts : List Account) (response : Response) (debit credit : Account)
    (amount : Int) : Prop where
  outcome_eq : response.outcome = .executed
  debit_found : Account.find? accounts response.debitId = some debit
  credit_found : Account.find? accounts response.creditId = some credit
  amount_eq : response.amount = some amount
  amount_pos : 0 < amount
  amount_le : amount ≤ debit.balance
  id_ne : debit.id ≠ credit.id

/-- This is known when a cleared reading is repeated as executed. -/
theorem executed_of_cleared {text : String} {reading : Reading} {debit credit : Account}
    {amount : Int} {views : List View} (hread : Reading.ofText text = .ok reading)
    (hcleared : Cleared accounts reading debit credit amount)
    (hecho : Response.echo? reading .executed views = .ok response) :
    Executed accounts response debit credit amount := by
  obtain ⟨direction, _, rfl⟩ := eq_of_echo?_eq_ok hecho
  exact
    { outcome_eq := rfl
      debit_found := hcleared.debit_found
      credit_found := hcleared.credit_found
      amount_eq := hcleared.amount_eq
      amount_pos := amount_pos_of_ofText hread hcleared.amount_eq
      amount_le := hcleared.amount_le
      id_ne := hcleared.id_ne }

/-- This is known about every executed instruction. -/
theorem exists_executed_of_answers (hanswers : Answers accounts today instruction response)
    (houtcome : response.outcome = .executed) :
    ∃ debit credit amount, Executed accounts response debit credit amount := by
  cases hanswers with
  | blank hunreadable => cases houtcome
  | rejected hread hfit hprimary hreadable hecho =>
      obtain ⟨direction, _, rfl⟩ := eq_of_echo?_eq_ok hecho
      cases houtcome
  | scheduled hread hcleared hdeferred hecho =>
      obtain ⟨direction, _, rfl⟩ := eq_of_echo?_eq_ok hecho
      cases houtcome
  | executed hread hcleared hdeferred hecho =>
      exact ⟨_, _, _, executed_of_cleared hread hcleared hecho⟩

/-- An order is executed, or it moves nothing. -/
theorem executed_or_movement_eq_zero (order : Order) (accounts : List Account) :
    (∃ debit credit amount,
      Executed accounts (order.entry accounts).response debit credit amount) ∨
    ∀ id, (order.entry accounts).response.movement id = 0 := by
  by_cases houtcome : (order.entry accounts).response.outcome = .executed
  · have hanswers := answers_answer accounts order.today order.instruction
    exact Or.inl (exists_executed_of_answers hanswers houtcome)
  · exact Or.inr (movement_of_ne_executed houtcome)

namespace Executed

variable {debit credit : Account} {amount : Int}

theorem debitId_eq (hexecuted : Executed accounts response debit credit amount) :
    response.debitId = some debit.id :=
  Account.eq_some_id_of_find? hexecuted.debit_found

theorem creditId_eq (hexecuted : Executed accounts response debit credit amount) :
    response.creditId = some credit.id :=
  Account.eq_some_id_of_find? hexecuted.credit_found

/-- The accounts concerned are those with one of the two ids. -/
theorem involves_eq (hexecuted : Executed accounts response debit credit amount)
    (account : Account) :
    response.involves account = (account.id == debit.id || account.id == credit.id) := by
  rw [Response.involves, Response.names, hexecuted.debitId_eq, hexecuted.creditId_eq]
  rfl

/-- The amount is taken from the debited id and given to the credited one. -/
theorem movement_eq (hexecuted : Executed accounts response debit credit amount) (id : String) :
    response.movement id =
      if id = debit.id then -amount else if id = credit.id then amount else 0 := by
  simp only [Response.movement, hexecuted.outcome_eq, hexecuted.amount_eq, hexecuted.debitId_eq,
    hexecuted.creditId_eq, Option.some.injEq]

/-- The debited id loses the amount. -/
theorem movement_debit (hexecuted : Executed accounts response debit credit amount) :
    response.movement debit.id = -amount := by
  rw [hexecuted.movement_eq, if_pos rfl]

/-- The credited id gains the amount. -/
theorem movement_credit (hexecuted : Executed accounts response debit credit amount) :
    response.movement credit.id = amount := by
  rw [hexecuted.movement_eq, if_neg hexecuted.id_ne.symm, if_pos rfl]

/-- Ids gain the amount for each time the credited id occurs among them, and lose it for each time
the debited id does. -/
theorem sum_movement (hexecuted : Executed accounts response debit credit amount)
    (ids : List String) :
    (ids.map response.movement).sum =
      amount * ((ids.count credit.id : Int) - ids.count debit.id) := by
  induction ids with
  | nil => simp
  | cons id rest ih =>
      rw [List.map_cons, List.sum_cons, ih]
      by_cases hdebit : id = debit.id
      · rw [hdebit, hexecuted.movement_debit, List.count_cons_self,
          List.count_cons_of_ne hexecuted.id_ne]
        push_cast
        ring
      · rw [List.count_cons_of_ne hdebit]
        by_cases hcredit : id = credit.id
        · rw [hcredit, hexecuted.movement_credit, List.count_cons_self]
          push_cast
          ring
        · rw [hexecuted.movement_eq, if_neg hdebit, if_neg hcredit, List.count_cons_of_ne hcredit,
            Int.zero_add]

end Executed

/-! ## Views -/

/-- A response that names the two ids of a transfer involves the accounts that the transfer shows. -/
theorem movementViews_eq_map {response : Response} {debitId creditId : String}
    (hdebit : response.debitId = some debitId) (hcredit : response.creditId = some creditId)
    (accounts : List Account) (movement : Int) :
    movementViews accounts debitId creditId movement =
      (accounts.filter response.involves).map fun account =>
        account.view (if account.id = debitId then -movement else movement) := by
  induction accounts with
  | nil => rfl
  | cons account rest ih =>
      rw [movementViews, List.filterMap_cons, ← movementViews, ih, List.filter_cons, movementView?,
        Response.involves, Response.names, hdebit, hcredit]
      by_cases hid : account.id = debitId
      · simp [hid]
      · by_cases hother : account.id = creditId
        · subst hother
          simp [hid]
        · simp [hid, hother]

/-- A cleared reading that is repeated with the views of its transfer shows the accounts that the
response involves. -/
theorem views_eq_of_cleared {reading : Reading} {debit credit : Account} {amount movement : Int}
    {outcome : Outcome} (hcleared : Cleared accounts reading debit credit amount)
    (hecho : Response.echo? reading outcome (movementViews accounts debit.id credit.id movement) =
      .ok response) :
    response.views =
      (accounts.filter response.involves).map fun account =>
        account.view (if account.id = debit.id then -movement else movement) := by
  obtain ⟨direction, _, hresponse⟩ := eq_of_echo?_eq_ok hecho
  have hdebit : response.debitId = some debit.id := by
    rw [hresponse]
    exact hcleared.debitId_eq
  have hcredit : response.creditId = some credit.id := by
    rw [hresponse]
    exact hcleared.creditId_eq
  rw [← movementViews_eq_map hdebit hcredit, hresponse]

/-- The views of an answer are those of the accounts that it concerns, in order. -/
theorem views_eq_of_answers (hanswers : Answers accounts today instruction response) :
    response.views =
      (accounts.filter response.involves).map fun account =>
        account.view (response.movement account.id) := by
  cases hanswers with
  | blank hunreadable => simp [Response.blank, Response.involves, Response.names]
  | rejected hread hfit hprimary hreadable hecho =>
      obtain ⟨direction, _, rfl⟩ := eq_of_echo?_eq_ok hecho
      rfl
  | scheduled hread hcleared hdeferred hecho =>
      rw [views_eq_of_cleared hcleared hecho]
      obtain ⟨direction, _, rfl⟩ := eq_of_echo?_eq_ok hecho
      simp [Response.movement]
  | executed hread hcleared hdeferred hecho =>
      rename_i debit credit amount
      have hexecuted := executed_of_cleared hread hcleared hecho
      rw [views_eq_of_cleared hcleared hecho]
      refine List.map_congr_left ?_
      intro account hmem
      have hinvolves := (List.mem_filter.1 hmem).2
      rw [hexecuted.involves_eq, Bool.or_eq_true, beq_iff_eq, beq_iff_eq] at hinvolves
      rcases hinvolves with hid | hid
      · rw [if_pos hid, hid, hexecuted.movement_debit]
      · have hne : account.id ≠ debit.id := by
          rw [hid]
          exact hexecuted.id_ne.symm
        rw [if_neg hne, hid, hexecuted.movement_credit]

/-- The views of an answer are those of the accounts that it concerns, in order. -/
theorem views_answer (accounts : List Account) (today : Calendar.Date) (instruction : Json) :
    (answer accounts today instruction).response.views =
      (accounts.filter (answer accounts today instruction).response.involves).map fun account =>
        account.view ((answer accounts today instruction).response.movement account.id) :=
  views_eq_of_answers (answers_answer accounts today instruction)

/-! ## Accounts after an answer -/

/-- Views that are made for the holders involved, one for each, come to the holders for whom they
were made. -/
theorem handOut_map {α : Type} (involved : α → Bool) (adopt : α → View → α) (view : α → View)
    (holders : List α) :
    handOut involved adopt holders ((holders.filter involved).map view) =
      holders.map fun holder => if involved holder then adopt holder (view holder) else holder := by
  induction holders with
  | nil => rfl
  | cons holder rest ih =>
      by_cases hinvolved : involved holder
      · simp [handOut, hinvolved, ih]
      · simp [handOut, hinvolved, ih]

/-- An account after a response that moves its balance. -/
def Response.settled (response : Response) (account : Account) : Account :=
  if response.involves account then account.adopt (account.view (response.movement account.id))
  else account

@[simp]
theorem id_settled (response : Response) (account : Account) :
    (response.settled account).id = account.id := by
  unfold Response.settled
  split <;> rfl

/-- The movement is added to the balance. -/
@[simp]
theorem balance_settled (response : Response) (account : Account) :
    (response.settled account).balance = account.balance + response.movement account.id := by
  unfold Response.settled
  split
  · rfl
  · rename_i hinvolves
    rw [movement_of_not_names (Bool.eq_false_iff.2 hinvolves), Int.add_zero]

/-- An order settles every account by itself. -/
theorem accounts_entry (order : Order) (accounts : List Account) :
    (order.entry accounts).accounts =
      accounts.map (order.entry accounts).response.settled := by
  unfold Order.entry Response.adopt
  dsimp only
  rw [views_answer, handOut_map]
  rfl

/-- An order adds the movement to every balance. -/
theorem map_balance_entry (order : Order) (accounts : List Account) :
    (order.entry accounts).accounts.map Account.balance =
      accounts.map fun account =>
        account.balance + (order.entry accounts).response.movement account.id := by
  rw [accounts_entry, List.map_map]
  exact List.map_congr_left fun account _ => balance_settled _ account

end FundsTransfer
