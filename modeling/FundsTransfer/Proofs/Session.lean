import Mathlib.Data.List.Forall2
import FundsTransfer.Proofs.Settlement

/-!
# What lasts through a session

One order settles each account by itself, so that what an order preserves can be read off the
movement of its response.  By induction on the orders it is preserved by the whole session.

Main definitions:

- `totalBalance`: the balances of some accounts in all.
- `Account.StaysSolvent`: an account that has not been overdrawn, or not any further.
- `Account.KeepsDebt`: an account that has lost nothing if it had nothing to lose.

Main results:

- Theorem `session_conserves_total`: a session neither makes nor destroys money.
- Theorem `session_never_overdraws`: no order of a session overdraws an account.
-/

namespace FundsTransfer

/-! ## Invariants of a session -/

/-- What every order preserves holds after every order of a session. -/
theorem invariant_of_mem_session {P : List Account → Prop}
    (hstep : ∀ order accounts, P accounts → P (Order.entry order accounts).accounts)
    {accounts : List Account} {orders : List Order} {entry : Entry Account} (hP : P accounts)
    (hmem : entry ∈ session accounts orders) : P entry.accounts := by
  induction orders generalizing accounts with
  | nil => cases hmem
  | cons order rest ih =>
      rw [session, List.mem_cons] at hmem
      rcases hmem with rfl | hlater
      · exact hstep order accounts hP
      · exact ih (hstep order accounts hP) hlater

/-- What holds between the accounts before and after every order that meets an invariant holds
between the accounts before and after every order of a session. -/
theorem isChain_session {P : List Account → Prop} {R : List Account → List Account → Prop}
    (hstep : ∀ order accounts, P accounts → P (Order.entry order accounts).accounts)
    (hrelated : ∀ order accounts, P accounts → R accounts (Order.entry order accounts).accounts)
    {accounts : List Account} (orders : List Order) (hP : P accounts) :
    List.IsChain R (accounts :: (session accounts orders).map Entry.accounts) := by
  induction orders generalizing accounts with
  | nil => exact .singleton accounts
  | cons order rest ih =>
      rw [session, List.map_cons, List.isChain_cons_cons]
      constructor
      · exact hrelated order accounts hP
      · exact ih (hstep order accounts hP)

/-! ## Ids -/

/-- An order leaves ids that are distinct so. -/
theorem nodup_entry (order : Order) {accounts : List Account}
    (hnodup : (accounts.map Account.id).Nodup) :
    ((order.entry accounts).accounts.map Account.id).Nodup := by
  rw [map_id_entry]
  exact hnodup

/-! ## Conservation -/

/-- The balances of some accounts in all. -/
def totalBalance (accounts : List Account) : Int :=
  (accounts.map Account.balance).sum

/-- An order changes the total by what it moves. -/
theorem totalBalance_entry (order : Order) (accounts : List Account) :
    totalBalance (order.entry accounts).accounts =
      totalBalance accounts +
        ((accounts.map Account.id).map (order.entry accounts).response.movement).sum := by
  rw [totalBalance, map_balance_entry, List.sum_map_add, List.map_map]
  rfl

/-- Between accounts with distinct ids an order moves nothing in all. -/
theorem totalBalance_entry_of_nodup (order : Order) {accounts : List Account}
    (hnodup : (accounts.map Account.id).Nodup) :
    totalBalance (order.entry accounts).accounts = totalBalance accounts := by
  rw [totalBalance_entry]
  rcases executed_or_movement_eq_zero order accounts with ⟨debit, credit, amount, hexecuted⟩ | hzero
  · have hdebit := count_id_eq_one hnodup hexecuted.debit_found
    have hcredit := count_id_eq_one hnodup hexecuted.credit_found
    rw [hexecuted.sum_movement, hdebit, hcredit]
    omega
  · have hsum : ((accounts.map Account.id).map (order.entry accounts).response.movement).sum = 0 := by
      refine List.sum_eq_zero ?_
      intro movement hmem
      obtain ⟨id, _, rfl⟩ := List.mem_map.1 hmem
      exact hzero id
    omega

/-- A session of accounts with distinct ids neither makes nor destroys money, and leaves the accounts
in their order. -/
theorem session_conserves_total {accounts : List Account}
    (hnodup : (accounts.map Account.id).Nodup) (orders : List Order) :
    ∀ entry ∈ session accounts orders,
      entry.accounts.map Account.id = accounts.map Account.id ∧
      totalBalance entry.accounts = totalBalance accounts := by
  intro entry hmem
  refine invariant_of_mem_session
    (P := fun later => later.map Account.id = accounts.map Account.id ∧
      totalBalance later = totalBalance accounts) ?_ ⟨rfl, rfl⟩ hmem
  intro order later hlater
  obtain ⟨hids, htotal⟩ := hlater
  have hdistinct : (later.map Account.id).Nodup := by
    rw [hids]
    exact hnodup
  constructor
  · rw [map_id_entry, hids]
  · rw [totalBalance_entry_of_nodup order hdistinct, htotal]

/-- Orders on two accounts: a transfer, one for a later day, one that is not covered, and an
instruction that is no text. -/
def mixedOrders : List Order :=
  [⟨.str "DEBIT 30 USD FROM ACCOUNT a FOR CREDIT TO ACCOUNT b", midJune⟩,
    ⟨.str "CREDIT 9 USD TO ACCOUNT a FOR DEBIT FROM ACCOUNT b ON 2025-06-17", midJune⟩,
    ⟨.str "DEBIT 71 USD FROM ACCOUNT a FOR CREDIT TO ACCOUNT b", midJune⟩,
    ⟨.null, midJune⟩]

/-- The total is the same whatever becomes of the orders. -/
theorem session_conserves_total_of_mixed :
    ([⟨"a", 100, "USD"⟩, ⟨"b", -5, "USD"⟩].map Account.id).Nodup ∧
      (session [⟨"a", 100, "USD"⟩, ⟨"b", -5, "USD"⟩] mixedOrders).map (·.response.outcome.code) =
        ["AP00", "AP02", "AC01", "SY03"] ∧
      ∀ entry ∈ session [⟨"a", 100, "USD"⟩, ⟨"b", -5, "USD"⟩] mixedOrders,
        entry.accounts.map Account.id = ["a", "b"] ∧ totalBalance entry.accounts = 95 := by
  have hnodup : ([⟨"a", 100, "USD"⟩, ⟨"b", -5, "USD"⟩].map Account.id).Nodup := by decide
  refine ⟨hnodup, ?_, ?_⟩
  · decide +kernel
  · exact session_conserves_total hnodup mixedOrders

/-! ## Solvency -/

namespace Account

/-- The same account, no further below zero than it was. -/
def StaysSolvent (before after : Account) : Prop :=
  after.id = before.id ∧ min before.balance 0 ≤ after.balance

/-- The same account, with no less than it had if it had nothing or was overdrawn. -/
def KeepsDebt (before after : Account) : Prop :=
  after.id = before.id ∧ (before.balance ≤ 0 → before.balance ≤ after.balance)

/-- Solvency that lasts from step to step lasts altogether. -/
theorem StaysSolvent.trans {first second third : Account} (hfirst : first.StaysSolvent second)
    (hsecond : second.StaysSolvent third) : first.StaysSolvent third := by
  obtain ⟨hid, hbalance⟩ := hfirst
  obtain ⟨hid', hbalance'⟩ := hsecond
  constructor
  · rw [hid', hid]
  · omega

end Account

/-- Accounts that stay solvent from step to step stay so altogether. -/
theorem forall₂_staysSolvent_trans {first second third : List Account}
    (hfirst : List.Forall₂ Account.StaysSolvent first second)
    (hsecond : List.Forall₂ Account.StaysSolvent second third) :
    List.Forall₂ Account.StaysSolvent first third := by
  induction hfirst generalizing third with
  | nil => exact hsecond
  | cons hhead _ ih =>
      cases hsecond with
      | cons hhead' htail' => exact .cons (hhead.trans hhead') (ih htail')

/-- Of accounts with distinct ids, one that loses by an order covers the loss. -/
theorem movement_covered (order : Order) {accounts : List Account}
    (hnodup : (accounts.map Account.id).Nodup) {account : Account} (hmem : account ∈ accounts) :
    0 ≤ (order.entry accounts).response.movement account.id ∨
    0 < account.balance ∧
      0 ≤ account.balance + (order.entry accounts).response.movement account.id := by
  rcases executed_or_movement_eq_zero order accounts with ⟨debit, credit, amount, hexecuted⟩ | hzero
  · have hpos := hexecuted.amount_pos
    have hcovered := hexecuted.amount_le
    rw [hexecuted.movement_eq]
    by_cases hdebit : account.id = debit.id
    · have hsame : account = debit := eq_of_id_eq hnodup hexecuted.debit_found hmem hdebit
      rw [if_pos hdebit, hsame]
      omega
    · rw [if_neg hdebit]
      split <;> omega
  · rw [hzero account.id]
    omega

/-- An order leaves accounts with distinct ids solvent. -/
theorem staysSolvent_entry (order : Order) {accounts : List Account}
    (hnodup : (accounts.map Account.id).Nodup) :
    List.Forall₂ Account.StaysSolvent accounts (order.entry accounts).accounts := by
  rw [accounts_entry, List.forall₂_map_right_iff, List.forall₂_same]
  intro account hmem
  have hcovered := movement_covered order hnodup hmem
  constructor
  · exact id_settled _ account
  · rw [balance_settled]
    omega

/-- An order takes nothing from an account that has nothing. -/
theorem keepsDebt_entry (order : Order) {accounts : List Account}
    (hnodup : (accounts.map Account.id).Nodup) :
    List.Forall₂ Account.KeepsDebt accounts (order.entry accounts).accounts := by
  rw [accounts_entry, List.forall₂_map_right_iff, List.forall₂_same]
  intro account hmem
  have hcovered := movement_covered order hnodup hmem
  constructor
  · exact id_settled _ account
  · intro hdebt
    rw [balance_settled]
    omega

/-- No order of a session of accounts with distinct ids overdraws an account, and none takes
anything from an account that has nothing. -/
theorem session_never_overdraws {accounts : List Account}
    (hnodup : (accounts.map Account.id).Nodup) (orders : List Order) :
    (∀ entry ∈ session accounts orders,
      List.Forall₂ Account.StaysSolvent accounts entry.accounts) ∧
    List.IsChain (List.Forall₂ Account.KeepsDebt)
      (accounts :: (session accounts orders).map Entry.accounts) := by
  constructor
  · intro entry hmem
    have hstart : List.Forall₂ Account.StaysSolvent accounts accounts := by
      rw [List.forall₂_same]
      intro account _
      exact ⟨rfl, Int.min_le_left _ _⟩
    refine (invariant_of_mem_session
      (P := fun later => (later.map Account.id).Nodup ∧
        List.Forall₂ Account.StaysSolvent accounts later) ?_ ⟨hnodup, hstart⟩ hmem).2
    intro order later hlater
    obtain ⟨hdistinct, hsolvent⟩ := hlater
    constructor
    · exact nodup_entry order hdistinct
    · exact forall₂_staysSolvent_trans hsolvent (staysSolvent_entry order hdistinct)
  · exact isChain_session (fun order _ => nodup_entry order)
      (fun order _ => keepsDebt_entry order) orders hnodup

/-- The overdrawn account gains by the transfer and then loses nothing more. -/
theorem session_never_overdraws_of_mixed :
    ([⟨"a", 100, "USD"⟩, ⟨"b", -5, "USD"⟩].map Account.id).Nodup ∧
      (session [⟨"a", 100, "USD"⟩, ⟨"b", -5, "USD"⟩] mixedOrders).map
          (·.accounts.map Account.balance) =
        [[70, 25], [70, 25], [70, 25], [70, 25]] ∧
      List.IsChain (List.Forall₂ Account.KeepsDebt)
        ([⟨"a", 100, "USD"⟩, ⟨"b", -5, "USD"⟩] ::
          (session [⟨"a", 100, "USD"⟩, ⟨"b", -5, "USD"⟩] mixedOrders).map Entry.accounts) := by
  have hnodup : ([⟨"a", 100, "USD"⟩, ⟨"b", -5, "USD"⟩].map Account.id).Nodup := by decide
  refine ⟨hnodup, ?_, ?_⟩
  · decide +kernel
  · exact (session_never_overdraws hnodup mixedOrders).2

end FundsTransfer
