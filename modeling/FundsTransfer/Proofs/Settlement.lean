import Mathlib.Data.List.Count
import Mathlib.Data.List.Nodup
import FundsTransfer.Proofs.Movement

/-!
# Which accounts an execution touches

The rules look at the first account with each id of an instruction, but an execution moves its
amount on every account that has one of the ids.  So an id that occurs more than once is charged or
credited more than once, and only for ids that occur once does the execution touch what the rules
have looked at.

Main definitions:

- `Response.changedViews`: the views that show another balance than before.
- `Response.TouchesOnly`: the response moves an amount between two accounts and changes no other.
- `Response.IsBalanced`: the balances shown add up to what they added up to before.

Main results:

- Theorem `views_perm`: the views of an execution, those debited and those credited.
- Theorem `executed_touchesOnly_iff`: an execution touches only the two accounts that the rules have
  looked at exactly when the ids of both occur once.
-/

namespace FundsTransfer

namespace Response

/-- The views that show another balance than before. -/
def changedViews (response : Response) : List View :=
  response.views.filter fun view => view.balance != view.balanceBefore

/-- The views that changed are that of the debited account without the amount and that of the
credited account with it. -/
def TouchesOnly (response : Response) (debit credit : Account) (amount : Int) : Prop :=
  response.changedViews.Perm [debit.view (-amount), credit.view amount]

instance (response : Response) (debit credit : Account) (amount : Int) :
    Decidable (response.TouchesOnly debit credit amount) :=
  inferInstanceAs (Decidable (List.Perm _ _))

/-- The balances shown add up to what they added up to before. -/
def IsBalanced (response : Response) : Prop :=
  (response.views.map View.balance).sum = (response.views.map View.balanceBefore).sum

instance (response : Response) : Decidable response.IsBalanced :=
  inferInstanceAs (Decidable (_ = _))

end Response

/-! ## Accounts with an id -/

/-- The accounts with an id are as many as the occurrences of the id. -/
theorem length_filter_id (accounts : List Account) (id : String) :
    (accounts.filter (·.id == id)).length = (accounts.map Account.id).count id := by
  rw [List.count, List.countP_map, List.countP_eq_length_filter]
  rfl

/-- The id of an account that was found occurs. -/
theorem count_id_pos {accounts : List Account} {id : Option String} {found : Account}
    (hfound : Account.find? accounts id = some found) :
    0 < (accounts.map Account.id).count found.id := by
  have hmem : found ∈ accounts := Account.mem_of_find?_eq_some hfound
  exact List.count_pos_iff.2 (List.mem_map_of_mem hmem)

/-- Among accounts with distinct ids, one that has the id of an account found is that account. -/
theorem eq_of_id_eq {accounts : List Account} {id : Option String} {account found : Account}
    (hnodup : (accounts.map Account.id).Nodup) (hfound : Account.find? accounts id = some found)
    (hmem : account ∈ accounts) (hid : account.id = found.id) : account = found :=
  List.inj_on_of_nodup_map hnodup hmem (Account.mem_of_find?_eq_some hfound) hid

/-- Among accounts with distinct ids, that of an account found occurs once. -/
theorem count_id_eq_one {accounts : List Account} {id : Option String} {found : Account}
    (hnodup : (accounts.map Account.id).Nodup) (hfound : Account.find? accounts id = some found) :
    (accounts.map Account.id).count found.id = 1 := by
  have hmem : found ∈ accounts := Account.mem_of_find?_eq_some hfound
  exact List.count_eq_one_of_mem hnodup (List.mem_map_of_mem hmem)

/-- If the id of the account that was found occurs once, that account is the only one with it. -/
theorem filter_id_eq_singleton {accounts : List Account} {id : Option String} {found : Account}
    (hfound : Account.find? accounts id = some found)
    (honce : (accounts.map Account.id).count found.id = 1) :
    accounts.filter (·.id == found.id) = [found] := by
  rw [Account.eq_some_id_of_find? hfound] at hfound
  have hhead : (accounts.filter (·.id == found.id)).head? = some found := by
    rw [List.head?_filter]
    exact hfound
  rw [← length_filter_id] at honce
  obtain ⟨account, hsingle⟩ := List.length_eq_one_iff.1 honce
  rw [hsingle, List.head?_cons, Option.some.injEq] at hhead
  rw [hsingle, hhead]

/-! ## Views of an execution -/

/-- Accounts that have one of two different ids are those with the one and those with the other. -/
theorem filter_id_or_perm {debitId creditId : String} (hne : debitId ≠ creditId)
    (accounts : List Account) :
    (accounts.filter fun account => account.id == debitId || account.id == creditId).Perm
      (accounts.filter (·.id == debitId) ++ accounts.filter (·.id == creditId)) := by
  induction accounts with
  | nil => exact .refl _
  | cons account rest ih =>
      by_cases hdebit : account.id = debitId
      · have hcredit : account.id ≠ creditId := hdebit ▸ hne
        simpa [hdebit, hne] using ih
      · by_cases hcredit : account.id = creditId
        · have hmiddle := (ih.cons account).trans List.perm_middle.symm
          simpa [hcredit, hne.symm] using hmiddle
        · simpa [hdebit, hcredit] using ih

variable {accounts : List Account} {today : Calendar.Date} {instruction : Json}
  {response : Response} {debit credit : Account} {amount : Int}

/-- Accounts with one id are all shown with the movement of that id. -/
theorem map_view_filter_id {id : String} {movement : Int} (hmovement : response.movement id = movement)
    (accounts : List Account) :
    ((accounts.filter (·.id == id)).map fun account =>
        account.view (response.movement account.id)) =
      (accounts.filter (·.id == id)).map (·.view movement) := by
  refine List.map_congr_left ?_
  intro account hmem
  have hid : account.id = id := beq_iff_eq.1 (List.mem_filter.1 hmem).2
  rw [hid, hmovement]

/-- The views of an execution show each account with the debited id without the amount, and each
with the credited id with it. -/
theorem views_perm (hanswers : Answers accounts today instruction response)
    (hexecuted : Executed accounts response debit credit amount) :
    response.views.Perm
      ((accounts.filter (·.id == debit.id)).map (·.view (-amount)) ++
        (accounts.filter (·.id == credit.id)).map (·.view amount)) := by
  have hinvolves : response.involves =
      fun account => account.id == debit.id || account.id == credit.id := by
    funext account
    exact hexecuted.involves_eq account
  rw [views_eq_of_answers hanswers, hinvolves, ← map_view_filter_id hexecuted.movement_debit,
    ← map_view_filter_id hexecuted.movement_credit, ← List.map_append]
  exact (filter_id_or_perm hexecuted.id_ne accounts).map _

/-- An execution changes the balance of every account that it shows. -/
theorem changedViews_eq_views (hanswers : Answers accounts today instruction response)
    (hexecuted : Executed accounts response debit credit amount) :
    response.changedViews = response.views := by
  have hpos := hexecuted.amount_pos
  refine List.filter_eq_self.2 ?_
  intro view hmem
  rw [bne_iff_ne]
  rcases List.mem_append.1 ((views_perm hanswers hexecuted).mem_iff.1 hmem) with hdebit | hcredit
  · obtain ⟨account, _, rfl⟩ := List.mem_map.1 hdebit
    simp only [Account.view]
    omega
  · obtain ⟨account, _, rfl⟩ := List.mem_map.1 hcredit
    simp only [Account.view]
    omega

/-- An execution shows as many accounts as there are occurrences of its ids. -/
theorem length_views (hanswers : Answers accounts today instruction response)
    (hexecuted : Executed accounts response debit credit amount) :
    response.views.length =
      (accounts.map Account.id).count debit.id + (accounts.map Account.id).count credit.id := by
  rw [(views_perm hanswers hexecuted).length_eq, List.length_append, List.length_map,
    List.length_map, length_filter_id, length_filter_id]

/-- An execution touches only the two accounts that its ids name first if and only if both ids occur
once. -/
theorem touchesOnly_iff (hanswers : Answers accounts today instruction response)
    (hexecuted : Executed accounts response debit credit amount) :
    response.TouchesOnly debit credit amount ↔
      (accounts.map Account.id).count debit.id = 1 ∧
      (accounts.map Account.id).count credit.id = 1 := by
  have hlength := length_views hanswers hexecuted
  have hdebit := count_id_pos hexecuted.debit_found
  have hcredit := count_id_pos hexecuted.credit_found
  rw [Response.TouchesOnly, changedViews_eq_views hanswers hexecuted]
  constructor
  · intro htouches
    rw [htouches.length_eq, List.length_cons, List.length_singleton] at hlength
    omega
  · intro honce
    have hperm := views_perm hanswers hexecuted
    rw [filter_id_eq_singleton hexecuted.debit_found honce.1,
      filter_id_eq_singleton hexecuted.credit_found honce.2] at hperm
    exact hperm

/-! ## Balance of an execution -/

/-- Accounts that are shown with one movement gain it once for each of them. -/
theorem sum_balance_map_view (accounts : List Account) (movement : Int) :
    ((accounts.map (·.view movement)).map View.balance).sum =
      ((accounts.map (·.view movement)).map View.balanceBefore).sum +
        accounts.length * movement := by
  induction accounts with
  | nil => simp
  | cons account rest ih =>
      simp only [List.map_cons, List.sum_cons, List.length_cons] at ih ⊢
      rw [ih]
      simp only [Account.view]
      push_cast
      ring

/-- The accounts that an execution shows gain the amount for each time the credited id occurs, and
lose it for each time the debited id does. -/
theorem sum_balance_views (hanswers : Answers accounts today instruction response)
    (hexecuted : Executed accounts response debit credit amount) :
    (response.views.map View.balance).sum =
      (response.views.map View.balanceBefore).sum +
        amount * (((accounts.map Account.id).count credit.id : Int) -
          (accounts.map Account.id).count debit.id) := by
  have hperm := views_perm hanswers hexecuted
  rw [(hperm.map View.balance).sum_eq, (hperm.map View.balanceBefore).sum_eq, List.map_append,
    List.map_append, List.sum_append, List.sum_append, sum_balance_map_view, sum_balance_map_view,
    length_filter_id, length_filter_id]
  ring

/-- An execution is balanced if and only if its two ids occur equally often. -/
theorem isBalanced_iff (hanswers : Answers accounts today instruction response)
    (hexecuted : Executed accounts response debit credit amount) :
    response.IsBalanced ↔
      (accounts.map Account.id).count debit.id = (accounts.map Account.id).count credit.id := by
  have hpos := hexecuted.amount_pos
  rw [Response.IsBalanced, sum_balance_views hanswers hexecuted]
  constructor
  · intro hsum
    have hzero : amount * (((accounts.map Account.id).count credit.id : Int) -
        (accounts.map Account.id).count debit.id) = 0 := by
      omega
    rcases Int.mul_eq_zero.1 hzero with hamount | hcounts
    · omega
    · omega
  · intro hcounts
    rw [hcounts, Int.sub_self, Int.mul_zero, Int.add_zero]

/-- What an instruction that is executed touches: only the first account with each of its ids if and
only if both ids occur once, and it leaves the balances shown at their sum if and only if the ids
occur equally often. -/
theorem executed_touchesOnly_iff
    (hexecuted : (answer accounts today instruction).response.outcome = .executed) :
    ∃ debit credit amount,
      Account.find? accounts (answer accounts today instruction).response.debitId = some debit ∧
      Account.find? accounts (answer accounts today instruction).response.creditId = some credit ∧
      (answer accounts today instruction).response.amount = some amount ∧
      ((answer accounts today instruction).response.TouchesOnly debit credit amount ↔
        (accounts.map Account.id).count debit.id = 1 ∧
        (accounts.map Account.id).count credit.id = 1) ∧
      ((answer accounts today instruction).response.IsBalanced ↔
        (accounts.map Account.id).count debit.id = (accounts.map Account.id).count credit.id) := by
  have hanswers := answers_answer accounts today instruction
  obtain ⟨debit, credit, amount, htransfer⟩ := exists_executed_of_answers hanswers hexecuted
  refine ⟨debit, credit, amount, ?_, ?_, ?_, ?_, ?_⟩
  · exact htransfer.debit_found
  · exact htransfer.credit_found
  · exact htransfer.amount_eq
  · exact touchesOnly_iff hanswers htransfer
  · exact isBalanced_iff hanswers htransfer

/-- A day on which instructions are given. -/
def midJune : Calendar.Date :=
  ⟨2025, 6, 15, by decide, by decide, by decide, by decide, by decide, by decide⟩

/-- An instruction to transfer thirty dollars. -/
def thirtyDollars : String :=
  "DEBIT 30 USD FROM ACCOUNT a FOR CREDIT TO ACCOUNT b"

/-- The response to a transfer of thirty from `a` to `b`. -/
def thirtyFromAToB (accounts : List Account) : Response :=
  (answer accounts midJune
    (.str "DEBIT 30 USD FROM ACCOUNT a FOR CREDIT TO ACCOUNT b")).response

/-- Ids that occur more than once do no harm as long as the instruction names others. -/
theorem touchesOnly_beside_repeated_id :
    (thirtyFromAToB [⟨"c", 1, "GBP"⟩, ⟨"b", 300, "usd"⟩, ⟨"c", 2, "GBP"⟩, ⟨"a", 230, "usd"⟩]).outcome =
        .executed ∧
      (thirtyFromAToB [⟨"c", 1, "GBP"⟩, ⟨"b", 300, "usd"⟩, ⟨"c", 2, "GBP"⟩,
        ⟨"a", 230, "usd"⟩]).TouchesOnly ⟨"a", 230, "usd"⟩ ⟨"b", 300, "usd"⟩ 30 := by
  have hexecuted : (thirtyFromAToB [⟨"c", 1, "GBP"⟩, ⟨"b", 300, "usd"⟩, ⟨"c", 2, "GBP"⟩,
      ⟨"a", 230, "usd"⟩]).outcome = .executed := by
    decide +kernel
  obtain ⟨debit, credit, amount, hdebit, hcredit, hamount, htouches, _⟩ :=
    executed_touchesOnly_iff hexecuted
  cases hdebit
  cases hcredit
  cases hamount
  exact ⟨hexecuted, htouches.2 (by decide)⟩

/-- The debited account that the rules have looked at covers the amount, but the other account with
its id is charged as well, and overdrawn. -/
theorem repeated_id_charged_twice :
    (thirtyFromAToB [⟨"a", 100, "USD"⟩, ⟨"a", 5, "USD"⟩, ⟨"b", 0, "USD"⟩]).outcome = .executed ∧
      (thirtyFromAToB [⟨"a", 100, "USD"⟩, ⟨"a", 5, "USD"⟩, ⟨"b", 0, "USD"⟩]).changedViews =
        [⟨"a", 70, 100, "USD"⟩, ⟨"a", -25, 5, "USD"⟩, ⟨"b", 30, 0, "USD"⟩] ∧
      ¬ (thirtyFromAToB [⟨"a", 100, "USD"⟩, ⟨"a", 5, "USD"⟩, ⟨"b", 0, "USD"⟩]).TouchesOnly
        ⟨"a", 100, "USD"⟩ ⟨"b", 0, "USD"⟩ 30 ∧
      ¬ (thirtyFromAToB [⟨"a", 100, "USD"⟩, ⟨"a", 5, "USD"⟩, ⟨"b", 0, "USD"⟩]).IsBalanced := by
  decide +kernel

end FundsTransfer
