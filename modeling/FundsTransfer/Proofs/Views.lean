import FundsTransfer.Proofs.Diagnosis
import FundsTransfer.Proofs.Movement

/-!
# The views of an answer

The views picture the accounts that a response involves, one by one and in order.  So when the
accounts are gone through and each one involved takes the next view, every account comes by its own
view and no view is left over.

Main definitions:

- `Response.Pictures`: a view shows what a response does to an account.
- `pairUp`, `Response.pairs`: the accounts, each with the view that comes to it.

Main results:

- Theorem `views_eq_nil_of_code`: an unreadable instruction is known by its code, and no account is
  shown.
- Theorem `adopt_eq_map_pairs`: accounts take over the views with which they are paired up.
- Theorem `views_answer_pictures`: the views of every answer picture the accounts involved, and
  handing them out uses them up.
-/

namespace FundsTransfer

/-! ## Pictures of accounts -/

/-- A view shows an account and what a response does to it: nothing unless the response is successful,
and then the amount leaves the debited id and comes to the credited one. -/
structure Response.Pictures (response : Response) (account : Account) (view : View) : Prop where
  id_eq : view.id = account.id
  balanceBefore_eq : view.balanceBefore = account.balance
  currency_eq : view.currency = Text.upper account.currency
  balance_eq : response.outcome.status ≠ "successful" → view.balance = view.balanceBefore
  moves : response.outcome.status = "successful" → ∃ amount, response.amount = some amount ∧
    (some account.id = response.debitId → view.balance = view.balanceBefore - amount) ∧
    (some account.id = response.creditId → view.balance = view.balanceBefore + amount)

/-- Only an execution is successful. -/
theorem Outcome.status_eq_successful_iff {outcome : Outcome} :
    outcome.status = "successful" ↔ outcome = .executed := by
  cases outcome <;> simp [Outcome.status]

variable {accounts : List Account} {today : Calendar.Date} {instruction : Json}
  {response : Response}

/-- The view of an account with its movement pictures it. -/
theorem pictures_view (hanswers : Answers accounts today instruction response)
    (account : Account) :
    response.Pictures account (account.view (response.movement account.id)) where
  id_eq := rfl
  balanceBefore_eq := rfl
  currency_eq := rfl
  balance_eq := by
    intro hstatus
    have houtcome : response.outcome ≠ .executed := mt Outcome.status_eq_successful_iff.2 hstatus
    rw [movement_of_ne_executed houtcome, Account.view, Int.add_zero]
  moves := by
    intro hstatus
    have houtcome := Outcome.status_eq_successful_iff.1 hstatus
    obtain ⟨debit, credit, amount, hexecuted⟩ := exists_executed_of_answers hanswers houtcome
    refine ⟨amount, hexecuted.amount_eq, ?_, ?_⟩
    · intro hid
      rw [hexecuted.debitId_eq, Option.some.injEq] at hid
      rw [hid, hexecuted.movement_debit]
      rfl
    · intro hid
      rw [hexecuted.creditId_eq, Option.some.injEq] at hid
      rw [hid, hexecuted.movement_credit]
      rfl

/-- The views of an answer picture the accounts that it involves. -/
theorem forall₂_pictures (hanswers : Answers accounts today instruction response) :
    List.Forall₂ response.Pictures (accounts.filter response.involves) response.views := by
  rw [views_eq_of_answers hanswers, List.forall₂_map_right_iff, List.forall₂_same]
  exact fun account _ => pictures_view hanswers account

/-! ## Unreadable instructions -/

/-- The kinds of breaches that leave an instruction readable have other codes than those that do
not. -/
theorem text_notMem_of_readable {code : Code} (hknown : code ∈ Code.catalogue)
    (hreadable : code.isUnreadable = false) : code.text ∉ ["SY01", "SY02", "SY03"] := by
  simp only [Code.catalogue, List.mem_cons, List.not_mem_nil, or_false] at hknown
  rcases hknown with rfl | rfl | rfl | rfl | rfl | rfl | rfl | rfl | rfl | rfl | rfl <;>
    simp_all [Code.isUnreadable, Code.text]

/-- The catalogue knows every breach of an instruction. -/
theorem mem_catalogue_of_mem_examine {text : String} {reading : Reading} {breach : Breach}
    (hread : Reading.ofText text = .ok reading)
    (hbreach : breach ∈ (examine accounts reading).breaches) : breach.code ∈ Code.catalogue := by
  rcases List.mem_append.1 hbreach with hwording | hrule
  · exact mem_catalogue_of_mem_breaches hread hwording
  · exact mem_catalogue_of_mem_ruleCodes (code_mem_of_mem_ruleBreaches hrule)

/-- An answer with the code of an unreadable instruction shows no account. -/
theorem views_eq_nil_of_code (hanswers : Answers accounts today instruction response)
    (hcode : response.outcome.code ∈ ["SY01", "SY02", "SY03"]) : response.views = [] := by
  cases hanswers with
  | blank hunreadable => rfl
  | rejected hread hfit hprimary hreadable hecho =>
      obtain ⟨direction, _, rfl⟩ := eq_of_echo?_eq_ok hecho
      have hknown := mem_catalogue_of_mem_examine hread (mem_of_primary?_eq_some hprimary)
      exact absurd hcode (text_notMem_of_readable hknown hreadable)
  | scheduled hread hcleared hdeferred hecho =>
      obtain ⟨direction, _, rfl⟩ := eq_of_echo?_eq_ok hecho
      simp [Outcome.code] at hcode
  | executed hread hcleared hdeferred hecho =>
      obtain ⟨direction, _, rfl⟩ := eq_of_echo?_eq_ok hecho
      simp [Outcome.code] at hcode

/-! ## Handing out the views -/

/-- The accounts, each with the view that comes to it when those involved take the views one by
one. -/
def pairUp (involved : Account → Bool) (accounts : List Account) (views : List View) :
    List (Account × Option View) :=
  handOut (fun pair => involved pair.1) (fun pair view => (pair.1, some view))
    (accounts.map fun account => (account, none)) views

section PairUp

variable {involved : Account → Bool}

@[simp]
theorem pairUp_nil (views : List View) : pairUp involved [] views = [] := rfl

/-- An account that is involved takes the next view. -/
theorem pairUp_cons_of_involved {account : Account} (hinvolved : involved account = true)
    (rest : List Account) (view : View) (later : List View) :
    pairUp involved (account :: rest) (view :: later) =
      (account, some view) :: pairUp involved rest later := by
  simp [pairUp, handOut, hinvolved]

/-- An account that is not involved takes none. -/
theorem pairUp_cons_of_not_involved {account : Account} (hinvolved : involved account = false)
    (rest : List Account) (views : List View) :
    pairUp involved (account :: rest) views = (account, none) :: pairUp involved rest views := by
  simp [pairUp, handOut, hinvolved]

/-- Without views no account takes one. -/
theorem pairUp_nil_right (accounts : List Account) :
    pairUp involved accounts [] = accounts.map fun account => (account, none) :=
  handOut_nil _ _ _

/-- The accounts that are paired up are all accounts, in their order. -/
theorem map_fst_pairUp (accounts : List Account) (views : List View) :
    (pairUp involved accounts views).map Prod.fst = accounts := by
  rw [pairUp, map_handOut (fun _ _ => by rfl), List.map_map]
  exact List.map_id' accounts

/-- The accounts take over the views with which they are paired up. -/
theorem handOut_adopt_eq_map_pairUp (accounts : List Account) (views : List View) :
    handOut involved Account.adopt accounts views =
      (pairUp involved accounts views).map fun pair => pair.2.elim pair.1 pair.1.adopt := by
  induction accounts generalizing views with
  | nil => rfl
  | cons account rest ih =>
      cases hinvolved : involved account with
      | false =>
          rw [pairUp_cons_of_not_involved hinvolved]
          simp [handOut, hinvolved, ih]
      | true =>
          cases views with
          | nil => simp [pairUp_nil_right, handOut_nil, Function.comp_def]
          | cons view later =>
              rw [pairUp_cons_of_involved hinvolved]
              simp [handOut, hinvolved, ih]

/-- If there is a view for each account involved, in order, then all views are taken, and exactly the
accounts involved take one. -/
theorem pairUp_of_forall₂ {R : Account → View → Prop} {accounts : List Account} {views : List View}
    (hviews : List.Forall₂ R (accounts.filter involved) views) :
    (pairUp involved accounts views).filterMap Prod.snd = views ∧
    ∀ pair ∈ pairUp involved accounts views,
      pair.2.isSome = involved pair.1 ∧ ∀ view ∈ pair.2, R pair.1 view := by
  -- An account that is involved takes the head of the views, and the rest of both lists corresponds.
  induction accounts generalizing views with
  | nil =>
      rcases hviews with _ | _
      simp
  | cons account rest ih =>
      cases hinvolved : involved account with
      | false =>
          rw [List.filter_cons_of_neg (by simp [hinvolved])] at hviews
          obtain ⟨hall, heach⟩ := ih hviews
          rw [pairUp_cons_of_not_involved hinvolved]
          refine ⟨hall, List.forall_mem_cons.2 ⟨?_, heach⟩⟩
          simp [hinvolved]
      | true =>
          rw [List.filter_cons_of_pos hinvolved] at hviews
          rcases hviews with _ | ⟨hview, hlater⟩
          obtain ⟨hall, heach⟩ := ih hlater
          rw [pairUp_cons_of_involved hinvolved]
          refine ⟨?_, List.forall_mem_cons.2 ⟨?_, heach⟩⟩
          · exact congrArg (_ :: ·) hall
          · simpa [hinvolved] using hview

end PairUp

/-- The accounts, each with the view of a response that comes to it. -/
def Response.pairs (response : Response) (accounts : List Account) : List (Account × Option View) :=
  pairUp response.involves accounts response.views

/-- The accounts after a response are those that have taken over the views which came to them. -/
theorem adopt_eq_map_pairs (response : Response) (accounts : List Account) :
    response.adopt accounts =
      (response.pairs accounts).map fun pair => pair.2.elim pair.1 pair.1.adopt :=
  handOut_adopt_eq_map_pairUp accounts response.views

/-- The views of every answer.  They are none if the instruction is unreadable, and they picture the
accounts whose id the response repeats, one by one and in order.  So whoever goes through the
accounts and lets each one involved take the next view uses up all views, and every account comes by
a picture of itself. -/
theorem views_answer_pictures (accounts : List Account) (today : Calendar.Date)
    (instruction : Json) :
    ((answer accounts today instruction).response.outcome.code ∈ ["SY01", "SY02", "SY03"] →
      (answer accounts today instruction).response.views = []) ∧
    List.Forall₂ (answer accounts today instruction).response.Pictures
      (accounts.filter (answer accounts today instruction).response.involves)
      (answer accounts today instruction).response.views ∧
    (answer accounts today instruction).response.adopt accounts =
      (((answer accounts today instruction).response.pairs accounts).map fun pair =>
        pair.2.elim pair.1 pair.1.adopt) ∧
    ((answer accounts today instruction).response.pairs accounts).map Prod.fst = accounts ∧
    ((answer accounts today instruction).response.pairs accounts).filterMap Prod.snd =
      (answer accounts today instruction).response.views ∧
    ∀ pair ∈ (answer accounts today instruction).response.pairs accounts,
      pair.2.isSome = (answer accounts today instruction).response.involves pair.1 ∧
      ∀ view ∈ pair.2, (answer accounts today instruction).response.Pictures pair.1 view := by
  have hanswers := answers_answer accounts today instruction
  have hpictures := forall₂_pictures hanswers
  obtain ⟨hall, heach⟩ := pairUp_of_forall₂ hpictures
  refine ⟨views_eq_nil_of_code hanswers, hpictures, ?_, ?_, hall, heach⟩
  · exact adopt_eq_map_pairs _ accounts
  · exact map_fst_pairUp accounts _

end FundsTransfer
