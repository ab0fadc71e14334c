import FundsTransfer.Proofs.Settlement

/-!
# What an answer depends on

An answer looks only at the accounts whose ids are read of the instruction, and changes no others.
So two instructions that name no id in common do not notice each other.

Main definitions:

- `Reading.names`, `Reading.involves`: the ids that were read of an instruction, and their accounts.
- `Order.names`, `Order.involves`: the same for an order, which names nothing if it cannot be read.

Main results:

- Theorem `attemptReading_filter`: an attempt at an instruction is the same without the accounts that
  it does not involve.
- Theorems `attempt_congr`, `response_entry_congr`: so an attempt, and the response to an order, are
  the same among any accounts that differ in no others.
- Theorem `filter_involves_entry`: an order leaves the accounts alone that it does not name.
- Theorem `session_comm_of_disjoint`: orders that name no id in common may change places.
-/

namespace FundsTransfer

/-! ## Ids that are named -/

/-- A reading names the two ids that were read. -/
def Reading.names (reading : Reading) (id : String) : Bool :=
  some id == reading.debitId || some id == reading.creditId

/-- A reading involves the accounts whose id it names. -/
def Reading.involves (reading : Reading) (account : Account) : Bool :=
  reading.names account.id

/-- An order names the ids that are read of its instruction; one that cannot be read names none. -/
def Order.names (order : Order) (id : String) : Bool :=
  match order.instruction with
  | .str text =>
    match Reading.ofText text with
    | .ok reading => reading.names id
    | .error _ => false
  | _ => false

/-- An order involves the accounts whose id it names. -/
def Order.involves (order : Order) (account : Account) : Bool :=
  order.names account.id

/-- A reading names the id on either side. -/
theorem Reading.names_of_accountId {reading : Reading} {side : Direction} {id : String}
    (hid : reading.accountId side = some id) : reading.names id = true := by
  cases side with
  | debit =>
      have hdebit : reading.debitId = some id := hid
      simp [Reading.names, hdebit]
  | credit =>
      have hcredit : reading.creditId = some id := hid
      simp [Reading.names, hcredit]

/-! ## Accounts that are looked at -/

section Filter

variable {reading : Reading}

/-- An id that a reading names is found among the accounts that it involves. -/
theorem find?_filter_involves {id : String} (hnames : reading.names id = true)
    (accounts : List Account) :
    Account.find? (accounts.filter reading.involves) (some id) =
      Account.find? accounts (some id) := by
  have hkeeps : ∀ account : Account,
      (reading.involves account = true ∧ (account.id == id) = true) ↔ (account.id == id) = true := by
    intro account
    rw [beq_iff_eq]
    constructor
    · exact And.right
    · intro hid
      exact ⟨by rw [Reading.involves, hid, hnames], hid⟩
  simp only [Account.find?, Option.bind_some, List.find?_filter, hkeeps, Bool.decide_eq_true]

/-- The account on either side of a reading is found among those that it involves. -/
theorem find?_filter_involves_accountId (reading : Reading) (side : Direction)
    (accounts : List Account) :
    Account.find? (accounts.filter reading.involves) (reading.accountId side) =
      Account.find? accounts (reading.accountId side) := by
  cases hid : reading.accountId side with
  | none => rfl
  | some id => exact find?_filter_involves (Reading.names_of_accountId hid) accounts

/-- What is found out about a reading hangs on the accounts that it involves. -/
theorem inspect_filter (reading : Reading) (accounts : List Account) :
    inspect (accounts.filter reading.involves) reading = inspect accounts reading := by
  have hdebit := find?_filter_involves_accountId reading .debit accounts
  have hcredit := find?_filter_involves_accountId reading .credit accounts
  simp only [Reading.accountId] at hdebit hcredit
  simp only [inspect, hdebit, hcredit]

/-- A rejection shows the accounts that the reading involves. -/
theorem namedViews_filter (reading : Reading) (accounts : List Account) :
    namedViews (accounts.filter reading.involves) reading = namedViews accounts reading := by
  change ((accounts.filter reading.involves).filter reading.involves).map _ =
    (accounts.filter reading.involves).map _
  rw [List.filter_filter]
  simp only [Bool.and_self]

/-- A transfer between ids that a reading names shows accounts that the reading involves. -/
theorem movementViews_filter {debitId creditId : String} (hdebit : reading.names debitId = true)
    (hcredit : reading.names creditId = true) (accounts : List Account) (movement : Int) :
    movementViews (accounts.filter reading.involves) debitId creditId movement =
      movementViews accounts debitId creditId movement := by
  rw [movementViews, movementViews, List.filterMap_filter]
  apply List.filterMap_congr
  intro account _
  by_cases hinvolved : reading.involves account = true
  · rw [if_pos hinvolved]
  · -- An account that is not involved has neither of the two ids.
    have hnotDebit : account.id ≠ debitId := by
      intro hid
      exact hinvolved (by rw [Reading.involves, hid, hdebit])
    have hnotCredit : account.id ≠ creditId := by
      intro hid
      exact hinvolved (by rw [Reading.involves, hid, hcredit])
    rw [if_neg hinvolved, movementView?, if_neg hnotDebit, if_neg hnotCredit]

/-- An instruction is carried out between the accounts that it involves. -/
theorem carryOut_filter (reading : Reading) (accounts : List Account) (today : Calendar.Date) :
    carryOut (accounts.filter reading.involves) reading (Account.find? accounts reading.debitId)
        (Account.find? accounts reading.creditId) today =
      carryOut accounts reading (Account.find? accounts reading.debitId)
        (Account.find? accounts reading.creditId) today := by
  unfold carryOut
  split
  · rename_i debit credit amount hdebit hcredit hamount
    have hdebitId : reading.accountId .debit = some debit.id := Account.eq_some_id_of_find? hdebit
    have hcreditId : reading.accountId .credit = some credit.id :=
      Account.eq_some_id_of_find? hcredit
    have hdebitNamed := Reading.names_of_accountId hdebitId
    have hcreditNamed := Reading.names_of_accountId hcreditId
    simp only [transfer, movementViews_filter hdebitNamed hcreditNamed]
  · rfl

/-- An attempt at a reading is the same without the accounts that the reading does not involve. -/
theorem attemptReading_filter (reading : Reading) (accounts : List Account)
    (today : Calendar.Date) :
    attemptReading (accounts.filter reading.involves) today reading =
      attemptReading accounts today reading := by
  have hcarryOut := carryOut_filter reading accounts today
  have hreject : ∀ breach, reject (accounts.filter reading.involves) reading breach =
      reject accounts reading breach := by
    intro breach
    simp only [reject, namedViews_filter]
  simp only [attemptReading, inspect_filter]
  by_cases hfit : FiguresFit accounts reading
  · simp only [inspect_of_figuresFit hfit, attemptFound, hreject]
    simp only [examine, hcarryOut]
  · simp only [inspect_of_not_figuresFit hfit]

end Filter

/-! ## Responses to orders -/

/-- An attempt at a text is the same among accounts that differ only in what an order with that text
does not involve. -/
theorem attempt_congr {text : String} {today : Calendar.Date} {accounts others : List Account}
    (hinvolved : accounts.filter (Order.involves ⟨.str text, today⟩) =
      others.filter (Order.involves ⟨.str text, today⟩)) :
    attempt accounts today text = attempt others today text := by
  unfold attempt
  cases hread : Reading.ofText text with
  | error fault => rfl
  | ok reading =>
      have hinvolves : Order.involves ⟨.str text, today⟩ = reading.involves := by
        funext account
        simp only [Order.involves, Order.names, hread, Reading.involves]
      rw [hinvolves] at hinvolved
      change attemptReading accounts today reading = attemptReading others today reading
      rw [← attemptReading_filter reading accounts, hinvolved, attemptReading_filter]

/-- The response to an order is the same among accounts that differ only in what the order does not
involve. -/
theorem response_entry_congr {order : Order} {accounts others : List Account}
    (hinvolved : accounts.filter order.involves = others.filter order.involves) :
    (order.entry accounts).response = (order.entry others).response := by
  rcases order with ⟨instruction, today⟩
  cases instruction with
  | str text =>
      simp only [Order.entry, answer, answerText, attempt_congr hinvolved, Attempt.conclude]
      split <;> rfl
  | _ => rfl

/-- A response that repeats a reading names the same ids. -/
theorem names_eq_of_echo? {reading : Reading} {outcome : Outcome} {views : List View}
    {response : Response} (hecho : Response.echo? reading outcome views = .ok response) :
    response.names = reading.names := by
  rcases eq_of_echo?_eq_ok hecho with ⟨direction, _, rfl⟩
  rfl

/-- A response names no id that is not read of the instruction. -/
theorem names_of_names_response {order : Order} {accounts : List Account} {id : String}
    (hnames : (order.entry accounts).response.names id = true) : order.names id = true := by
  rcases order with ⟨instruction, today⟩
  have hanswers : Answers accounts today instruction
      (Order.entry ⟨instruction, today⟩ accounts).response :=
    answers_answer accounts today instruction
  generalize (Order.entry ⟨instruction, today⟩ accounts).response = response at hanswers hnames
  cases hanswers with
  | blank hunreadable => simp [Response.blank, Response.names] at hnames
  | rejected hread hfit hprimary hreadable hecho =>
      rw [names_eq_of_echo? hecho] at hnames
      simpa only [Order.names, hread] using hnames
  | scheduled hread hcleared hdeferred hecho =>
      rw [names_eq_of_echo? hecho] at hnames
      simpa only [Order.names, hread] using hnames
  | executed hread hcleared hdeferred hecho =>
      rw [names_eq_of_echo? hecho] at hnames
      simpa only [Order.names, hread] using hnames

/-! ## Accounts that are changed -/

/-- An account that a response does not involve stays as it is. -/
theorem settled_of_not_involves {response : Response} {account : Account}
    (hnot : response.involves account = false) : response.settled account = account := by
  simp [Response.settled, hnot]

/-- An order leaves the accounts alone that only another order names. -/
theorem filter_involves_entry {first second : Order}
    (hdisjoint : ∀ id, second.names id = true → first.names id = false) (accounts : List Account) :
    (first.entry accounts).accounts.filter second.involves =
      accounts.filter second.involves := by
  have hids : second.involves ∘ (first.entry accounts).response.settled = second.involves := by
    funext account
    simp only [Function.comp_apply, Order.involves, id_settled]
  rw [accounts_entry, List.filter_map, hids]
  conv_rhs => rw [← List.map_id (accounts.filter second.involves)]
  apply List.map_congr_left
  intro account hmem
  have hsecond : second.names account.id = true := (List.mem_filter.1 hmem).2
  apply settled_of_not_involves
  by_contra hinvolves
  rw [Bool.not_eq_false] at hinvolves
  have hfirst : first.names account.id = true := names_of_names_response hinvolves
  rw [hdisjoint _ hsecond] at hfirst
  cases hfirst

/-- An account that the first of two responses involves may just as well be settled by it last, if
the other response does not involve it. -/
theorem settled_comm {first second : Response} {account : Account}
    (hnot : first.involves account = false ∨ second.involves account = false) :
    second.settled (first.settled account) = first.settled (second.settled account) := by
  have hsettled : ∀ response other : Response, response.involves account = false →
      response.involves (other.settled account) = false := by
    intro response other hnot
    rw [Response.involves, id_settled]
    exact hnot
  rcases hnot with hfirst | hsecond
  · rw [settled_of_not_involves hfirst, settled_of_not_involves (hsettled _ _ hfirst)]
  · rw [settled_of_not_involves hsecond, settled_of_not_involves (hsettled _ _ hsecond)]

/-! ## Orders that may change places -/

section Disjoint

variable {first second : Order}
  (hdisjoint : ∀ id, ¬ (first.names id = true ∧ second.names id = true))
include hdisjoint

/-- Orders that name no id in common do not notice each other. -/
theorem response_entry_of_disjoint (accounts : List Account) :
    (second.entry (first.entry accounts).accounts).response =
        (second.entry accounts).response ∧
      (first.entry (second.entry accounts).accounts).response =
        (first.entry accounts).response := by
  constructor
  · apply response_entry_congr
    apply filter_involves_entry
    intro id hsecond
    rw [Bool.eq_false_iff]
    exact fun hfirst => hdisjoint id ⟨hfirst, hsecond⟩
  · apply response_entry_congr
    apply filter_involves_entry
    intro id hfirst
    rw [Bool.eq_false_iff]
    exact fun hsecond => hdisjoint id ⟨hfirst, hsecond⟩

/-- Orders that name no id in common leave the same accounts in either order. -/
theorem accounts_entry_comm (accounts : List Account) :
    (second.entry (first.entry accounts).accounts).accounts =
      (first.entry (second.entry accounts).accounts).accounts := by
  rcases response_entry_of_disjoint hdisjoint accounts with ⟨hsecond, hfirst⟩
  rw [accounts_entry second, accounts_entry first (second.entry accounts).accounts, hsecond, hfirst,
    accounts_entry first, accounts_entry second, List.map_map, List.map_map]
  apply List.map_congr_left
  intro account _
  apply settled_comm
  by_contra hboth
  simp only [not_or, Bool.not_eq_false] at hboth
  exact hdisjoint account.id
    ⟨names_of_names_response hboth.1, names_of_names_response hboth.2⟩

/-- Two orders that name no id in common may change places: each has the same response, and the
accounts are the same in the end. -/
theorem session_comm_of_disjoint (accounts : List Account) :
    ∃ response other afterFirst afterSecond final,
      session accounts [first, second] = [⟨response, afterFirst⟩, ⟨other, final⟩] ∧
      session accounts [second, first] = [⟨other, afterSecond⟩, ⟨response, final⟩] := by
  rcases response_entry_of_disjoint hdisjoint accounts with ⟨hsecond, hfirst⟩
  have hfinal := accounts_entry_comm hdisjoint accounts
  refine ⟨(first.entry accounts).response, (second.entry accounts).response,
    (first.entry accounts).accounts, (second.entry accounts).accounts,
    (second.entry (first.entry accounts).accounts).accounts, ?_, ?_⟩
  · rw [← hsecond]
    rfl
  · rw [← hfirst, hfinal]
    rfl

end Disjoint

/-- Accounts of which two have one id, and two others hold a currency in different letter case. -/
def crowdedAccounts : List Account :=
  [⟨"a", 100, "usd"⟩, ⟨"d", 1, "gbp"⟩, ⟨"b", 0, "usd"⟩, ⟨"a", 5, "NGN"⟩, ⟨"c", 50, "GBP"⟩]

/-- A transfer that is executed on both accounts with its first id. -/
def transferFromAToB : Order :=
  ⟨.str "DEBIT 30 usd FROM ACCOUNT a FOR CREDIT TO ACCOUNT b", midJune⟩

/-- A transfer that is rejected, which shows in the currency of an account all the same. -/
def transferFromCToD : Order :=
  ⟨.str "credit 9 gbp to account d for debit from account c on 2030-01-01", midJune⟩

/-- The two transfers name different ids, and may change places. -/
theorem session_comm_of_transfers :
    (∀ id, ¬ (transferFromAToB.names id = true ∧ transferFromCToD.names id = true)) ∧
      (session crowdedAccounts [transferFromAToB, transferFromCToD]).map
          (·.response.outcome.code) = ["AP00", "CU01"] ∧
      ∃ response other afterFirst afterSecond final,
        session crowdedAccounts [transferFromAToB, transferFromCToD] =
          [⟨response, afterFirst⟩, ⟨other, final⟩] ∧
        session crowdedAccounts [transferFromCToD, transferFromAToB] =
          [⟨other, afterSecond⟩, ⟨response, final⟩] := by
  have hfirst : Reading.ofText "DEBIT 30 usd FROM ACCOUNT a FOR CREDIT TO ACCOUNT b" =
      .ok { heading := some (.side .debit), amount := some 30, currency := some "USD",
            debitId := some "a", creditId := some "b" } := by
    decide +kernel
  have hsecond :
      Reading.ofText "credit 9 gbp to account d for debit from account c on 2030-01-01" =
        .ok { heading := some (.side .credit), amount := some 9, currency := some "GBP",
              debitId := some "c", creditId := some "d", executeBy := some "2030-01-01" } := by
    decide +kernel
  have hdisjoint : ∀ id,
      ¬ (transferFromAToB.names id = true ∧ transferFromCToD.names id = true) := by
    intro id
    simp only [Order.names, transferFromAToB, transferFromCToD, hfirst, hsecond, Reading.names,
      Bool.or_eq_true, beq_iff_eq, Option.some.injEq]
    rintro ⟨rfl | rfl, hother⟩ <;> simp at hother
  refine ⟨hdisjoint, ?_, session_comm_of_disjoint hdisjoint crowdedAccounts⟩
  decide +kernel

end FundsTransfer
