import FundsTransfer.Proofs.Amount
import FundsTransfer.Proofs.Repetition

/-!
# Transfers in portions

A transfer that is made in two portions, one after the other, comes to the same as one that is made at
once.  Nothing but the last rule looks at a balance, so the portions are objected to for what the
whole is objected to, and the debited account covers the second portion after the first one exactly
when it covers both together.

Main definitions:

- `Account.moved`, `Wording.settled`: an account after a movement, and after an execution.
- `Wording.withAmount`: the instruction with another amount.
- `transferText`, `transferOrder`: a transfer that is told as a debit.

Main results:

- Theorem `objection?_add_eq_none_iff`: there is no objection to a whole exactly when there is none to
  its portions.
- Theorem `accounts_entry_of_successful`: the accounts after an instruction that is executed.
- Theorem `transfer_in_portions`: a transfer at once and in two portions.
-/

namespace FundsTransfer

/-! ## Accounts after a movement -/

/-- An account that has taken over its view after a movement. -/
def Account.moved (account : Account) (movement : Int) : Account :=
  account.adopt (account.view movement)

@[simp]
theorem Account.id_moved (account : Account) (movement : Int) :
    (account.moved movement).id = account.id := rfl

@[simp]
theorem Account.balance_moved (account : Account) (movement : Int) :
    (account.moved movement).balance = account.balance + movement := rfl

@[simp]
theorem Account.currency_moved (account : Account) (movement : Int) :
    (account.moved movement).currency = Text.upper account.currency := rfl

/-- Two movements, one after the other, are one. -/
theorem Account.moved_moved (account : Account) (first second : Int) :
    (account.moved first).moved second = account.moved (first + second) := by
  simp [Account.moved, Account.adopt, Account.view, Text.upper_upper, Int.add_assoc]

namespace Wording

/-- An account after the instruction has been executed with an amount. -/
def settled (wording : Wording) (n : Nat) (account : Account) : Account :=
  if account.id = wording.debitId then account.moved (-n)
  else if account.id = wording.creditId then account.moved n
  else account

variable {wording : Wording} {n m : Nat}

@[simp]
theorem id_settled (n : Nat) (account : Account) : (wording.settled n account).id = account.id := by
  unfold settled
  split
  · rfl
  · split <;> rfl

/-- The debited account loses the amount. -/
theorem settled_debit {account : Account} (hid : account.id = wording.debitId) :
    wording.settled n account = account.moved (-n) :=
  if_pos hid

/-- The credited account gains it. -/
theorem settled_credit {account : Account} (hne : account.id ≠ wording.debitId)
    (hid : account.id = wording.creditId) : wording.settled n account = account.moved n := by
  rw [settled, if_neg hne, if_pos hid]

/-- Other accounts stay as they are. -/
theorem settled_other {account : Account} (hdebit : account.id ≠ wording.debitId)
    (hcredit : account.id ≠ wording.creditId) : wording.settled n account = account := by
  rw [settled, if_neg hdebit, if_neg hcredit]

/-- The accounts concerned hold their currencies in upper case. -/
theorem currency_settled {account : Account}
    (hid : account.id = wording.debitId ∨ account.id = wording.creditId) :
    (wording.settled n account).currency = Text.upper account.currency := by
  unfold settled
  split
  · rfl
  · rename_i hne
    rw [if_pos (hid.resolve_left hne)]
    rfl

/-- Executions of two amounts, one after the other, come to the execution of both. -/
theorem settled_settled (account : Account) :
    wording.settled m (wording.settled n account) = wording.settled (n + m) account := by
  by_cases hdebit : account.id = wording.debitId
  · have hmoved : (account.moved (-n)).id = wording.debitId := by rw [Account.id_moved, hdebit]
    rw [settled_debit hdebit, settled_debit hmoved, settled_debit hdebit, Account.moved_moved,
      Int.natCast_add, Int.neg_add]
  · by_cases hcredit : account.id = wording.creditId
    · have hmoved : (account.moved n).id = wording.creditId := by rw [Account.id_moved, hcredit]
      have hnot : (account.moved n).id ≠ wording.debitId := by rwa [Account.id_moved]
      rw [settled_credit hdebit hcredit, settled_credit hnot hmoved, settled_credit hdebit hcredit,
        Account.moved_moved, Int.natCast_add]
    · rw [settled_other hdebit hcredit, settled_other hdebit hcredit,
        settled_other hdebit hcredit]

/-! ## Objections to a whole and to its portions -/

/-- There is no objection that needs both accounts if the rules on currencies are kept, the accounts
are two and the debited one covers the amount. -/
theorem pairObjection?_eq_none_iff {amount : Int} {debit credit : Account} :
    wording.pairObjection? amount debit credit = none ↔
      Text.upper wording.currency ∈ supportedCurrencies ∧ debit.currency = credit.currency ∧
        Text.upper debit.currency = Text.upper wording.currency ∧
        wording.debitId ≠ wording.creditId ∧ amount ≤ debit.balance := by
  simp only [pairObjection?, ite_eq_iff, reduceCtorEq, and_false, false_or, and_true, not_not, ne_eq,
    Int.not_lt]

/-- The debited account covers the second portion after the first one exactly when it covers both. -/
theorem pairObjection?_add_eq_none_iff {debit credit : Account} (hdebit : debit.id = wording.debitId)
    (hcredit : credit.id = wording.creditId) :
    wording.pairObjection? (n + m : Nat) debit credit = none ↔
      wording.pairObjection? n debit credit = none ∧
        wording.pairObjection? m (wording.settled n debit) (wording.settled n credit) = none := by
  rw [pairObjection?_eq_none_iff, pairObjection?_eq_none_iff, pairObjection?_eq_none_iff,
    settled_debit hdebit, currency_settled (Or.inr hcredit), Account.currency_moved,
    Account.balance_moved, Text.upper_upper]
  constructor
  · rintro ⟨hsupported, hsame, hinstructed, hids, hcovered⟩
    refine ⟨⟨hsupported, hsame, hinstructed, hids, ?_⟩, hsupported, ?_, hinstructed, hids, ?_⟩
    · omega
    · rw [hsame]
    · omega
  · rintro ⟨⟨hsupported, hsame, hinstructed, hids, _⟩, _, _, _, _, hcovered⟩
    exact ⟨hsupported, hsame, hinstructed, hids, by omega⟩

/-- The same accounts are found for both portions. -/
theorem accountObjection?_add_eq_none_iff (accounts : List Account) :
    wording.accountObjection? (n + m : Nat) accounts = none ↔
      wording.accountObjection? n accounts = none ∧
        wording.accountObjection? m (accounts.map (wording.settled n)) = none := by
  simp only [accountObjection?, Account.find?_map (id_settled n)]
  cases hdebit : Account.find? accounts (some wording.debitId) with
  | none => simp
  | some debit =>
      cases hcredit : Account.find? accounts (some wording.creditId) with
      | none => simp
      | some credit =>
          exact pairObjection?_add_eq_none_iff (Account.id_of_find?_eq_some hdebit)
            (Account.id_of_find?_eq_some hcredit)

/-- There is no objection to a whole exactly when there is none to its first portion and then none to
the second. -/
theorem objection?_add_eq_none_iff (accounts : List Account) :
    wording.objection? (some (n + m)) accounts = none ↔
      wording.objection? (some n) accounts = none ∧
        wording.objection? (some m) (accounts.map (wording.settled n)) = none := by
  simp only [objection?]
  split_ifs
  · simp
  · simp
  · simp
  · exact accountObjection?_add_eq_none_iff accounts

end Wording

/-! ## Execution -/

section Execution

variable {accounts : List Account} {today : Calendar.Date} {text : String} {wording : Wording}
  {n : Nat}

/-- The response to the order of a text is that to the text. -/
theorem response_entry (accounts : List Account) (today : Calendar.Date) (text : String) :
    (Order.entry ⟨.str text, today⟩ accounts).response = (answerText accounts today text).response :=
  rfl

/-- An instruction in full form to which there is no objection is ready. -/
theorem exists_ready_of_objection?_eq_none (hspelled : wording.IsSpelled (Text.words text))
    (hamount : readAmount wording.amount = .ok (some n))
    (hnone : wording.objection? (some n) accounts = none) :
    ∃ debit credit, Ready accounts text wording n debit credit := by
  have hcleared := (breaches_examine_reading_eq_nil_iff hspelled (some n) accounts).2 hnone
  obtain ⟨_, _, debit, credit, _, hdebitFound, hcreditFound⟩ := exists_of_objection?_eq_none hnone
  exact ⟨debit, credit, hspelled, hamount, hdebitFound, hcreditFound, rfl, hcleared⟩

/-- An instruction in full form is executed exactly when there is no objection to it and its date does
not lie ahead. -/
theorem successful_iff (hspelled : wording.IsSpelled (Text.words text))
    (hamount : readAmount wording.amount = .ok (some n)) (accounts : List Account)
    (today : Calendar.Date) :
    (answerText accounts today text).response.outcome.status = "successful" ↔
      wording.objection? (some n) accounts = none ∧
        wording.date.any (Calendar.liesAhead · today) = false := by
  by_cases hfit : FiguresFit accounts (wording.reading (some n))
  · rw [outcome_of_figuresFit hspelled hamount hfit, Wording.verdict]
    cases hobjection : wording.objection? (some n) accounts with
    | some breach => simp [Outcome.status]
    | none =>
        cases hahead : wording.date.any (Calendar.liesAhead · today) <;>
          simp [Outcome.status]
  · -- A figure is stated only of an instruction to which there is an objection.
    have hobjection : wording.objection? (some n) accounts ≠ none := fun hnone =>
      hfit (figuresFit_of_breaches_eq_nil
        ((breaches_examine_reading_eq_nil_iff hspelled (some n) accounts).2 hnone))
    rw [response_answerText_of_not_figuresFit (ofText_of_isSpelled hspelled hamount) hfit]
    simp [hobjection, Response.blank, Outcome.status]

/-- The response to an instruction that is executed settles every account by itself. -/
theorem settled_response (views : List View) (account : Account) :
    (wording.response n .executed views).settled account = wording.settled n account := by
  have hmovement : (wording.response n .executed views).movement account.id =
      if account.id = wording.debitId then -(n : Int)
      else if account.id = wording.creditId then n else 0 := by
    simp only [Response.movement, Wording.response, Option.some.injEq]
  have hinvolves : (wording.response n .executed views).involves account =
      (account.id == wording.debitId || account.id == wording.creditId) := rfl
  rw [Response.settled, hmovement, hinvolves]
  by_cases hdebit : account.id = wording.debitId
  · rw [Wording.settled_debit hdebit, if_pos hdebit, if_pos (by simp [hdebit])]
    rfl
  · by_cases hcredit : account.id = wording.creditId
    · rw [Wording.settled_credit hdebit hcredit, if_neg hdebit, if_pos hcredit,
        if_pos (by simp [hcredit])]
      rfl
    · rw [Wording.settled_other hdebit hcredit, if_neg (by simp [hdebit, hcredit])]

/-- The accounts after an instruction in full form that is executed. -/
theorem accounts_entry_of_successful (hspelled : wording.IsSpelled (Text.words text))
    (hamount : readAmount wording.amount = .ok (some n))
    (hsuccessful : (answerText accounts today text).response.outcome.status = "successful") :
    (Order.entry ⟨.str text, today⟩ accounts).accounts = accounts.map (wording.settled n) := by
  obtain ⟨hnone, hahead⟩ := (successful_iff hspelled hamount accounts today).1 hsuccessful
  obtain ⟨debit, credit, hready⟩ := exists_ready_of_objection?_eq_none hspelled hamount hnone
  have hresponse := hready.response_eq today
  rw [if_neg (by rw [hahead]; exact Bool.false_ne_true)] at hresponse
  rw [accounts_entry]
  refine List.map_congr_left fun account _ => ?_
  change (answerText accounts today text).response.settled account = _
  rw [hresponse, settled_response]

end Execution

/-! ## A transfer and its amount -/

namespace Wording

/-- The instruction with another word for its amount. -/
def withAmount (wording : Wording) (amount : String) : Wording :=
  { wording with amount := amount }

/-- Words that spell an instruction spell it with another amount if the amount's word is replaced. -/
theorem isSpelled_withAmount {wording : Wording} {first amount : String} {rest : List String}
    (hspelled : wording.IsSpelled (first :: amount :: rest)) (other : String) :
    (wording.withAmount other).IsSpelled (first :: other :: rest) := by
  rcases hspelled with _ | ⟨hfirst, _ | ⟨_, hrest⟩⟩
  exact .cons hfirst (.cons rfl hrest)

end Wording

/-- A transfer that is told as a debit, with its amount in decimal. -/
def transferText (amount : Nat) (currency debitId creditId : String) : String :=
  "DEBIT " ++ toString amount ++ " " ++ currency ++ " FROM ACCOUNT " ++ debitId ++
    " FOR CREDIT TO ACCOUNT " ++ creditId

/-- The order of such a transfer. -/
def transferOrder (amount : Nat) (currency debitId creditId : String) (today : Calendar.Date) :
    Order :=
  ⟨.str (transferText amount currency debitId creditId), today⟩

section Transfer

variable {currency debitId creditId : String}

/-- The words of a transfer: only the second one hangs on the amount. -/
theorem words_transferText (amount : Nat) :
    Text.words (transferText amount currency debitId creditId) =
      "DEBIT" :: toString amount :: Text.words
        (currency ++ " FROM ACCOUNT " ++ debitId ++ " FOR CREDIT TO ACCOUNT " ++ creditId) := by
  have hparts : transferText amount currency debitId creditId =
      ("DEBIT" ++ " " ++ toString amount) ++ " " ++
        (currency ++ " FROM ACCOUNT " ++ debitId ++ " FOR CREDIT TO ACCOUNT " ++ creditId) := by
    have hopening : "DEBIT " = "DEBIT" ++ " " := rfl
    simp only [transferText, hopening, String.append_assoc]
  have hkeyword : Text.words "DEBIT" = ["DEBIT"] := Text.words_of_isWord (by decide +kernel)
  rw [hparts, Text.words_append_blank, Text.words_append_blank, hkeyword,
    Text.words_of_isWord (Numeral.isWord_toString amount)]
  rfl

/-- A transfer is in full form whatever its amount, or it is not for any amount. -/
theorem isSpelled_transferText {wording : Wording} {amount : Nat}
    (hspelled : wording.IsSpelled (Text.words (transferText amount currency debitId creditId)))
    (other : Nat) :
    (wording.withAmount (toString other)).IsSpelled
      (Text.words (transferText other currency debitId creditId)) := by
  rw [words_transferText] at hspelled ⊢
  exact Wording.isSpelled_withAmount hspelled (toString other)

/-- A transfer that is executed is in full form. -/
theorem exists_isSpelled_of_successful {amount : Nat} {accounts : List Account}
    {today : Calendar.Date}
    (hsuccessful : ((transferOrder amount currency debitId creditId today).entry
      accounts).response.outcome.status = "successful") :
    ∃ wording : Wording, wording.IsSpelled
      (Text.words (transferText amount currency debitId creditId)) := by
  rw [transferOrder, response_entry] at hsuccessful
  obtain ⟨wording, _, _, _, hready⟩ :=
    exists_ready_of_status_ne_failed (by rw [hsuccessful]; decide)
  exact ⟨wording, hready.isSpelled⟩

section FullForm

variable {wording : Wording} {amount n : Nat}
  (hspelled : wording.IsSpelled (Text.words (transferText amount currency debitId creditId)))
  (hpos : 0 < n) (hshort : Numeral.IsShort n) (accounts : List Account) (today : Calendar.Date)
include hspelled hpos hshort

/-- A transfer in full form is executed exactly when there is no objection to it and its date does not
lie ahead. -/
theorem transfer_successful_iff :
    ((transferOrder n currency debitId creditId today).entry accounts).response.outcome.status =
        "successful" ↔
      wording.objection? (some n) accounts = none ∧
        wording.date.any (Calendar.liesAhead · today) = false := by
  have hstated : readAmount (wording.withAmount (toString n)).amount = .ok (some n) :=
    readAmount_toString hpos hshort
  have hiff := successful_iff (isSpelled_transferText hspelled n) hstated accounts today
  rw [transferOrder, response_entry]
  exact hiff

/-- The accounts after a transfer in full form that is executed. -/
theorem accounts_transfer
    (hsuccessful : ((transferOrder n currency debitId creditId today).entry
      accounts).response.outcome.status = "successful") :
    ((transferOrder n currency debitId creditId today).entry accounts).accounts =
      accounts.map (wording.settled n) := by
  have hstated : readAmount (wording.withAmount (toString n)).amount = .ok (some n) :=
    readAmount_toString hpos hshort
  rw [transferOrder, response_entry] at hsuccessful
  have hsettled := accounts_entry_of_successful (isSpelled_transferText hspelled n) hstated
    hsuccessful
  rw [transferOrder]
  exact hsettled

/-- A transfer in full form is executed at once exactly when its first portion is executed and then the
second one. -/
theorem successful_iff_portions {m : Nat} (hm : 0 < m) (hsum : Numeral.IsShort (n + m)) :
    ((transferOrder (n + m) currency debitId creditId today).entry
        accounts).response.outcome.status = "successful" ↔
      ((transferOrder n currency debitId creditId today).entry
        accounts).response.outcome.status = "successful" ∧
      ((transferOrder m currency debitId creditId today).entry
        ((transferOrder n currency debitId creditId today).entry
          accounts).accounts).response.outcome.status = "successful" := by
  have hshortSecond : Numeral.IsShort m := hsum.of_le (Nat.le_add_left m n)
  have hbetween := accounts_transfer hspelled hpos hshort accounts today
  rw [transfer_successful_iff hspelled (Nat.add_pos_left hpos m) hsum,
    Wording.objection?_add_eq_none_iff]
  constructor
  · rintro ⟨⟨hfirst, hsecond⟩, hahead⟩
    have hexecuted := (transfer_successful_iff hspelled hpos hshort accounts today).2
      ⟨hfirst, hahead⟩
    refine ⟨hexecuted, ?_⟩
    -- The second portion meets the accounts that the first one has settled.
    rw [hbetween hexecuted]
    exact (transfer_successful_iff hspelled hm hshortSecond _ today).2 ⟨hsecond, hahead⟩
  · rintro ⟨hexecuted, hlater⟩
    rw [hbetween hexecuted] at hlater
    obtain ⟨hfirst, hahead⟩ := (transfer_successful_iff hspelled hpos hshort accounts today).1
      hexecuted
    obtain ⟨hsecond, _⟩ := (transfer_successful_iff hspelled hm hshortSecond _ today).1 hlater
    exact ⟨⟨hfirst, hsecond⟩, hahead⟩

end FullForm

/-- A transfer in two portions, one after the other, comes to the same as the transfer at once: the
whole is executed if and only if both portions are, and then both ways end in the same accounts.
Neither the currency nor the ids need to be words, and the ids of the accounts need not be
distinct. -/
theorem transfer_in_portions {n m : Nat} (hn : 0 < n) (hm : 0 < m)
    (hshort : Numeral.IsShort (n + m)) {accounts : List Account} {today : Calendar.Date}
    {whole first second : Entry Account}
    (hwhole : session accounts [transferOrder (n + m) currency debitId creditId today] = [whole])
    (hportions : session accounts [transferOrder n currency debitId creditId today,
      transferOrder m currency debitId creditId today] = [first, second]) :
    (whole.response.outcome.status = "successful" ↔
      first.response.outcome.status = "successful" ∧
        second.response.outcome.status = "successful") ∧
    (whole.response.outcome.status = "successful" → second.accounts = whole.accounts) := by
  simp only [session, List.cons.injEq, and_true] at hwhole hportions
  obtain ⟨rfl, rfl⟩ := hportions
  subst hwhole
  have hshortFirst : Numeral.IsShort n := hshort.of_le (Nat.le_add_right n m)
  have hshortSecond : Numeral.IsShort m := hshort.of_le (Nat.le_add_left m n)
  by_cases hform : ∃ (wording : Wording) (amount : Nat), wording.IsSpelled
      (Text.words (transferText amount currency debitId creditId))
  · obtain ⟨wording, amount, hspelled⟩ := hform
    have hiff := successful_iff_portions hspelled hn hshortFirst accounts today hm hshort
    refine ⟨hiff, fun hsuccessful => ?_⟩
    obtain ⟨hexecuted, hlater⟩ := hiff.1 hsuccessful
    rw [accounts_transfer hspelled (Nat.add_pos_left hn m) hshort accounts today hsuccessful,
      accounts_transfer hspelled hm hshortSecond _ today hlater,
      accounts_transfer hspelled hn hshortFirst accounts today hexecuted, List.map_map]
    exact List.map_congr_left fun account _ => Wording.settled_settled account
  · -- A transfer that is in full form for no amount is not executed.
    have hnot : ∀ (k : Nat) (accounts : List Account),
        ((transferOrder k currency debitId creditId today).entry
          accounts).response.outcome.status ≠ "successful" := by
      intro k accounts hsuccessful
      obtain ⟨wording, hspelled⟩ := exists_isSpelled_of_successful hsuccessful
      exact hform ⟨wording, k, hspelled⟩
    exact ⟨⟨fun hsuccessful => absurd hsuccessful (hnot _ _),
      fun hboth => absurd hboth.1 (hnot _ _)⟩, fun hsuccessful => absurd hsuccessful (hnot _ _)⟩

/-- Two portions that together take all there is come to the same as the whole. -/
theorem hundred_in_portions :
    ∃ whole first second,
      session lowerCaseAccounts [transferOrder (82 + 18) "Usd" "a" "b" midJune] = [whole] ∧
      session lowerCaseAccounts [transferOrder 82 "Usd" "a" "b" midJune,
        transferOrder 18 "Usd" "a" "b" midJune] = [first, second] ∧
      first.response.outcome.status = "successful" ∧
      second.response.outcome.status = "successful" ∧
      second.accounts = whole.accounts ∧
      whole.accounts = [⟨"b", 105, "USD"⟩, ⟨"c", 1, "ngn"⟩, ⟨"a", 0, "USD"⟩] := by
  have hshort : Numeral.IsShort (82 + 18) := Numeral.isShort_iff.2 (by decide +kernel)
  have hwhole : ((transferOrder (82 + 18) "Usd" "a" "b" midJune).entry
      lowerCaseAccounts).response.outcome.status = "successful" := by
    decide +kernel
  refine ⟨_, _, _, rfl, rfl, ?_⟩
  obtain ⟨hiff, hsame⟩ := transfer_in_portions (by decide) (by decide) hshort rfl rfl
  obtain ⟨hfirst, hsecond⟩ := hiff.1 hwhole
  exact ⟨hfirst, hsecond, hsame hwhole, by decide +kernel⟩

end Transfer

end FundsTransfer
