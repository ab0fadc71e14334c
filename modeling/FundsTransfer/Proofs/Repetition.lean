import FundsTransfer.Proofs.Deferral
import FundsTransfer.Proofs.Uppercase

/-!
# Instructions that are given again

A rejection leaves the balances as they are, but the accounts that it shows take over their
currencies in upper case.  All rules but one are blind to that.  The rule that both accounts hold one
currency minds the letter case, so an instruction may be rejected for letter case alone; when it is
given again, its accounts agree.

Main definitions:

- `HoldInUpperCase`: two accounts hold a currency, in one letter case or another.
- `Response.ClashesInLetterCase`: an instruction was rejected for letter case alone.

Main results:

- Theorem `code_objection?_restate`: the objection to an instruction is of the same kind when the
  accounts have taken over their views, unless it was to letter case alone.
- Theorem `rejected_again_iff_not_clashes`: an instruction that was rejected is rejected again for a
  breach of the same kind, unless it was rejected for letter case alone.
-/

namespace FundsTransfer

/-- Two accounts hold a currency, in one letter case or another. -/
structure HoldInUpperCase (currency : String) (debit credit : Account) : Prop where
  debit_eq : Text.upper debit.currency = currency
  credit_eq : Text.upper credit.currency = currency

/-- An instruction was rejected because its accounts hold different currencies, though in upper case
both hold the currency instructed. -/
structure Response.ClashesInLetterCase (accounts : List Account) (response : Response) : Prop where
  outcome_eq : response.outcome = .rejected .accountCurrencies
  exists_accounts : ∃ currency debit credit, response.currency = some currency ∧
    Account.find? accounts response.debitId = some debit ∧
    Account.find? accounts response.creditId = some credit ∧ HoldInUpperCase currency debit credit

/-! ## Objections when the accounts have taken over their views -/

section Pair

variable {wording : Wording} {debit credit : Account} {amount : Int}

/-- The objection that needs both accounts is of the same kind when they hold their currencies in
upper case, unless it was to letter case alone. -/
theorem code_pairObjection?_restated
    (hclash : wording.pairObjection? amount debit credit = some .accountCurrencies →
      ¬ HoldInUpperCase (Text.upper wording.currency) debit credit) :
    (wording.pairObjection? amount debit.restated credit.restated).map Breach.code =
      (wording.pairObjection? amount debit credit).map Breach.code := by
  have hdebit : Text.upper debit.restated.currency = Text.upper debit.currency :=
    Text.upper_upper debit.currency
  by_cases hsupported : Text.upper wording.currency ∉ supportedCurrencies
  · rw [Wording.pairObjection?, Wording.pairObjection?, if_pos hsupported, if_pos hsupported]
  by_cases hsame : debit.currency = credit.currency
  · -- The accounts still agree, and the other cases look at the currency in upper case.
    have hrestated : debit.restated.currency = credit.restated.currency :=
      congrArg Text.upper hsame
    rw [Wording.pairObjection?, Wording.pairObjection?, if_neg hsupported, if_neg hsupported,
      if_neg (not_not.2 hrestated), if_neg (not_not.2 hsame), hdebit]
    split
    · rfl
    · split
      · rfl
      · change Option.map _ (if debit.balance < amount then _ else _) = _
        split <;> rfl
  · have hmismatch : wording.pairObjection? amount debit credit = some .accountCurrencies := by
      rw [Wording.pairObjection?, if_neg hsupported, if_pos hsame]
    rw [hmismatch, Wording.pairObjection?, if_neg hsupported]
    by_cases hrestated : debit.restated.currency = credit.restated.currency
    · -- The accounts agree now, but not with the instruction, and that is of the same kind.
      have hforeign : Text.upper debit.currency ≠ Text.upper wording.currency := by
        intro hinstructed
        exact hclash hmismatch ⟨hinstructed, hrestated.symm.trans hinstructed⟩
      rw [if_neg (not_not.2 hrestated), hdebit, if_pos hforeign]
      rfl
    · rw [if_pos hrestated]

/-- Accounts that hold the currency instructed are objected to for their currencies only if these
differ in letter case. -/
theorem currency_ne_of_clash
    (hmismatch : wording.pairObjection? amount debit credit = some .accountCurrencies)
    (hhold : HoldInUpperCase (Text.upper wording.currency) debit credit) :
    debit.currency ≠ credit.currency := by
  intro hsame
  rw [Wording.pairObjection?, if_neg (not_not.2 hsame), if_neg (not_not.2 hhold.debit_eq)]
    at hmismatch
  split_ifs at hmismatch <;> cases hmismatch

/-- If the objection was to letter case alone, the balance is all that may still stand against the
instruction. -/
theorem pairObjection?_restated_of_clash
    (hmismatch : wording.pairObjection? amount debit credit = some .accountCurrencies)
    (hne : wording.debitId ≠ wording.creditId)
    (hhold : HoldInUpperCase (Text.upper wording.currency) debit credit) :
    wording.pairObjection? amount debit.restated credit.restated =
      if debit.balance < amount then
        some (.insufficientFunds debit.balance (Text.upper debit.currency) amount)
      else none := by
  have hsupported : Text.upper wording.currency ∈ supportedCurrencies := by
    by_contra hnot
    rw [Wording.pairObjection?, if_pos hnot] at hmismatch
    cases hmismatch
  have hrestated : debit.restated.currency = credit.restated.currency :=
    hhold.debit_eq.trans hhold.credit_eq.symm
  have hinstructed : Text.upper debit.restated.currency = Text.upper wording.currency :=
    (Text.upper_upper debit.currency).trans hhold.debit_eq
  rw [Wording.pairObjection?, if_neg (not_not.2 hsupported), if_neg (not_not.2 hrestated),
    if_neg (not_not.2 hinstructed), if_neg hne]
  rfl

end Pair

section Restate

variable {wording : Wording} {accounts : List Account} {names : String → Bool}
  (hdebit : names wording.debitId = true) (hcredit : names wording.creditId = true)
include hdebit hcredit

/-- The objection that needs the accounts on offer is of the same kind when the accounts named have
taken over their views, unless it was to letter case alone. -/
theorem code_accountObjection?_restate {amount : Int}
    (hclash : ∀ debit credit, Account.find? accounts (some wording.debitId) = some debit →
      Account.find? accounts (some wording.creditId) = some credit →
      wording.pairObjection? amount debit credit = some .accountCurrencies →
      ¬ HoldInUpperCase (Text.upper wording.currency) debit credit) :
    (wording.accountObjection? amount (restate names accounts)).map Breach.code =
      (wording.accountObjection? amount accounts).map Breach.code := by
  rw [Wording.accountObjection?, Wording.accountObjection?, find?_restate_eq_map hdebit,
    find?_restate_eq_map hcredit]
  cases hdebitFound : Account.find? accounts (some wording.debitId) with
  | none => rfl
  | some debit =>
      cases hcreditFound : Account.find? accounts (some wording.creditId) with
      | none => rfl
      | some credit =>
          exact code_pairObjection?_restated (hclash debit credit hdebitFound hcreditFound)

/-- The first objection to an instruction is of the same kind when the accounts named have taken over
their views, unless it was to letter case alone. -/
theorem code_objection?_restate {amount : Option Nat}
    (hclash : wording.objection? amount accounts = some .accountCurrencies →
      ∀ debit credit, Account.find? accounts (some wording.debitId) = some debit →
      Account.find? accounts (some wording.creditId) = some credit →
      ¬ HoldInUpperCase (Text.upper wording.currency) debit credit) :
    (wording.objection? amount (restate names accounts)).map Breach.code =
      (wording.objection? amount accounts).map Breach.code := by
  cases amount with
  | none => rfl
  | some n =>
      simp only [Wording.objection?] at hclash ⊢
      split
      · rfl
      · split
        · rfl
        · split
          · rfl
          · rename_i hdebitFormed hcreditFormed hdate
            rw [if_neg hdebitFormed, if_neg hcreditFormed, if_neg hdate] at hclash
            apply code_accountObjection?_restate hdebit hcredit
            intro debit credit hdebitFound hcreditFound hmismatch
            apply hclash _ debit credit hdebitFound hcreditFound
            rw [Wording.accountObjection?, hdebitFound, hcreditFound]
            exact hmismatch

/-- If the first objection was to letter case alone, only the balance may still stand against the
instruction when the accounts named have taken over their views. -/
theorem code_objection?_restate_of_clash {amount : Option Nat} {debit credit : Account}
    (hmismatch : wording.objection? amount accounts = some .accountCurrencies)
    (hdebitFound : Account.find? accounts (some wording.debitId) = some debit)
    (hcreditFound : Account.find? accounts (some wording.creditId) = some credit)
    (hhold : HoldInUpperCase (Text.upper wording.currency) debit credit) :
    wording.objection? amount (restate names accounts) = none ∨
      (wording.objection? amount (restate names accounts)).map Breach.code =
        some .insufficientFunds := by
  cases amount with
  | none => cases hmismatch
  | some n =>
      simp only [Wording.objection?] at hmismatch ⊢
      split_ifs at hmismatch ⊢
      · cases hmismatch
      · cases hmismatch
      · cases hmismatch
      · simp only [Wording.accountObjection?, find?_restate_eq_map hdebit,
          find?_restate_eq_map hcredit, hdebitFound, hcreditFound, Option.map_some]
          at hmismatch ⊢
        have hdistinct : wording.debitId ≠ wording.creditId := by
          intro hid
          rw [hid, hcreditFound, Option.some.injEq] at hdebitFound
          exact currency_ne_of_clash hmismatch hhold (by rw [hdebitFound])
        rw [pairObjection?_restated_of_clash hmismatch hdistinct hhold]
        split
        · exact Or.inr rfl
        · exact Or.inl rfl

/-- The figures in the messages about an instruction are the same when the accounts named have taken
over their views. -/
theorem figuresFit_restate (amount : Option Nat) :
    FiguresFit (restate names accounts) (wording.reading amount) ↔
      FiguresFit accounts (wording.reading amount) := by
  simp only [FiguresFit, Wording.reading, find?_restate_eq_map hdebit,
    find?_restate_eq_map hcredit]
  cases Account.find? accounts (some wording.debitId) with
  | none => rfl
  | some debit => cases Account.find? accounts (some wording.creditId) <;> rfl

end Restate

/-! ## The second answer -/

/-- An instruction in full form is rejected for the first objection to it, and only for one. -/
theorem Wording.verdict_eq_rejected_iff {wording : Wording} {amount : Option Nat}
    {accounts : List Account} {today : Calendar.Date} {breach : Breach} :
    wording.verdict amount accounts today = .rejected breach ↔
      wording.objection? amount accounts = some breach := by
  cases hobjection : wording.objection? amount accounts with
  | some other => simp [Wording.verdict, hobjection]
  | none =>
      simp only [Wording.verdict, hobjection]
      split <;> simp

/-- An instruction without an objection, or with one to the balance only, has one of three codes. -/
theorem Wording.code_verdict_mem {wording : Wording} {amount : Option Nat}
    {accounts : List Account} {today : Calendar.Date}
    (hobjection : wording.objection? amount accounts = none ∨
      (wording.objection? amount accounts).map Breach.code = some .insufficientFunds) :
    (wording.verdict amount accounts today).code ∈ ["AC01", "AP00", "AP02"] := by
  rcases hobjection with hnone | hfunds
  · simp only [Wording.verdict, hnone]
    split <;> decide
  · rcases Option.map_eq_some_iff.1 hfunds with ⟨breach, hbreach, hcode⟩
    simp only [Wording.verdict, hbreach, Outcome.code, hcode]
    decide

section Again

variable {accounts : List Account} {today : Calendar.Date} {text : String} {wording : Wording}
  {amount : Option Nat} {breach : Breach} {response : Response}

/-- The verdict on an instruction in full form that was rejected and is given again. -/
theorem outcome_again (hspelled : wording.IsSpelled (Text.words text))
    (hamount : readAmount wording.amount = .ok amount)
    (hresponse : (answerText accounts today text).response = response)
    (hrejected : response.outcome = .rejected breach)
    (hfit : FiguresFit (restate response.names accounts) (wording.reading amount)) :
    (answerText (response.adopt accounts) today text).response.outcome =
      wording.verdict amount (restate response.names accounts) today := by
  subst hresponse
  have hadopt : (answerText accounts today text).response.adopt accounts =
      restate (answerText accounts today text).response.names accounts :=
    adopt_eq_restate (by rw [hrejected]; exact Outcome.noConfusion)
  rw [hadopt]
  exact outcome_of_figuresFit hspelled hamount hfit today

/-- An instruction in full form that was rejected is rejected again for a breach of the same kind,
unless it was rejected for letter case alone. -/
theorem rejected_again_of_isSpelled (hspelled : wording.IsSpelled (Text.words text))
    (hamount : readAmount wording.amount = .ok amount)
    (hresponse : (answerText accounts today text).response = response)
    (hrejected : response.outcome = .rejected breach)
    (hcurrency : response.currency = some (Text.upper wording.currency))
    (hdebit : response.debitId = some wording.debitId)
    (hcredit : response.creditId = some wording.creditId) :
    (¬ response.ClashesInLetterCase accounts → ∃ other,
      (answerText (response.adopt accounts) today text).response.outcome = .rejected other ∧
        other.code = breach.code) ∧
    (response.ClashesInLetterCase accounts →
      (answerText (response.adopt accounts) today text).response.outcome.code ∈
        ["AC01", "AP00", "AP02"]) := by
  have hfit : FiguresFit accounts (wording.reading amount) := by
    by_contra hunfit
    have hread := ofText_of_isSpelled hspelled hamount
    rw [← hresponse, response_answerText_of_not_figuresFit hread hunfit] at hdebit
    cases hdebit
  have hobjection : wording.objection? amount accounts = some breach := by
    have hverdict := outcome_of_figuresFit hspelled hamount hfit today
    rw [hresponse, hrejected] at hverdict
    exact Wording.verdict_eq_rejected_iff.1 hverdict.symm
  have hdebitNamed : response.names wording.debitId = true := by
    simp [Response.names, hdebit]
  have hcreditNamed : response.names wording.creditId = true := by
    simp [Response.names, hcredit]
  rw [outcome_again hspelled hamount hresponse hrejected
    ((figuresFit_restate hdebitNamed hcreditNamed amount).2 hfit)]
  constructor
  · intro hnot
    have hcode : (wording.objection? amount (restate response.names accounts)).map Breach.code =
        some breach.code := by
      rw [code_objection?_restate hdebitNamed hcreditNamed, hobjection, Option.map_some]
      intro hmismatch debit credit hdebitFound hcreditFound hhold
      rw [hobjection, Option.some.injEq] at hmismatch
      apply hnot
      refine ⟨by rw [hrejected, hmismatch], _, debit, credit, hcurrency, ?_, ?_, hhold⟩
      · rw [hdebit, hdebitFound]
      · rw [hcredit, hcreditFound]
    rcases Option.map_eq_some_iff.1 hcode with ⟨other, hother, hkind⟩
    exact ⟨other, Wording.verdict_eq_rejected_iff.2 hother, hkind⟩
  · rintro ⟨hmismatch, currency, debit, credit, hclashing, hdebitFound, hcreditFound, hhold⟩
    rw [hcurrency, Option.some.injEq] at hclashing
    subst hclashing
    rw [hdebit] at hdebitFound
    rw [hcredit] at hcreditFound
    rw [hrejected, Outcome.rejected.injEq] at hmismatch
    apply Wording.code_verdict_mem
    exact code_objection?_restate_of_clash hdebitNamed hcreditNamed (hmismatch ▸ hobjection)
      hdebitFound hcreditFound hhold

end Again

/-- A response that repeats nothing leaves the accounts as they are. -/
theorem adopt_blank (breach : Breach) (accounts : List Account) :
    (Response.blank breach).adopt accounts = accounts :=
  handOut_nil _ _ accounts

/-- A response that repeats nothing does not tell of a clash. -/
theorem not_clashesInLetterCase_blank (breach : Breach) (accounts : List Account) :
    ¬ (Response.blank breach).ClashesInLetterCase accounts := by
  rintro ⟨_, _, _, _, hcurrency, _⟩
  cases hcurrency

/-- What becomes of an order that was rejected and is given again. -/
theorem entry_again {accounts : List Account} {order : Order}
    (hfailed : (order.entry accounts).response.outcome.status = "failed") :
    ∃ breach, (order.entry accounts).response.outcome = .rejected breach ∧
      (¬ (order.entry accounts).response.ClashesInLetterCase accounts → ∃ other,
        (order.entry (order.entry accounts).accounts).response.outcome = .rejected other ∧
          other.code = breach.code) ∧
      ((order.entry accounts).response.ClashesInLetterCase accounts →
        (order.entry (order.entry accounts).accounts).response.outcome.code ∈
          ["AC01", "AP00", "AP02"]) := by
  rcases order with ⟨instruction, today⟩
  have hanswers := answers_answer accounts today instruction
  simp only [Order.entry] at hfailed ⊢
  generalize hresponse : (answer accounts today instruction).response = response
    at hanswers hfailed ⊢
  cases hanswers with
  | @blank _ breach hunreadable =>
      rw [adopt_blank, hresponse]
      refine ⟨breach, rfl, fun _ => ⟨breach, rfl, rfl⟩, fun hclash => ?_⟩
      exact absurd hclash (not_clashesInLetterCase_blank breach accounts)
  | @rejected text reading breach _ hread hfit hprimary hreadable hecho =>
      rcases exists_reading_of_primary? hread hprimary hreadable with
        ⟨wording, amount, hspelled, hamount, rfl⟩
      rcases eq_of_echo?_eq_ok hecho with ⟨direction, _, rfl⟩
      exact ⟨breach, rfl, rejected_again_of_isSpelled hspelled hamount hresponse rfl rfl rfl rfl⟩
  | scheduled hread hcleared hdeferred hecho =>
      rcases eq_of_echo?_eq_ok hecho with ⟨direction, _, rfl⟩
      simp [Outcome.status] at hfailed
  | executed hread hcleared hdeferred hecho =>
      rcases eq_of_echo?_eq_ok hecho with ⟨direction, _, rfl⟩
      simp [Outcome.status] at hfailed

/-- An instruction that was rejected and is given again on the same day is rejected for a breach of
the same kind, unless it was rejected for letter case alone.  Then the accounts agree the second time,
and only the balance may be short. -/
theorem rejected_again_iff_not_clashes {accounts : List Account} {order : Order}
    {first again : Entry Account} (hsession : session accounts [order, order] = [first, again])
    (hfailed : first.response.outcome.status = "failed") :
    ((again.response.outcome.status = "failed" ∧
        again.response.outcome.code = first.response.outcome.code) ↔
      ¬ first.response.ClashesInLetterCase accounts) ∧
    (first.response.ClashesInLetterCase accounts →
      again.response.outcome.code ∈ ["AC01", "AP00", "AP02"]) := by
  cases hsession
  rcases entry_again hfailed with ⟨breach, hrejected, hsame, hresolved⟩
  refine ⟨⟨?_, ?_⟩, hresolved⟩
  · rintro ⟨_, hcode⟩ hclash
    have hmem := hresolved hclash
    rw [hcode, hclash.outcome_eq] at hmem
    exact absurd hmem (by decide)
  · intro hnot
    rcases hsame hnot with ⟨other, houtcome, hkind⟩
    rw [houtcome, hrejected, Outcome.code, Outcome.code, hkind]
    exact ⟨rfl, rfl⟩

/-- A transfer in pounds. -/
def transferInPounds : Order :=
  ⟨.str "DEBIT 30 gbp FROM ACCOUNT a FOR CREDIT TO ACCOUNT b", midJune⟩

/-- A transfer in dollars. -/
def transferInDollars : Order :=
  ⟨.str "DEBIT 30 USD FROM ACCOUNT a FOR CREDIT TO ACCOUNT b", midJune⟩

/-- Accounts that hold one currency in different letter case. -/
def letterCaseAccounts : List Account :=
  [⟨"a", 100, "usd"⟩, ⟨"b", 0, "USD"⟩]

/-- A transfer in another currency is rejected again, first because the accounts differ in letter case
and then because both hold another currency. -/
theorem rejected_again_in_pounds :
    ∃ first again, session letterCaseAccounts [transferInPounds, transferInPounds] = [first, again] ∧
      first.response.outcome = .rejected .accountCurrencies ∧
      again.response.outcome = .rejected (.foreignCurrency "GBP" "USD") ∧
      again.response.outcome.code = first.response.outcome.code := by
  have hfirst : (transferInPounds.entry letterCaseAccounts).response.outcome =
      .rejected .accountCurrencies := by
    decide +kernel
  have hnot : ¬ (transferInPounds.entry letterCaseAccounts).response.ClashesInLetterCase
      letterCaseAccounts := by
    rintro ⟨_, currency, debit, credit, hcurrency, hdebit, _, hhold⟩
    have hpounds : (transferInPounds.entry letterCaseAccounts).response.currency =
        some "GBP" := by
      decide +kernel
    have hdollars : Account.find? letterCaseAccounts
        (transferInPounds.entry letterCaseAccounts).response.debitId =
          some ⟨"a", 100, "usd"⟩ := by
      decide +kernel
    rw [hpounds, Option.some.injEq] at hcurrency
    rw [hdollars, Option.some.injEq] at hdebit
    subst hcurrency hdebit
    exact absurd hhold.debit_eq (by decide +kernel)
  refine ⟨_, _, rfl, hfirst, by decide +kernel, ?_⟩
  exact ((rejected_again_iff_not_clashes rfl (by rw [hfirst]; rfl)).1.2 hnot).2

/-- A transfer that is rejected for the letter case of a currency is executed when it is given
again. -/
theorem executed_after_rejection :
    (letterCaseAccounts.map Account.id).Nodup ∧
      ∃ first again,
        session letterCaseAccounts [transferInDollars, transferInDollars] = [first, again] ∧
        first.response.outcome.status = "failed" ∧ first.response.outcome.code = "CU01" ∧
        again.response.outcome.status = "successful" ∧ again.response.outcome.code = "AP00" := by
  refine ⟨by decide, _, _, rfl, ?_⟩
  decide +kernel

end FundsTransfer
