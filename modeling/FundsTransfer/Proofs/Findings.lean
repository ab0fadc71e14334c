import Mathlib.Tactic.ByContra
import FundsTransfer.Findings

/-!
# Findings about a reading

What each rule reports, which kinds of breaches these are, and what is known of an instruction
against which nothing was found.

Main definitions:

- `ruleCodes`: the kinds of breaches that the rules report.
- `Overdraws`: an amount is to be charged to an account that does not cover it.
- `HasUnwritableBalance`: the balance of that account has too many digits to be written.
- `Cleared`: what is known of an instruction without a breach.

Main results:

- Theorems `mem_idBreaches`, `mem_currencyBreaches` and the like: what a rule reports, and when.
- Theorem `code_mem_of_mem_ruleBreaches`: the kinds of breaches that the rules report.
- Theorem `not_figuresFit_iff`: the one message whose figures may not fit is that about the funds.
- Theorems `Cleared.id_ne`, `Cleared.amount_le`: an instruction without a breach names two different
  accounts, and the debited one covers the amount.
-/

namespace FundsTransfer

/-! ## Rules that need a part of the reading -/

/-- A text is named exactly when it is there and not empty. -/
theorem named?_eq_some_iff {text : Option String} {named : String} :
    named? text = some named ↔ text = some named ∧ named ≠ "" := by
  simp [named?, Option.filter_eq_some_iff]

/-- A text that is not empty is named. -/
theorem named?_some {text : String} (hne : text ≠ "") : named? (some text) = some text :=
  named?_eq_some_iff.2 ⟨rfl, hne⟩

/-- The rule on ids applies to every id that is not empty. -/
theorem idBreaches_some {id : String} (hne : id ≠ "") :
    idBreaches (some id) = reportIf (isWellFormedId id = false) (.badAccountId id) := by
  rw [idBreaches, named?_some hne, reportOn_some]

/-- The rule on equal ids applies to two ids that are there. -/
theorem sameAccountBreaches_some (debitId creditId : String) :
    sameAccountBreaches (some debitId) (some creditId) =
      reportIf (debitId = creditId) .sameAccount := by
  by_cases hsame : debitId = creditId <;> simp [sameAccountBreaches, reportIf, hsame]

/-- The rule on currencies applies to every currency that is not empty. -/
theorem currencyBreaches_some {currency : String} (hne : currency ≠ "") :
    currencyBreaches (some currency) =
      reportIf (currency ∉ supportedCurrencies) .unsupportedCurrency := by
  rw [currencyBreaches, named?_some hne, reportOn_some]

/-- The rule on unknown accounts applies to every id that is not empty. -/
theorem lookupBreaches_some {id : String} (hne : id ≠ "") (account : Option Account) :
    lookupBreaches (some id) account = reportIf (account = none) (.unknownAccount id) := by
  rw [lookupBreaches, named?_some hne, reportOn_some]

/-- The rule on the instructed currency applies to every currency that is not empty. -/
theorem instructedBreaches_some {currency : String} (hne : currency ≠ "") (debit : Account) :
    instructedBreaches (some currency) debit =
      reportIf (Text.upper debit.currency ≠ currency)
        (.foreignCurrency currency (Text.upper debit.currency)) := by
  rw [instructedBreaches, named?_some hne, reportOn_some]

/-- The rule on funds applies to every amount. -/
theorem fundsBreaches_some (amount : Int) (debit : Account) :
    fundsBreaches (some amount) debit =
      reportIf (debit.balance < amount)
        (.insufficientFunds debit.balance debit.currency amount) := rfl

/-! ## What each rule reports -/

theorem mem_idBreaches {id : Option String} {breach : Breach} :
    breach ∈ idBreaches id ↔
      ∃ named, named? id = some named ∧ isWellFormedId named = false ∧
        breach = .badAccountId named := by
  simp only [idBreaches, mem_reportOn, mem_reportIf]

theorem mem_currencyBreaches {currency : Option String} {breach : Breach} :
    breach ∈ currencyBreaches currency ↔
      ∃ named, named? currency = some named ∧ named ∉ supportedCurrencies ∧
        breach = .unsupportedCurrency := by
  simp only [currencyBreaches, mem_reportOn, mem_reportIf]

theorem mem_lookupBreaches {id : Option String} {account : Option Account} {breach : Breach} :
    breach ∈ lookupBreaches id account ↔
      ∃ named, named? id = some named ∧ account = none ∧ breach = .unknownAccount named := by
  simp only [lookupBreaches, mem_reportOn, mem_reportIf]

theorem mem_instructedBreaches {currency : Option String} {debit : Account} {breach : Breach} :
    breach ∈ instructedBreaches currency debit ↔
      ∃ named, named? currency = some named ∧ Text.upper debit.currency ≠ named ∧
        breach = .foreignCurrency named (Text.upper debit.currency) := by
  simp only [instructedBreaches, mem_reportOn, mem_reportIf]

theorem mem_fundsBreaches {amount : Option Int} {debit : Account} {breach : Breach} :
    breach ∈ fundsBreaches amount debit ↔
      ∃ n, amount = some n ∧ debit.balance < n ∧
        breach = .insufficientFunds debit.balance debit.currency n := by
  simp only [fundsBreaches, mem_reportOn, mem_reportIf]

/-! ## Kinds of breaches -/

/-- The kinds of breaches that the rules report. -/
def ruleCodes : List Code :=
  [.badAccountId, .sameAccount, .unsupportedCurrency, .unknownAccount, .currencyMismatch,
    .insufficientFunds]

/-- The rules that concern both accounts are about currencies and funds. -/
theorem code_of_mem_pairBreaches {breach : Breach} {reading : Reading}
    {debit credit : Option Account} (hbreach : breach ∈ pairBreaches reading debit credit) :
    breach.code = .currencyMismatch ∨ breach.code = .insufficientFunds := by
  unfold pairBreaches at hbreach
  split at hbreach
  · simp only [List.mem_append, holdingBreaches, mem_reportIf, mem_instructedBreaches,
      mem_fundsBreaches] at hbreach
    rcases hbreach with (⟨_, rfl⟩ | ⟨_, _, _, rfl⟩) | ⟨_, _, _, rfl⟩
    · exact Or.inl rfl
    · exact Or.inl rfl
    · exact Or.inr rfl
  · simp at hbreach

/-- Every breach of a rule is of one of the kinds of the rules. -/
theorem code_mem_of_mem_ruleBreaches {reading : Reading} {debit credit : Option Account}
    {breach : Breach} (hbreach : breach ∈ ruleBreaches reading debit credit) :
    breach.code ∈ ruleCodes := by
  simp only [ruleBreaches, generalBreaches, List.mem_append, mem_idBreaches, sameAccountBreaches,
    mem_reportIf, mem_currencyBreaches, mem_lookupBreaches] at hbreach
  rcases hbreach with (((((hid | hid) | hsame) | hcurrency) | hlookup) | hlookup) | hpair
  · obtain ⟨named, _, _, rfl⟩ := hid
    simp [ruleCodes, Breach.badAccountId]
  · obtain ⟨named, _, _, rfl⟩ := hid
    simp [ruleCodes, Breach.badAccountId]
  · obtain ⟨_, rfl⟩ := hsame
    simp [ruleCodes, Breach.sameAccount]
  · obtain ⟨named, _, _, rfl⟩ := hcurrency
    simp [ruleCodes, Breach.unsupportedCurrency]
  · obtain ⟨named, _, _, rfl⟩ := hlookup
    simp [ruleCodes, Breach.unknownAccount]
  · obtain ⟨named, _, _, rfl⟩ := hlookup
    simp [ruleCodes, Breach.unknownAccount]
  · rcases code_of_mem_pairBreaches hpair with hcode | hcode <;> simp [ruleCodes, hcode]

/-- The catalogue knows every kind of breach that the rules report. -/
theorem mem_catalogue_of_mem_ruleCodes {code : Code} (hcode : code ∈ ruleCodes) :
    code ∈ Code.catalogue := by
  simp only [ruleCodes, List.mem_cons, List.not_mem_nil, or_false] at hcode
  rcases hcode with rfl | rfl | rfl | rfl | rfl | rfl <;> decide

/-- A broken rule leaves an instruction readable. -/
theorem isUnreadable_eq_false_of_mem_ruleCodes {code : Code} (hcode : code ∈ ruleCodes) :
    code.isUnreadable = false := by
  simp only [ruleCodes, List.mem_cons, List.not_mem_nil, or_false] at hcode
  rcases hcode with rfl | rfl | rfl | rfl | rfl | rfl <;> rfl

/-! ## Figures in messages -/

/-- Both ids of a reading name an account, and the debited one does not cover the amount. -/
structure Overdraws (accounts : List Account) (reading : Reading) (debit credit : Account)
    (amount : Int) : Prop where
  debit_found : Account.find? accounts reading.debitId = some debit
  credit_found : Account.find? accounts reading.creditId = some credit
  amount_eq : reading.amount = some amount
  balance_lt : debit.balance < amount

/-- An amount is to be charged to an account that does not cover it, and the balance of that account
has too many digits to be written. -/
def HasUnwritableBalance (accounts : List Account) (reading : Reading) : Prop :=
  ∃ debit credit amount, Overdraws accounts reading debit credit amount ∧
    ¬ Numeral.IsShort debit.balance.natAbs

section Figures

variable {accounts : List Account} {reading : Reading}

/-- Figures are stated only of an account that does not cover an amount. -/
theorem mem_fundsFigures {amount : Option Int} {debit : Account} {figure : Int} :
    figure ∈ fundsFigures amount debit ↔
      ∃ n, amount = some n ∧ debit.balance < n ∧ (figure = debit.balance ∨ figure = n) := by
  unfold fundsFigures
  cases amount with
  | none => simp
  | some n => by_cases hlt : debit.balance < n <;> simp [hlt]

/-- A figure that does not fit is the balance of an account that does not cover the amount, or the
amount. -/
theorem not_figuresFit_iff :
    ¬ FiguresFit accounts reading ↔
      ∃ debit credit amount, Overdraws accounts reading debit credit amount ∧
        ¬ (Numeral.IsShort debit.balance.natAbs ∧ Numeral.IsShort amount.natAbs) := by
  unfold FiguresFit statedFigures
  split
  · rename_i debit credit hdebit hcredit
    simp only [mem_fundsFigures]
    constructor
    · intro hunfit
      simp only [Classical.not_forall, exists_prop] at hunfit
      obtain ⟨figure, ⟨amount, hamount, hlt, hfigure⟩, hlong⟩ := hunfit
      refine ⟨debit, credit, amount, ⟨hdebit, hcredit, hamount, hlt⟩, fun hshort => hlong ?_⟩
      rcases hfigure with rfl | rfl
      · exact hshort.1
      · exact hshort.2
    · rintro ⟨debit', credit', amount, hoverdraws, hlong⟩ hfit
      have hsame : debit = debit' := by
        simpa [hoverdraws.debit_found] using hdebit.symm
      subst hsame
      exact hlong ⟨hfit _ ⟨amount, hoverdraws.amount_eq, hoverdraws.balance_lt, .inl rfl⟩,
        hfit _ ⟨amount, hoverdraws.amount_eq, hoverdraws.balance_lt, .inr rfl⟩⟩
  · rename_i hmissing
    constructor
    · intro hunfit
      exact absurd (by simp) hunfit
    · rintro ⟨debit, credit, amount, hoverdraws, -⟩
      exact absurd hoverdraws.credit_found (hmissing debit credit hoverdraws.debit_found)

/-- If the amount has few enough digits, only the balance of the debited account may not fit. -/
theorem not_figuresFit_iff_hasUnwritableBalance
    (hshort : ∀ amount ∈ reading.amount, Numeral.IsShort amount.natAbs) :
    ¬ FiguresFit accounts reading ↔ HasUnwritableBalance accounts reading := by
  rw [not_figuresFit_iff, HasUnwritableBalance]
  constructor
  · rintro ⟨debit, credit, amount, hoverdraws, hlong⟩
    exact ⟨debit, credit, amount, hoverdraws,
      fun hbalance => hlong ⟨hbalance, hshort amount hoverdraws.amount_eq⟩⟩
  · rintro ⟨debit, credit, amount, hoverdraws, hlong⟩
    exact ⟨debit, credit, amount, hoverdraws, fun hboth => hlong hboth.1⟩

/-- Among accounts whose balances can be written all figures fit. -/
theorem not_hasUnwritableBalance_of_isShort
    (hbalances : ∀ account ∈ accounts, Numeral.IsShort account.balance.natAbs) :
    ¬ HasUnwritableBalance accounts reading := by
  rintro ⟨debit, credit, amount, hoverdraws, hlong⟩
  exact hlong (hbalances debit (Account.mem_of_find?_eq_some hoverdraws.debit_found))

/-- If nothing is found against a reading, no figure is stated. -/
theorem figuresFit_of_breaches_eq_nil (hnone : (examine accounts reading).breaches = []) :
    FiguresFit accounts reading := by
  by_contra hunfit
  obtain ⟨debit, credit, amount, hoverdraws, -⟩ := not_figuresFit_iff.1 hunfit
  simp only [examine, hoverdraws.debit_found, hoverdraws.credit_found, ruleBreaches, pairBreaches,
    List.append_eq_nil_iff, hoverdraws.amount_eq, fundsBreaches_some, reportIf_eq_nil_iff] at hnone
  exact hnone.2.2.2 hoverdraws.balance_lt

end Figures

/-! ## Instructions without a breach -/

/-- The account that is found for an id has that id. -/
theorem Account.eq_some_id_of_find? {accounts : List Account} {id : Option String}
    {account : Account} (hfound : Account.find? accounts id = some account) :
    id = some account.id := by
  cases id with
  | none => simp at hfound
  | some id => rw [Account.id_of_find?_eq_some hfound]

/-- Nothing was found against a reading, and it has what a transfer needs: two accounts on offer and
an amount. -/
structure Cleared (accounts : List Account) (reading : Reading) (debit credit : Account)
    (amount : Int) : Prop where
  debit_found : Account.find? accounts reading.debitId = some debit
  credit_found : Account.find? accounts reading.creditId = some credit
  amount_eq : reading.amount = some amount
  breaches_eq_nil : (examine accounts reading).breaches = []

namespace Cleared

variable {accounts : List Account} {reading : Reading} {debit credit : Account} {amount : Int}

theorem debitId_eq (hcleared : Cleared accounts reading debit credit amount) :
    reading.debitId = some debit.id :=
  Account.eq_some_id_of_find? hcleared.debit_found

theorem creditId_eq (hcleared : Cleared accounts reading debit credit amount) :
    reading.creditId = some credit.id :=
  Account.eq_some_id_of_find? hcleared.credit_found

/-- Nothing is reported of the wording. -/
theorem readingBreaches_eq_nil (hcleared : Cleared accounts reading debit credit amount) :
    reading.breaches = [] :=
  (List.append_eq_nil_iff.1 hcleared.breaches_eq_nil).1

/-- No rule is broken. -/
theorem ruleBreaches_eq_nil (hcleared : Cleared accounts reading debit credit amount) :
    ruleBreaches reading (some debit) (some credit) = [] := by
  have hnone := hcleared.breaches_eq_nil
  simp only [examine, hcleared.debit_found, hcleared.credit_found, List.append_eq_nil_iff] at hnone
  exact hnone.2

/-- Nothing was found against a reading if nothing is reported of its wording and no rule is broken. -/
theorem of_ruleBreaches (hdebit : Account.find? accounts reading.debitId = some debit)
    (hcredit : Account.find? accounts reading.creditId = some credit)
    (hamount : reading.amount = some amount) (hwording : reading.breaches = [])
    (hrules : ruleBreaches reading (some debit) (some credit) = []) :
    Cleared accounts reading debit credit amount :=
  ⟨hdebit, hcredit, hamount, by simp only [examine, hdebit, hcredit, hwording, hrules]; rfl⟩

/-- The two accounts have different ids. -/
theorem id_ne (hcleared : Cleared accounts reading debit credit amount) :
    debit.id ≠ credit.id := by
  have hnone := hcleared.ruleBreaches_eq_nil
  simp only [ruleBreaches, generalBreaches, List.append_eq_nil_iff] at hnone
  have hsame : sameAccountBreaches reading.debitId reading.creditId = [] := hnone.1.1.1.1.2
  rw [sameAccountBreaches, reportIf_eq_nil_iff, hcleared.debitId_eq, hcleared.creditId_eq] at hsame
  exact fun hid => hsame (congrArg some hid)

/-- The debited account covers the amount. -/
theorem amount_le (hcleared : Cleared accounts reading debit credit amount) :
    amount ≤ debit.balance := by
  have hnone := hcleared.ruleBreaches_eq_nil
  simp only [ruleBreaches, pairBreaches, List.append_eq_nil_iff] at hnone
  have hfunds : fundsBreaches reading.amount debit = [] := hnone.2.2
  rw [hcleared.amount_eq, fundsBreaches_some, reportIf_eq_nil_iff] at hfunds
  exact Int.not_lt.1 hfunds

end Cleared

end FundsTransfer
