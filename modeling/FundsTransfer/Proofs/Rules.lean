import Mathlib.Data.List.Flatten
import FundsTransfer.Proofs.Amount
import FundsTransfer.Proofs.Findings

/-!
# The rules, one by one

There are nine rules.  Each is broken or kept by itself: it needs its own parts of a reading and, at
most, the accounts that the two ids name.  A broken rule is reported once, in its place and with its
own message, whatever becomes of the others.

Main definitions:

- `Rule`, `Rule.all`: the rules, and their order.
- `Account.IsFirstWith`: the account that an id names.
- `Rule.Breaks`: when a rule is broken, and what is reported then.

Main results:

- Theorem `Account.find?_eq_some_iff`: the account that is found is the first one with the id.
- Theorem `mem_report_iff`: a rule reports what it is broken by.
- Theorem `inspect_reports_each_rule`: the findings about any reading.
-/

namespace FundsTransfer

/-! ## The rules and their order -/

/-- What an instruction has to keep to. -/
inductive Rule where
  /-- The id on a side consists of characters of ids. -/
  | wellFormedId (side : Direction)
  /-- The two ids differ. -/
  | differentIds
  /-- The currency is supported. -/
  | supportedCurrency
  /-- The id on a side is that of an account. -/
  | knownAccount (side : Direction)
  /-- Both accounts hold one currency. -/
  | sameHolding
  /-- The debited account holds the currency of the instruction. -/
  | instructedHolding
  /-- The debited account covers the amount. -/
  | coveredAmount
deriving DecidableEq, Repr

namespace Rule

/-- All rules, in the order in which they are looked at. -/
def all : List Rule :=
  [wellFormedId .debit, wellFormedId .credit, differentIds, supportedCurrency, knownAccount .debit,
    knownAccount .credit, sameHolding, instructedHolding, coveredAmount]

/-- Every rule is looked at. -/
theorem mem_all (rule : Rule) : rule ∈ all := by
  cases rule with
  | wellFormedId side => cases side <;> decide
  | knownAccount side => cases side <;> decide
  | _ => decide

/-- No rule is looked at twice. -/
theorem nodup_all : all.Nodup := by
  decide

end Rule

/-! ## The accounts that are named -/

/-- An id names an account if it is the first one with this id. -/
def Account.IsFirstWith (account : Account) (accounts : List Account) (id : Option String) : Prop :=
  ∃ before after, accounts = before ++ account :: after ∧ id = some account.id ∧
    ∀ other ∈ before, other.id ≠ account.id

/-- The account that is found is the first one with the id. -/
theorem Account.find?_eq_some_iff {accounts : List Account} {id : Option String}
    {account : Account} :
    Account.find? accounts id = some account ↔ account.IsFirstWith accounts id := by
  constructor
  · intro hfound
    obtain rfl := Account.eq_some_id_of_find? hfound
    obtain ⟨-, before, after, haccounts, hbefore⟩ := List.find?_eq_some_iff_append.1 hfound
    exact ⟨before, after, haccounts, rfl, fun other hother => by simpa using hbefore other hother⟩
  · rintro ⟨before, after, rfl, rfl, hbefore⟩
    refine List.find?_eq_some_iff_append.2 ⟨beq_self_eq_true _, before, after, rfl, ?_⟩
    intro other hother
    simpa using hbefore other hother

/-- No account is found exactly for an id that no account has. -/
theorem Account.find?_some_eq_none_iff {accounts : List Account} {id : String} :
    Account.find? accounts (some id) = none ↔ ∀ account ∈ accounts, account.id ≠ id := by
  simp [Account.find?]

/-! ## Broken rules -/

/-- When a reading breaks a rule, given the accounts on offer, and the breach that is reported then.
A missing or empty id or currency breaks no rule of its own, but two missing ids are the same. -/
inductive Rule.Breaks (accounts : List Account) (reading : Reading) : Rule → Breach → Prop where
  | wellFormedId {side : Direction} {id : String} (hid : reading.accountId side = some id)
      (hne : id ≠ "")
      (hbad : ∃ c ∈ id.toList,
        ¬ ('A' ≤ c ∧ c ≤ 'Z' ∨ 'a' ≤ c ∧ c ≤ 'z' ∨ '0' ≤ c ∧ c ≤ '9' ∨ c ∈ ['-', '.', '@'])) :
      Breaks accounts reading (.wellFormedId side)
        ⟨.badAccountId, "Invalid account ID format: " ++ id⟩
  | differentIds (hsame : reading.debitId = reading.creditId) :
      Breaks accounts reading .differentIds
        ⟨.sameAccount, "Debit and credit accounts cannot be the same"⟩
  | supportedCurrency {currency : String} (hcurrency : reading.currency = some currency)
      (hne : currency ≠ "")
      (hunsupported :
        ¬ (currency = "NGN" ∨ currency = "USD" ∨ currency = "GBP" ∨ currency = "GHS")) :
      Breaks accounts reading .supportedCurrency
        ⟨.unsupportedCurrency, "Unsupported currency. Only NGN, USD, GBP, and GHS are supported"⟩
  | knownAccount {side : Direction} {id : String} (hid : reading.accountId side = some id)
      (hne : id ≠ "") (hunknown : ∀ account ∈ accounts, account.id ≠ id) :
      Breaks accounts reading (.knownAccount side) ⟨.unknownAccount, "Account not found: " ++ id⟩
  | sameHolding {debit credit : Account} (hdebit : debit.IsFirstWith accounts reading.debitId)
      (hcredit : credit.IsFirstWith accounts reading.creditId)
      (hdiffer : debit.currency ≠ credit.currency) :
      Breaks accounts reading .sameHolding ⟨.currencyMismatch, "Account currency mismatch"⟩
  | instructedHolding {debit credit : Account} {currency : String}
      (hdebit : debit.IsFirstWith accounts reading.debitId)
      (hcredit : credit.IsFirstWith accounts reading.creditId)
      (hcurrency : reading.currency = some currency) (hne : currency ≠ "")
      (hdiffer : Text.upper debit.currency ≠ currency) :
      Breaks accounts reading .instructedHolding
        ⟨.currencyMismatch, "Currency mismatch: instruction says " ++ currency ++
          " but account has " ++ Text.upper debit.currency⟩
  | coveredAmount {debit credit : Account} {amount : Int}
      (hdebit : debit.IsFirstWith accounts reading.debitId)
      (hcredit : credit.IsFirstWith accounts reading.creditId)
      (hamount : reading.amount = some amount) (hlt : debit.balance < amount) :
      Breaks accounts reading .coveredAmount
        ⟨.insufficientFunds, "Insufficient funds in debit account: has " ++
          toString debit.balance ++ " " ++ debit.currency ++ ", needs " ++ toString amount⟩

/-! ## What each rule reports -/

/-- What a rule on both accounts reports, which applies only if both ids name one. -/
def onBoth (accounts : List Account) (reading : Reading)
    (check : Account → Account → List Breach) : List Breach :=
  match Account.find? accounts reading.debitId, Account.find? accounts reading.creditId with
  | some debit, some credit => check debit credit
  | _, _ => []

/-- What a rule reports of a reading. -/
def Rule.report (accounts : List Account) (reading : Reading) : Rule → List Breach
  | wellFormedId side => idBreaches (reading.accountId side)
  | differentIds => sameAccountBreaches reading.debitId reading.creditId
  | supportedCurrency => currencyBreaches reading.currency
  | knownAccount side =>
    lookupBreaches (reading.accountId side) (Account.find? accounts (reading.accountId side))
  | sameHolding => onBoth accounts reading holdingBreaches
  | instructedHolding =>
    onBoth accounts reading fun debit _ => instructedBreaches reading.currency debit
  | coveredAmount => onBoth accounts reading fun debit _ => fundsBreaches reading.amount debit

variable {accounts : List Account} {reading : Reading} {breach : Breach}

/-- A rule on both accounts reports what it finds in the two that are named. -/
theorem mem_onBoth {check : Account → Account → List Breach} :
    breach ∈ onBoth accounts reading check ↔
      ∃ debit credit, debit.IsFirstWith accounts reading.debitId ∧
        credit.IsFirstWith accounts reading.creditId ∧ breach ∈ check debit credit := by
  simp only [← Account.find?_eq_some_iff]
  unfold onBoth
  split
  · rename_i debit credit hdebit hcredit
    simp [hdebit, hcredit]
  · rename_i hmissing
    constructor
    · intro hbreach
      cases hbreach
    · rintro ⟨debit, credit, hdebit, hcredit, -⟩
      exact absurd hcredit (hmissing debit credit hdebit)

/-- The rule on an id reports the character that no id has. -/
theorem mem_report_wellFormedId {side : Direction} :
    breach ∈ (Rule.wellFormedId side).report accounts reading ↔
      Rule.Breaks accounts reading (.wellFormedId side) breach := by
  rw [Rule.report, mem_idBreaches]
  simp only [named?_eq_some_iff, isWellFormedId_eq_false_iff]
  constructor
  · rintro ⟨id, ⟨hid, hne⟩, hbad, rfl⟩
    exact .wellFormedId hid hne hbad
  · intro hbreaks
    cases hbreaks with
    | wellFormedId hid hne hbad => exact ⟨_, ⟨hid, hne⟩, hbad, rfl⟩

/-- The rule on different ids reports equal ones. -/
theorem mem_report_differentIds :
    breach ∈ Rule.differentIds.report accounts reading ↔
      Rule.Breaks accounts reading .differentIds breach := by
  rw [Rule.report, sameAccountBreaches, mem_reportIf]
  constructor
  · rintro ⟨hsame, rfl⟩
    exact .differentIds hsame
  · intro hbreaks
    cases hbreaks with
    | differentIds hsame => exact ⟨hsame, rfl⟩

/-- The rule on the currency reports one that is not supported. -/
theorem mem_report_supportedCurrency :
    breach ∈ Rule.supportedCurrency.report accounts reading ↔
      Rule.Breaks accounts reading .supportedCurrency breach := by
  rw [Rule.report, mem_currencyBreaches]
  simp only [named?_eq_some_iff, mem_supportedCurrencies_iff]
  constructor
  · rintro ⟨currency, ⟨hcurrency, hne⟩, hunsupported, rfl⟩
    exact .supportedCurrency hcurrency hne hunsupported
  · intro hbreaks
    cases hbreaks with
    | supportedCurrency hcurrency hne hunsupported =>
        exact ⟨_, ⟨hcurrency, hne⟩, hunsupported, rfl⟩

/-- The rule on an account reports an id that no account has. -/
theorem mem_report_knownAccount {side : Direction} :
    breach ∈ (Rule.knownAccount side).report accounts reading ↔
      Rule.Breaks accounts reading (.knownAccount side) breach := by
  rw [Rule.report, mem_lookupBreaches]
  simp only [named?_eq_some_iff]
  constructor
  · rintro ⟨id, ⟨hid, hne⟩, hunknown, rfl⟩
    rw [hid] at hunknown
    exact .knownAccount hid hne (Account.find?_some_eq_none_iff.1 hunknown)
  · intro hbreaks
    cases hbreaks with
    | knownAccount hid hne hunknown =>
        refine ⟨_, ⟨hid, hne⟩, ?_, rfl⟩
        rw [hid]
        exact Account.find?_some_eq_none_iff.2 hunknown

/-- The rule on the holdings reports two that differ. -/
theorem mem_report_sameHolding :
    breach ∈ Rule.sameHolding.report accounts reading ↔
      Rule.Breaks accounts reading .sameHolding breach := by
  simp only [Rule.report, mem_onBoth, holdingBreaches, mem_reportIf]
  constructor
  · rintro ⟨debit, credit, hdebit, hcredit, hdiffer, rfl⟩
    exact .sameHolding hdebit hcredit hdiffer
  · intro hbreaks
    cases hbreaks with
    | sameHolding hdebit hcredit hdiffer => exact ⟨_, _, hdebit, hcredit, hdiffer, rfl⟩

/-- The rule on the instructed currency reports another one. -/
theorem mem_report_instructedHolding :
    breach ∈ Rule.instructedHolding.report accounts reading ↔
      Rule.Breaks accounts reading .instructedHolding breach := by
  simp only [Rule.report, mem_onBoth, mem_instructedBreaches, named?_eq_some_iff]
  constructor
  · rintro ⟨debit, credit, hdebit, hcredit, currency, ⟨hcurrency, hne⟩, hdiffer, rfl⟩
    exact .instructedHolding hdebit hcredit hcurrency hne hdiffer
  · intro hbreaks
    cases hbreaks with
    | instructedHolding hdebit hcredit hcurrency hne hdiffer =>
        exact ⟨_, _, hdebit, hcredit, _, ⟨hcurrency, hne⟩, hdiffer, rfl⟩

/-- The rule on the amount reports a balance that does not cover it. -/
theorem mem_report_coveredAmount :
    breach ∈ Rule.coveredAmount.report accounts reading ↔
      Rule.Breaks accounts reading .coveredAmount breach := by
  simp only [Rule.report, mem_onBoth, mem_fundsBreaches]
  constructor
  · rintro ⟨debit, credit, hdebit, hcredit, amount, hamount, hlt, rfl⟩
    exact .coveredAmount hdebit hcredit hamount hlt
  · intro hbreaks
    cases hbreaks with
    | coveredAmount hdebit hcredit hamount hlt =>
        exact ⟨_, _, hdebit, hcredit, _, hamount, hlt, rfl⟩

/-- A rule reports what it is broken by. -/
theorem mem_report_iff {rule : Rule} :
    breach ∈ rule.report accounts reading ↔ rule.Breaks accounts reading breach := by
  cases rule with
  | wellFormedId side => exact mem_report_wellFormedId
  | differentIds => exact mem_report_differentIds
  | supportedCurrency => exact mem_report_supportedCurrency
  | knownAccount side => exact mem_report_knownAccount
  | sameHolding => exact mem_report_sameHolding
  | instructedHolding => exact mem_report_instructedHolding
  | coveredAmount => exact mem_report_coveredAmount

/-! ## Each rule once -/

/-- A rule reports at most one breach. -/
theorem length_reportIf_le (broken : Prop) [Decidable broken] (breach : Breach) :
    (reportIf broken breach).length ≤ 1 := by
  by_cases hbroken : broken <;> simp [reportIf, hbroken]

/-- So does a rule on a part that may be missing. -/
theorem length_reportOn_le {α : Type} (part : Option α) {check : α → List Breach}
    (hcheck : ∀ a, (check a).length ≤ 1) : (reportOn part check).length ≤ 1 := by
  cases part with
  | none => exact Nat.zero_le 1
  | some a => exact hcheck a

/-- So does a rule on both accounts. -/
theorem length_onBoth_le {check : Account → Account → List Breach}
    (hcheck : ∀ debit credit, (check debit credit).length ≤ 1) :
    (onBoth accounts reading check).length ≤ 1 := by
  unfold onBoth
  split
  · exact hcheck _ _
  · exact Nat.zero_le 1

/-- Every rule reports at most one breach. -/
theorem length_report_le (rule : Rule) : (rule.report accounts reading).length ≤ 1 := by
  cases rule with
  | wellFormedId side => exact length_reportOn_le _ fun _ => length_reportIf_le _ _
  | differentIds => exact length_reportIf_le _ _
  | supportedCurrency => exact length_reportOn_le _ fun _ => length_reportIf_le _ _
  | knownAccount side => exact length_reportOn_le _ fun _ => length_reportIf_le _ _
  | sameHolding => exact length_onBoth_le fun _ _ => length_reportIf_le _ _
  | instructedHolding =>
      exact length_onBoth_le fun _ _ => length_reportOn_le _ fun _ => length_reportIf_le _ _
  | coveredAmount =>
      exact length_onBoth_le fun _ _ => length_reportOn_le _ fun _ => length_reportIf_le _ _

/-- The rules that concern both accounts are the last three. -/
theorem pairBreaches_find? (accounts : List Account) (reading : Reading) :
    pairBreaches reading (Account.find? accounts reading.debitId)
        (Account.find? accounts reading.creditId) =
      Rule.sameHolding.report accounts reading ++ Rule.instructedHolding.report accounts reading ++
        Rule.coveredAmount.report accounts reading := by
  unfold Rule.report onBoth
  cases Account.find? accounts reading.debitId with
  | none => rfl
  | some debit => cases Account.find? accounts reading.creditId <;> rfl

/-- The breaches of a reading are those of its wording, then those of the rules in their order. -/
theorem breaches_examine (accounts : List Account) (reading : Reading) :
    (examine accounts reading).breaches =
      reading.breaches ++ Rule.all.flatMap (Rule.report accounts reading) := by
  simp only [examine, ruleBreaches, generalBreaches, pairBreaches_find?, Rule.all, List.flatMap_cons,
    List.flatMap_nil, List.append_nil, List.append_assoc]
  rfl

/-- The broken rules of a reading, in their order, each with the breach that is reported. -/
def brokenRules (accounts : List Account) (reading : Reading) : List (Rule × Breach) :=
  Rule.all.flatMap fun rule => (rule.report accounts reading).map (rule, ·)

/-- A rule is among the broken ones, with a breach, exactly when that breaks it. -/
theorem mem_brokenRules {rule : Rule} :
    (rule, breach) ∈ brokenRules accounts reading ↔ rule.Breaks accounts reading breach := by
  rw [← mem_report_iff, brokenRules, List.mem_flatMap]
  constructor
  · rintro ⟨other, -, hmem⟩
    obtain ⟨reported, hreported, hsame⟩ := List.mem_map.1 hmem
    cases hsame
    exact hreported
  · intro hreported
    exact ⟨rule, rule.mem_all, List.mem_map.2 ⟨breach, hreported, rfl⟩⟩

/-- The broken rules are some of all rules, in the same order. -/
theorem brokenRules_sublist (accounts : List Account) (reading : Reading) :
    ((brokenRules accounts reading).map Prod.fst).Sublist Rule.all := by
  -- In the list of all rules each one is replaced by itself or by nothing.
  have hone : ∀ rule ∈ Rule.all,
      ((rule.report accounts reading).map fun _ => rule).Sublist [rule] := by
    intro rule _
    rw [List.map_const']
    exact (List.replicate_sublist_replicate rule).2 (length_report_le rule)
  have hall := List.Sublist.flatMap_right Rule.all hone
  rw [List.flatMap_singleton'] at hall
  simpa only [brokenRules, List.map_flatMap, List.map_map, Function.comp_def] using hall

/-- The breaches of the broken rules are reported behind those of the wording. -/
theorem breaches_examine_eq_append (accounts : List Account) (reading : Reading) :
    (examine accounts reading).breaches =
      reading.breaches ++ (brokenRules accounts reading).map Prod.snd := by
  rw [breaches_examine, brokenRules, List.map_flatMap]
  simp only [List.map_map, Function.comp_def, List.map_id']

/-- A figure that does not fit is the balance of the first account with the debited id, which does not
cover the amount, or the amount. -/
theorem not_figuresFit_iff_isFirstWith :
    ¬ FiguresFit accounts reading ↔
      ∃ (debit credit : Account) (amount : Int), debit.IsFirstWith accounts reading.debitId ∧
        credit.IsFirstWith accounts reading.creditId ∧ reading.amount = some amount ∧
        debit.balance < amount ∧
        ¬ (Numeral.IsShort debit.balance.natAbs ∧ Numeral.IsShort amount.natAbs) := by
  simp only [not_figuresFit_iff, ← Account.find?_eq_some_iff]
  constructor
  · rintro ⟨debit, credit, amount, ⟨hdebit, hcredit, hamount, hlt⟩, hlong⟩
    exact ⟨debit, credit, amount, hdebit, hcredit, hamount, hlt, hlong⟩
  · rintro ⟨debit, credit, amount, hdebit, hcredit, hamount, hlt, hlong⟩
    exact ⟨debit, credit, amount, ⟨hdebit, hcredit, hamount, hlt⟩, hlong⟩

/-- An account with little on it, another one with its id, and one with a debt that no message can
state. -/
def uncoveredAccounts : List Account :=
  [⟨"a", 10, "usd"⟩, ⟨"b", 0, "USD"⟩, ⟨"a", 500, "GBP"⟩,
    ⟨"c", -(10 ^ Numeral.digitLimit : Nat), "USD"⟩]

/-- A charge on one of these accounts, in a currency that is not supported. -/
def chargeOn (id : String) : Reading :=
  { amount := some 30, currency := some "EUR", debitId := some id, creditId := some "b" }

/-- Of a reading without any part only one rule is broken: two missing ids are the same. -/
example (accounts : List Account) : inspect accounts {} = .ok ⟨[.sameAccount], none, none⟩ := rfl

end FundsTransfer
