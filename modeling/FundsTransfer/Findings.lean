import FundsTransfer.Account.Basic
import FundsTransfer.Fault
import FundsTransfer.Instruction.Reading
import FundsTransfer.Text.Uppercase

/-!
# Findings about an instruction

Every rule is looked at on its own, so that all breaches are reported: those of the wording first,
then those against the accounts.  A rule that needs a part which is missing is kept.  The message
about an amount that is not covered states two figures, and if one of them has too many digits to be
written there are no findings at all.

The breaches are defined twice.  A definition that may fail writes the messages as it goes, and one that
cannot fail takes for granted that they can be written; they are shown to differ in this only.

Main definitions:

- `supportedCurrencies`: the currencies that transfers are made in.
- `ruleBreaches`: the breaches against the accounts, rule by rule.
- `Findings`: all breaches and the accounts that the instruction names.
- `examine`: what is to be found out about a reading.
- `Breach.insufficientFunds?`: the one breach whose message may not be written.
- `inspect`: the findings about a reading, or the fault that keeps them from being written down.
- `FiguresFit`: the figures in the messages can be written.

Main results:

- Theorem `mem_reportIf`: a rule reports its breach exactly when it is broken.
- Theorems `inspect_of_figuresFit`, `inspect_of_not_figuresFit`: both ends of an inspection.
-/

namespace FundsTransfer

/-- The currencies that transfers are made in. -/
def supportedCurrencies : List String :=
  ["NGN", "USD", "GBP", "GHS"]

/-- The currencies, spelled out. -/
theorem mem_supportedCurrencies_iff {currency : String} :
    currency ∈ supportedCurrencies ↔
      currency = "NGN" ∨ currency = "USD" ∨ currency = "GBP" ∨ currency = "GHS" := by
  simp [supportedCurrencies]

/-- Reports a breach if a rule is broken. -/
def reportIf (broken : Prop) [Decidable broken] (breach : Breach) : List Breach :=
  if broken then [breach] else []

/-- Reports what is wrong with a part; a rule is kept if the part that it needs is missing. -/
def reportOn {α : Type} (part : Option α) (check : α → List Breach) : List Breach :=
  match part with
  | some a => check a
  | none => []

/-- The text that is named: an empty text names nothing, like an absent one. -/
def named? (text : Option String) : Option String :=
  text.filter (· ≠ "")

/-- Breaches of the rule that a named id consists of characters of ids. -/
def idBreaches (id : Option String) : List Breach :=
  reportOn (named? id) fun id => reportIf (isWellFormedId id = false) (.badAccountId id)

/-- Breaches of the rule that the two ids differ; two absent ids count as the same. -/
def sameAccountBreaches (debitId creditId : Option String) : List Breach :=
  reportIf (debitId = creditId) .sameAccount

/-- Breaches of the rule that a named currency is supported. -/
def currencyBreaches (currency : Option String) : List Breach :=
  reportOn (named? currency) fun currency =>
    reportIf (currency ∉ supportedCurrencies) .unsupportedCurrency

/-- Breaches of the rule that a named id is the id of an account. -/
def lookupBreaches (id : Option String) (account : Option Account) : List Breach :=
  reportOn (named? id) fun id => reportIf (account = none) (.unknownAccount id)

/-- Breaches of the rule that both accounts hold one currency, letter case included. -/
def holdingBreaches (debit credit : Account) : List Breach :=
  reportIf (debit.currency ≠ credit.currency) .accountCurrencies

/-- Breaches of the rule that a named currency is that of the debited account, in upper case. -/
def instructedBreaches (currency : Option String) (debit : Account) : List Breach :=
  reportOn (named? currency) fun currency =>
    reportIf (Text.upper debit.currency ≠ currency)
      (.foreignCurrency currency (Text.upper debit.currency))

/-- Breaches of the rule that the debited account covers the amount. -/
def fundsBreaches (amount : Option Int) (debit : Account) : List Breach :=
  reportOn amount fun amount =>
    reportIf (debit.balance < amount) (.insufficientFunds debit.balance debit.currency amount)

/-- Breaches of the rules that concern both accounts, which apply only when both are found. -/
def pairBreaches (reading : Reading) : Option Account → Option Account → List Breach
  | some debit, some credit =>
    holdingBreaches debit credit ++ instructedBreaches reading.currency debit ++
      fundsBreaches reading.amount debit
  | _, _ => []

/-- Breaches of the rules that apply whichever accounts are found. -/
def generalBreaches (reading : Reading) (debit credit : Option Account) : List Breach :=
  idBreaches reading.debitId ++ idBreaches reading.creditId ++
    sameAccountBreaches reading.debitId reading.creditId ++
    currencyBreaches reading.currency ++
    lookupBreaches reading.debitId debit ++ lookupBreaches reading.creditId credit

/-- The breaches of the rules, in the order of the rules. -/
def ruleBreaches (reading : Reading) (debit credit : Option Account) : List Breach :=
  generalBreaches reading debit credit ++ pairBreaches reading debit credit

/-- What is found out about an instruction: all breaches, and the accounts that it names. -/
structure Findings where
  breaches : List Breach
  debit : Option Account
  credit : Option Account
deriving DecidableEq, Repr

/-- What is to be found out about a reading among the accounts on offer. -/
def examine (accounts : List Account) (reading : Reading) : Findings :=
  let debit := Account.find? accounts reading.debitId
  let credit := Account.find? accounts reading.creditId
  ⟨reading.breaches ++ ruleBreaches reading debit credit, debit, credit⟩

/-! ## Messages that have to be written -/

/-- The breach of an amount that the debited account does not cover.  Its message can only be written
if neither of the figures has too many digits. -/
def Breach.insufficientFunds? (debit : Account) (amount : Int) : Except Fault Breach :=
  if Numeral.IsShort debit.balance.natAbs ∧ Numeral.IsShort amount.natAbs then
    .ok (.insufficientFunds debit.balance debit.currency amount)
  else .error .unwritableInteger

/-- Looks at the rule that the debited account covers the amount. -/
def inspectFunds (amount : Option Int) (debit : Account) : Except Fault (List Breach) :=
  match amount with
  | some amount =>
    if debit.balance < amount then (Breach.insufficientFunds? debit amount).map fun b => [b]
    else .ok []
  | none => .ok []

/-- Looks at the rules that concern both accounts. -/
def inspectPair (reading : Reading) :
    Option Account → Option Account → Except Fault (List Breach)
  | some debit, some credit =>
    (inspectFunds reading.amount debit).map fun funds =>
      holdingBreaches debit credit ++ instructedBreaches reading.currency debit ++ funds
  | _, _ => .ok []

/-- Examines a reading against the accounts on offer.  A message that cannot be written stops the
examination. -/
def inspect (accounts : List Account) (reading : Reading) : Except Fault Findings :=
  let debit := Account.find? accounts reading.debitId
  let credit := Account.find? accounts reading.creditId
  (inspectPair reading debit credit).map fun pair =>
    ⟨reading.breaches ++ (generalBreaches reading debit credit ++ pair), debit, credit⟩

/-- The figures that the message about an amount states if the debited account does not cover it. -/
def fundsFigures (amount : Option Int) (debit : Account) : List Int :=
  match amount with
  | some amount => if debit.balance < amount then [debit.balance, amount] else []
  | none => []

/-- The figures that the messages about a reading state. -/
def statedFigures (reading : Reading) : Option Account → Option Account → List Int
  | some debit, some _ => fundsFigures reading.amount debit
  | _, _ => []

/-- The figures that the messages about a reading state have few enough digits to be written. -/
def FiguresFit (accounts : List Account) (reading : Reading) : Prop :=
  ∀ n ∈ statedFigures reading (Account.find? accounts reading.debitId)
    (Account.find? accounts reading.creditId), Numeral.IsShort n.natAbs

instance (accounts : List Account) (reading : Reading) :
    Decidable (FiguresFit accounts reading) :=
  inferInstanceAs (Decidable (∀ n ∈ statedFigures reading
    (Account.find? accounts reading.debitId) (Account.find? accounts reading.creditId),
    Numeral.IsShort n.natAbs))

/-! ## Laws -/

@[simp]
theorem reportIf_false {inst : Decidable False} (breach : Breach) : reportIf False breach = [] := by
  simp [reportIf]

/-- A rule reports its breach exactly when it is broken. -/
theorem mem_reportIf {broken : Prop} [Decidable broken] {breach other : Breach} :
    other ∈ reportIf broken breach ↔ broken ∧ other = breach := by
  by_cases h : broken <;> simp [reportIf, h]

@[simp]
theorem reportOn_some {α : Type} (a : α) (check : α → List Breach) :
    reportOn (some a) check = check a := rfl

/-- What is reported of a part is reported of one that is there. -/
theorem mem_reportOn {α : Type} {part : Option α} {check : α → List Breach} {breach : Breach} :
    breach ∈ reportOn part check ↔ ∃ a, part = some a ∧ breach ∈ check a := by
  cases part <;> simp [reportOn]

/-- A rule reports nothing exactly when it is kept. -/
theorem reportIf_eq_nil_iff {broken : Prop} [Decidable broken] {breach : Breach} :
    reportIf broken breach = [] ↔ ¬ broken := by
  by_cases h : broken <;> simp [reportIf, h]

section Inspect

variable {accounts : List Account} {reading : Reading}

/-- The rule on the funds is looked at without a fault if its figures fit. -/
theorem inspectFunds_eq (amount : Option Int) (debit : Account) :
    inspectFunds amount debit =
      if ∀ n ∈ fundsFigures amount debit, Numeral.IsShort n.natAbs then
        .ok (fundsBreaches amount debit)
      else .error .unwritableInteger := by
  cases amount with
  | none => rfl
  | some amount =>
    by_cases hlt : debit.balance < amount
    · simp only [inspectFunds, hlt, if_true, Breach.insufficientFunds?, fundsFigures, fundsBreaches,
        reportOn, reportIf, List.forall_mem_cons, List.not_mem_nil, false_implies, implies_true,
        and_true]
      split <;> rfl
    · simp [inspectFunds, hlt, fundsFigures, fundsBreaches, reportOn, reportIf]

/-- The rules on both accounts are looked at without a fault if their figures fit. -/
theorem inspectPair_eq (reading : Reading) (debit credit : Option Account) :
    inspectPair reading debit credit =
      if ∀ n ∈ statedFigures reading debit credit, Numeral.IsShort n.natAbs then
        .ok (pairBreaches reading debit credit)
      else .error .unwritableInteger := by
  unfold inspectPair statedFigures pairBreaches
  split
  · rw [inspectFunds_eq]
    split <;> rfl
  · simp

/-- If the figures fit, all that is to be found out is found out. -/
theorem inspect_of_figuresFit (hfit : FiguresFit accounts reading) :
    inspect accounts reading = .ok (examine accounts reading) := by
  simp only [inspect, (inspectPair_eq _ _ _).trans (if_pos hfit)]
  rfl

/-- If a figure does not fit, nothing is found out. -/
theorem inspect_of_not_figuresFit (hunfit : ¬ FiguresFit accounts reading) :
    inspect accounts reading = .error .unwritableInteger := by
  simp only [inspect, (inspectPair_eq _ _ _).trans (if_neg hunfit)]
  rfl

end Inspect

end FundsTransfer
