/-!
# Breaches

What may be wrong with an instruction, in its wording or against the accounts, and which of several
breaches counts.

Main definitions:

- `Code`: the kinds of breaches, with their four-character text and their precedence.
- `Breach`: a breach and the message about it.
- `primary?`: the gravest of several breaches, the earliest one among equals.
-/

namespace FundsTransfer

/-- The kinds of breaches. -/
inductive Code where
  | malformed
  | keywordMissing
  | keywordMisplaced
  | badAmount
  | badAccountId
  | badDate
  | unknownAccount
  | unsupportedCurrency
  | currencyMismatch
  | sameAccount
  | insufficientFunds
  /-- A kind that is not in the catalogue, kept as it was given. -/
  | other (text : String)
deriving DecidableEq, Repr

namespace Code

/-- The text by which a kind of breach is known. -/
def text : Code → String
  | malformed => "SY03"
  | keywordMissing => "SY01"
  | keywordMisplaced => "SY02"
  | badAmount => "AM01"
  | badAccountId => "AC04"
  | badDate => "DT01"
  | unknownAccount => "AC03"
  | unsupportedCurrency => "CU02"
  | currencyMismatch => "CU01"
  | sameAccount => "AC02"
  | insufficientFunds => "AC01"
  | other text => text

/-- The catalogue of breaches, the gravest first. -/
def catalogue : List Code :=
  [malformed, keywordMissing, keywordMisplaced, badAmount, badAccountId, badDate, unknownAccount,
    unsupportedCurrency, currencyMismatch, sameAccount, insufficientFunds]

/-- The kind of breach that a text stands for. -/
def ofText (text : String) : Code :=
  (catalogue.find? (·.text == text)).getD (other text)

/-- The precedence of a kind of breach: its place in the catalogue, counted from 1, so that the
gravest kind has the least.  All kinds outside the catalogue share the place after the last. -/
def precedence (code : Code) : Nat :=
  catalogue.idxOf code + 1

/-- A breach of the wording so grave that nothing of the instruction can be relied on. -/
def isUnreadable : Code → Bool
  | malformed => true
  | keywordMissing => true
  | keywordMisplaced => true
  | _ => false

/-- A kind of breach that the catalogue knows. -/
def isKnown : Code → Bool
  | other _ => false
  | _ => true

/-- The text of a kind of breach is known to stand for it. -/
theorem ofText_text {code : Code} (h : code ∈ catalogue) : ofText code.text = code := by
  simp only [catalogue, List.mem_cons, List.not_mem_nil, or_false] at h
  rcases h with rfl | rfl | rfl | rfl | rfl | rfl | rfl | rfl | rfl | rfl | rfl <;> decide

/-- Every kind of breach in the catalogue is known. -/
theorem isKnown_of_mem {code : Code} (h : code ∈ catalogue) : code.isKnown = true := by
  cases code <;> simp_all [catalogue, isKnown]

/-- Every kind of breach that makes an instruction unreadable is in the catalogue. -/
theorem mem_catalogue_of_isUnreadable {code : Code} (h : code.isUnreadable = true) :
    code ∈ catalogue := by
  cases code <;> simp_all [catalogue, isUnreadable]

end Code

/-- A breach and the message about it. -/
structure Breach where
  code : Code
  message : String
deriving DecidableEq, Repr

/-! ## Messages -/

namespace Message

/-- The message about an id that no account has. -/
def unknownAccount (id : String) : String :=
  "Account not found: " ++ id

/-- The message about an id that no account can have. -/
def badAccountId (id : String) : String :=
  "Invalid account ID format: " ++ id

/-- The message about a currency that the debited account does not hold. -/
def foreignCurrency (instructed held : String) : String :=
  "Currency mismatch: instruction says " ++ instructed ++ " but account has " ++ held

/-- The wording of the message about a balance that does not cover an amount.  It can only be written
if neither of the two has too many digits, as `Breach.insufficientFunds?` makes sure. -/
def insufficientFunds (balance : Int) (currency : String) (amount : Int) : String :=
  "Insufficient funds in debit account: has " ++ toString balance ++ " " ++ currency ++
    ", needs " ++ toString amount

end Message

namespace Breach

/-- A keyword of the grammar does not stand where it has to. -/
def keywordMissing : Breach :=
  ⟨.keywordMissing, "Missing required keyword"⟩

/-- A keyword does not agree with the direction of the instruction. -/
def keywordMisplaced : Breach :=
  ⟨.keywordMisplaced, "Invalid keyword order"⟩

/-- The instruction breaks off early or goes on too long. -/
def malformed : Breach :=
  ⟨.malformed, "Malformed instruction: unable to parse keywords"⟩

/-- The amount is no positive integer. -/
def badAmount : Breach :=
  ⟨.badAmount, "Amount must be a positive integer"⟩

/-- The date is not written as a date. -/
def badDate : Breach :=
  ⟨.badDate, "Invalid date format. Must be YYYY-MM-DD"⟩

/-- An account id holds a character that no id has. -/
def badAccountId (id : String) : Breach :=
  ⟨.badAccountId, Message.badAccountId id⟩

/-- Both sides of the transfer name one account. -/
def sameAccount : Breach :=
  ⟨.sameAccount, "Debit and credit accounts cannot be the same"⟩

/-- The currency is not one that transfers are made in. -/
def unsupportedCurrency : Breach :=
  ⟨.unsupportedCurrency, "Unsupported currency. Only NGN, USD, GBP, and GHS are supported"⟩

/-- No account has the id. -/
def unknownAccount (id : String) : Breach :=
  ⟨.unknownAccount, Message.unknownAccount id⟩

/-- The two accounts hold different currencies. -/
def accountCurrencies : Breach :=
  ⟨.currencyMismatch, "Account currency mismatch"⟩

/-- The debited account holds another currency than the instruction names. -/
def foreignCurrency (instructed held : String) : Breach :=
  ⟨.currencyMismatch, Message.foreignCurrency instructed held⟩

/-- The debited account does not cover the amount. -/
def insufficientFunds (balance : Int) (currency : String) (amount : Int) : Breach :=
  ⟨.insufficientFunds, Message.insufficientFunds balance currency amount⟩

/-- The precedence of a breach is that of its kind. -/
def precedence (breach : Breach) : Nat :=
  breach.code.precedence

end Breach

/-! ## The breach that counts -/

/-- The graver of two breaches; the first one if they are equally grave. -/
def graver (first second : Breach) : Breach :=
  if second.precedence < first.precedence then second else first

/-- The breach that counts: the gravest one, and the earliest among equals. -/
def primary? : List Breach → Option Breach
  | [] => none
  | first :: rest =>
    match primary? rest with
    | some later => some (graver first later)
    | none => some first

/-- The place of the breach that counts: no earlier breach is as grave. -/
def primaryIndex? (breaches : List Breach) : Option Nat :=
  (primary? breaches).bind fun breach =>
    breaches.findIdx? (·.precedence == breach.precedence)

@[simp]
theorem primary?_nil : primary? [] = none := rfl

@[simp]
theorem primary?_singleton (breach : Breach) : primary? [breach] = some breach := rfl

/-- Some breach counts unless there is none. -/
theorem primary?_eq_none_iff {breaches : List Breach} :
    primary? breaches = none ↔ breaches = [] := by
  cases breaches with
  | nil => simp
  | cons first rest => cases h : primary? rest <;> simp [primary?, h]

/-- The graver of two breaches is one of them. -/
theorem graver_eq_or_eq (first second : Breach) :
    graver first second = first ∨ graver first second = second := by
  unfold graver
  split <;> simp

/-- The graver of two breaches has the lesser precedence. -/
theorem precedence_graver (first second : Breach) :
    (graver first second).precedence = min first.precedence second.precedence := by
  unfold graver
  split <;> omega

end FundsTransfer
