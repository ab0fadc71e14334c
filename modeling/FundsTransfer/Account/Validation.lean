import FundsTransfer.Account.Basic
import FundsTransfer.Complaint
import FundsTransfer.Numeral.Binary64
import FundsTransfer.Numeral.Entry

/-!
# Accounts from JSON

An account is an object with the members `id`, `balance` and `currency`; others are passed over.
Which values pass for a text or an integer, and what is said of a list or an object of which a part is
bad, is a matter of the validation, which this module takes as given: an account is described by its
members, and the validation checks values against such a description.  In the standard validation the
balance may be written in any way that denotes an integer.

Main definitions:

- `Fields`: a description of a record by its members.
- `Validation`: the checks of texts, integers, lists and objects.
- `Validation.account`: the check of an account.
- `Validation.eachAccount`: the accounts of a list, or the complaints about the first bad one.
- `Validation.standard`: all complaints about a value, in the order of its parts.
- `Account.check`, `Account.checkEach`: the checks of accounts in the standard validation.

Main results:

- Theorem `check_obj_eq_ok_iff`: which objects pass for an account.
-/

namespace FundsTransfer

variable {Torn : Type}

/-! ## Descriptions of records -/

/-- The members that a record is made of: what makes it, and in their order the members that it is
made from, each with its check. -/
inductive Fields (Torn : Type) : Type → Type 1 where
  | of {α : Type} (make : α) : Fields Torn α
  | and {α β : Type} (fields : Fields Torn (α → β)) (name : String)
      (check : Value Torn → Checked α) : Fields Torn β

/-- The record that is made of members, or the complaints about all of them. -/
def Fields.verdict (members : List (String × Value Torn)) :
    {α : Type} → Fields Torn α → Checked α
  | _, of make => .ok make
  | _, and fields name check =>
    Checked.map₂ (fun make part => make part) (fields.verdict members)
      (Checked.field members name check)

/-- How values are checked. -/
structure Validation (Torn : Type) where
  text : Value Torn → Checked String
  integer : Value Torn → Checked Int
  /-- Checks the items of a list. -/
  list {α : Type} (check : Value Torn → Checked α) : Value Torn → Checked (List α)
  /-- Checks the members of an object; `otherwise` is the defect of a value that is none. -/
  model {α : Type} (otherwise : Defect) (fields : Fields Torn α) : Value Torn → Checked α

namespace Validation

variable (v : Validation Torn)

/-- The members of an account. -/
def accountFields : Fields Torn Account :=
  (((Fields.of Account.mk).and "id" v.text).and "balance" v.integer).and "currency" v.text

/-- Checks an account; `otherwise` is the defect of a value that is no object. -/
def account (otherwise : Defect) (value : Value Torn) : Checked Account :=
  v.model otherwise v.accountFields value

/-- Checks accounts one after another and stops at the first bad one. -/
def eachAccount : List (Value Torn) → Checked (List Account)
  | [] => .ok []
  | value :: rest => do
    let account ← v.account .notAccount value
    let accounts ← eachAccount rest
    return account :: accounts

/-- Accounts pass exactly when the first and all others pass. -/
theorem eachAccount_cons_eq_ok_iff {v : Validation Torn} {value : Value Torn}
    {rest : List (Value Torn)} {accounts : List Account} :
    v.eachAccount (value :: rest) = .ok accounts ↔
      ∃ account later, v.account .notAccount value = .ok account ∧
        v.eachAccount rest = .ok later ∧ accounts = account :: later := by
  cases hv : v.account .notAccount value <;> cases hr : v.eachAccount rest <;>
    simp [eachAccount, hv, hr, bind, Except.bind, pure, Except.pure, eq_comm]

end Validation

/-! ## The standard validation -/

/-- A text has to be written as a string. -/
def checkText : Value Torn → Checked String
  | .str text => .ok text
  | .torn _ => Checked.fail .tornText
  | _ => Checked.fail .notText

/-- Nothing but a string passes for a text. -/
theorem checkText_eq_ok_iff {value : Value Torn} {text : String} :
    checkText value = .ok text ↔ value = .str text := by
  cases value <;> simp [checkText, Checked.fail]

/-- A number with a point that is as large as this is no integer. -/
def integerBound : Nat := Nat.pow 2 63

/-- A number with a point denotes an integer if it is whole and below `integerBound`. -/
def checkDecimal (negative : Bool) (digits : Nat) (exponent : Int) : Checked Int :=
  match Numeral.whole? digits exponent with
  | none => Checked.fail .fractionalInteger
  | some n =>
    if n < integerBound then .ok (if negative then -(n : Int) else n)
    else Checked.fail .oversizedInteger

/-- An integer may be entered as a text. -/
def checkEntered (text : String) : Checked Int :=
  match Numeral.entered text with
  | .ok n => .ok n
  | .error .unreadable => Checked.fail .unreadableInteger
  | .error .tooLong => Checked.fail .oversizedInteger

/-- An integer may be written as a number without a fraction, as a truth value or as a string. -/
def checkInteger : Value Torn → Checked Int
  | .int n => .ok n
  | .bool b => .ok (if b then 1 else 0)
  | .decimal negative digits exponent => checkDecimal negative digits exponent
  | .infinite _ => Checked.fail .notFinite
  | .notANumber => Checked.fail .notFinite
  | .str text => checkEntered text
  | .torn _ => Checked.fail .tornText
  | _ => Checked.fail .notInteger

/-- Checks the items of a list, with the complaints about all of them. -/
def checkList {α : Type} (check : Value Torn → Checked α) : Value Torn → Checked (List α)
  | .arr items => Checked.all 0 (items.map check)
  | _ => Checked.fail .notList

/-- Checks the members of an object, with the complaints about all of them. -/
def checkModel {α : Type} (otherwise : Defect) (fields : Fields Torn α) : Value Torn → Checked α
  | .obj members => fields.verdict members
  | _ => Checked.fail otherwise

/-- The validation that collects all complaints about a value, in the order of its parts. -/
def Validation.standard : Validation Torn where
  text := checkText
  integer := checkInteger
  list := checkList
  model := checkModel

namespace Account

/-- Checks an account in the standard validation. -/
def check (otherwise : Defect) (value : Value Torn) : Checked Account :=
  Validation.standard.account otherwise value

/-- Checks accounts one after another in the standard validation. -/
def checkEach (values : List (Value Torn)) : Checked (List Account) :=
  Validation.standard.eachAccount values

/-- An account as JSON. -/
def toJson (account : Account) : Json :=
  .obj [("id", .str account.id), ("balance", .int account.balance),
    ("currency", .str account.currency)]

/-- An object passes for an account exactly when its three members are there and pass. -/
theorem check_obj_eq_ok_iff {otherwise : Defect} {members : List (String × Value Torn)}
    {account : Account} :
    check otherwise (.obj members) = .ok account ↔
      Value.lookup "id" members = some (.str account.id) ∧
      (∃ value, Value.lookup "balance" members = some value ∧
        checkInteger value = .ok account.balance) ∧
      Value.lookup "currency" members = some (.str account.currency) := by
  obtain ⟨id, balance, currency⟩ := account
  simp only [check, Validation.account, Validation.standard, checkModel, Validation.accountFields,
    Fields.verdict, Checked.map₂_eq_ok_iff, Checked.field_eq_ok_iff, checkText_eq_ok_iff,
    Except.ok.injEq]
  constructor
  · rintro ⟨_, _, ⟨_, _, ⟨_, _, rfl, ⟨_, hid, rfl⟩, rfl⟩, ⟨v, hv, hb⟩, rfl⟩, ⟨_, hc, rfl⟩, h⟩
    obtain ⟨rfl, rfl, rfl⟩ := Account.mk.inj h
    exact ⟨hid, ⟨v, hv, hb⟩, hc⟩
  · rintro ⟨hid, hb, hc⟩
    exact ⟨_, _, ⟨_, _, ⟨_, _, rfl, ⟨_, hid, rfl⟩, rfl⟩, hb, rfl⟩, ⟨_, hc, rfl⟩, rfl⟩

/-- A value that is no object does not pass for an account. -/
theorem exists_members_of_check_eq_ok {otherwise : Defect} {value : Value Torn} {account : Account}
    (h : check otherwise value = .ok account) : ∃ members, value = .obj members := by
  cases value with
  | obj members => exact ⟨members, rfl⟩
  | _ => cases h

end Account

end FundsTransfer
