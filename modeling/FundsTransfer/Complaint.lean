import FundsTransfer.Json.Basic

/-!
# Complaints about values

A value from outside is checked part by part, and all that is wrong with it is reported at once,
each complaint with the place of the part.

Main definitions:

- `Defect`: what may be wrong with a value, with its kind and its wording.
- `Complaint`: a defect and the path to the value that has it.
- `Complaint.subject`: the value that a complaint is about.
- `Complaint.toJson`, `Complaint.toDetail`: a complaint alone and with the value that it is about.
- `Checked`: a value that has passed its checks, or the complaints about it.
- `Checked.map₂`, `Checked.all`: checks of several parts, where the complaints are collected.
-/

namespace FundsTransfer

/-- What may be wrong with a value. -/
inductive Defect where
  | missing
  | notText
  /-- A string holds half of a pair that stands for a character. -/
  | tornText
  | notInteger
  | fractionalInteger
  | unreadableInteger
  /-- A text has too many digits for an integer, or a number with a point is too large for one. -/
  | oversizedInteger
  | notFinite
  | notList
  /-- A lone account is no object. -/
  | notAccount
  /-- A request, or an account in a request, is no object. -/
  | notObject
  | brokenJson
  | unknownDirection
deriving DecidableEq, Repr

/-- The kind of a defect, as one word. -/
def Defect.kind : Defect → String
  | missing => "missing"
  | notText => "string_type"
  | tornText => "string_unicode"
  | notInteger => "int_type"
  | fractionalInteger => "int_from_float"
  | unreadableInteger => "int_parsing"
  | oversizedInteger => "int_parsing_size"
  | notFinite => "finite_number"
  | notList => "list_type"
  | notAccount => "model_type"
  | notObject => "model_attributes_type"
  | brokenJson => "json_invalid"
  | unknownDirection => "literal_error"

/-- The wording of a defect. -/
def Defect.message : Defect → String
  | missing => "Field required"
  | notText => "Input should be a valid string"
  | tornText => "Input should be a valid string, unable to parse raw data as a unicode string"
  | notInteger => "Input should be a valid integer"
  | fractionalInteger =>
    "Input should be a valid integer, got a number with a fractional part"
  | unreadableInteger =>
    "Input should be a valid integer, unable to parse string as an integer"
  | oversizedInteger => "Unable to parse input string as an integer, exceeded maximum size"
  | notFinite => "Input should be a finite number"
  | notList => "Input should be a valid list"
  | notAccount => "Input should be a valid dictionary or instance of Account"
  | notObject => "Input should be a valid dictionary or object to extract fields from"
  | brokenJson => "JSON decode error"
  | unknownDirection => "Input should be 'DEBIT' or 'CREDIT'"

/-- A step on the way to a part of a value. -/
inductive Key where
  | name (name : String)
  | index (index : Nat)
deriving DecidableEq, Repr

/-- A defect and the path to the part that has it. -/
structure Complaint where
  path : List Key
  defect : Defect
deriving DecidableEq, Repr

/-- The complaint as one about a larger value, in which the path starts with `key`. -/
def Complaint.under (key : Key) (complaint : Complaint) : Complaint :=
  { complaint with path := key :: complaint.path }

section Values

variable {Torn : Type}

/-- A key as JSON. -/
def Key.toJson : Key → Value Torn
  | name text => .str text
  | index i => .int i

/-- What a complaint says by itself: the kind of defect, its place and its wording. -/
def Complaint.members (complaint : Complaint) : List (String × Value Torn) :=
  [("type", .str complaint.defect.kind),
    ("loc", .arr (complaint.path.map Key.toJson)),
    ("msg", .str complaint.defect.message)]

/-- A complaint as JSON. -/
def Complaint.toJson (complaint : Complaint) : Json :=
  .obj complaint.members

/-- A complaint as JSON, with the value that it is about. -/
def Complaint.toDetail (complaint : Complaint) (input : Value Torn) : Value Torn :=
  .obj (complaint.members ++ [("input", input)])

/-- The part of a value to which a key leads. -/
def Key.select? : Key → Value Torn → Option (Value Torn)
  | name text, .obj members => Value.lookup text members
  | index i, .arr items => items[i]?
  | _, _ => none

/-- The last value on the way along a path; the way ends where no part answers to the next key. -/
def reach : List Key → Value Torn → Value Torn
  | [], value => value
  | key :: path, value =>
    match key.select? value with
    | some part => reach path part
    | none => value

/-- The part of a value that a complaint is about: the one at the end of its path, or, if that is
missing, the one that lacks it. -/
def Complaint.subject (complaint : Complaint) (value : Value Torn) : Value Torn :=
  reach complaint.path value

end Values

/-- A value that has passed its checks, or all complaints about it. -/
abbrev Checked (α : Type) := Except (List Complaint) α

namespace Checked

/-- The verdict on a value with one defect as a whole. -/
def fail {α : Type} (defect : Defect) : Checked α :=
  .error [⟨[], defect⟩]

/-- The complaints about a value. -/
def complaints {α : Type} : Checked α → List Complaint
  | .ok _ => []
  | .error complaints => complaints

/-- The same verdict on a part of a larger value. -/
def under {α : Type} (key : Key) : Checked α → Checked α
  | .ok value => .ok value
  | .error complaints => .error (complaints.map (·.under key))

/-- Joins the verdicts on two parts, with the complaints about both. -/
def map₂ {α β γ : Type} (f : α → β → γ) : Checked α → Checked β → Checked γ
  | .ok a, .ok b => .ok (f a b)
  | a, b => .error (a.complaints ++ b.complaints)

/-- Joins the verdicts on the items of a list, numbered from `start`. -/
def all {α : Type} (start : Nat) : List (Checked α) → Checked (List α)
  | [] => .ok []
  | item :: rest => map₂ List.cons (item.under (.index start)) (all (start + 1) rest)

/-- Checks the named member of an object. -/
def field {Torn α : Type} (members : List (String × Value Torn)) (name : String)
    (check : Value Torn → Checked α) : Checked α :=
  under (.name name) <|
    match Value.lookup name members with
    | some value => check value
    | none => fail .missing

@[simp]
theorem complaints_ok {α : Type} (a : α) : complaints (.ok a : Checked α) = [] := rfl

@[simp]
theorem complaints_error {α : Type} (cs : List Complaint) :
    complaints (.error cs : Checked α) = cs := rfl

/-- The complaints about a part are the same with a longer path. -/
theorem complaints_under {α : Type} (key : Key) (a : Checked α) :
    (a.under key).complaints = a.complaints.map (·.under key) := by
  cases a <;> rfl

/-- Nothing about either of two parts is lost. -/
theorem complaints_map₂ {α β γ : Type} (f : α → β → γ) (a : Checked α) (b : Checked β) :
    (map₂ f a b).complaints = a.complaints ++ b.complaints := by
  cases a <;> cases b <;> simp [map₂]

/-- Two parts pass together exactly when each of them passes. -/
theorem map₂_eq_ok_iff {α β γ : Type} {f : α → β → γ} {a : Checked α} {b : Checked β} {c : γ} :
    map₂ f a b = .ok c ↔ ∃ x y, a = .ok x ∧ b = .ok y ∧ f x y = c := by
  cases a <;> cases b <;> simp [map₂]

/-- A member passes exactly when it is there and its value passes. -/
theorem field_eq_ok_iff {Torn α : Type} {members : List (String × Value Torn)} {name : String}
    {check : Value Torn → Checked α} {a : α} :
    field members name check = .ok a ↔
      ∃ value, Value.lookup name members = some value ∧ check value = .ok a := by
  cases h : Value.lookup name members with
  | none => simp [field, h, fail, under]
  | some value => cases hv : check value <;> simp [field, h, hv, under]

end Checked

end FundsTransfer
