import FundsTransfer.Json.Basic
import FundsTransfer.Numeral.Decimal
import FundsTransfer.Text.Code

/-!
# Writing JSON

A value is written on one line without spaces.  Quotes, backslashes and control characters are
escaped; all other characters stand for themselves.  Not every value can be written: a number has to
be finite, an integer may not be too long, a string has to be a text, and lists and objects may not be
nested too deeply.

Main definitions:

- `Value.quote`: a text as a JSON string.
- `Value.print`: a value as JSON text.
- `Value.printWithin?`: the same, unless an integer is too long.
- `Value.isWritable`: the values that can be written.

Main results:

- Theorems `isWritable_arr_iff`, `isWritable_obj_iff`: a value can be written if its parts can.
-/

namespace FundsTransfer.Value

/-- A character as it stands inside a JSON string. -/
def escapeChar (c : Char) : List Char :=
  if c == '"' then ['\\', '"']
  else if c == '\\' then ['\\', '\\']
  else if c.toNat < 0x20 then '\\' :: 'u' :: Text.hexDigits 4 c.toNat
  else [c]

/-- A text as a JSON string. -/
def quote (text : String) : String :=
  "\"" ++ String.ofList (text.toList.flatMap escapeChar) ++ "\""

/-- The items, divided by commas. -/
def commaSeparated (items : List String) : String :=
  String.intercalate "," items

/-- The text with a minus sign in front of it, if it stands for a negative number. -/
def signed (negative : Bool) (text : String) : String :=
  if negative then "-" ++ text else text

mutual

/-- A value as JSON text. -/
def print : Value Empty → String
  | null => "null"
  | bool true => "true"
  | bool false => "false"
  | int n => toString n
  | decimal negative digits exponent =>
    signed negative (toString digits ++ "e" ++ toString exponent)
  | infinite negative => signed negative "Infinity"
  | notANumber => "NaN"
  | str text => quote text
  | arr items => "[" ++ commaSeparated (printItems items) ++ "]"
  | obj members => "\x7b" ++ commaSeparated (printMembers members) ++ "\x7d"

/-- The texts of the items of a list. -/
def printItems : List (Value Empty) → List String
  | [] => []
  | item :: rest => print item :: printItems rest

/-- The texts of the members of an object. -/
def printMembers : List (String × Value Empty) → List String
  | [] => []
  | (name, value) :: rest => (quote name ++ ":" ++ print value) :: printMembers rest

end

/-! ## Values that can be written -/

section Writable

variable {Torn : Type}

/-- The integers in a value have at most the given number of digits. -/
def hasShortIntegers (limit : Nat) (value : Value Torn) : Bool :=
  let bound := Nat.pow 10 limit
  value.allScalars fun
    | int n => n.natAbs < bound
    | _ => true

/-- A value as JSON text, unless an integer in it has more digits than allowed. -/
def printWithin? (limit : Nat) (value : Value Empty) : Option String :=
  if value.hasShortIntegers limit then some value.print else none

/-- The strings in a value are texts. -/
def isWhole (value : Value Torn) : Bool :=
  value.allScalars fun
    | torn _ => false
    | _ => true

/-- A value can be written if at most `levels` lists and objects may be inside one another. -/
def isWritable (levels : Nat) (value : Value Torn) : Bool :=
  value.isNestedWithin levels && value.isFinite && value.hasShortIntegers Numeral.digitLimit &&
    value.isWhole

theorem isWritable_str (levels : Nat) (text : String) :
    (str text : Value Torn).isWritable levels = true := by
  cases levels <;> rfl

theorem isWritable_ofText? (levels : Nat) (text : Option String) :
    (ofText? text : Value Torn).isWritable levels = true := by
  cases text <;> cases levels <;> rfl

theorem isWritable_int_iff (levels : Nat) (n : Int) :
    (int n : Value Torn).isWritable levels = true ↔ n.natAbs < Nat.pow 10 Numeral.digitLimit := by
  have hnested : (int n : Value Torn).isNestedWithin levels = true := by
    cases levels <;> rfl
  have hshort (limit : Nat) : (int n : Value Torn).hasShortIntegers limit =
      decide (n.natAbs < Nat.pow 10 limit) := rfl
  have hfinite : (int n : Value Torn).isFinite = true := rfl
  have hwhole : (int n : Value Torn).isWhole = true := rfl
  simp only [isWritable, hnested, hfinite, hshort, hwhole, Bool.true_and, Bool.and_true,
    decide_eq_true_iff]

/-- An integer that may be absent can be written if it can be whenever it is there. -/
theorem isWritable_ofInt?_iff (levels : Nat) (n : Option Int) :
    (ofInt? n : Value Torn).isWritable levels = true ↔
      ∀ m ∈ n, (int m : Value Torn).isWritable levels = true := by
  cases n with
  | none => cases levels <;> simp [ofInt?, isWritable, isNestedWithin, isFinite, hasShortIntegers,
      isWhole, allScalars]
  | some m => simp only [ofInt?, Option.mem_some_iff, forall_eq']

/-- A list can be written if its items can with one level less. -/
theorem isWritable_arr_iff (levels : Nat) (items : List (Value Torn)) :
    (arr items).isWritable (levels + 1) = true ↔ ∀ item ∈ items, item.isWritable levels = true := by
  simp only [isWritable, isFinite, hasShortIntegers, isWhole, isNestedWithin_arr, allScalars_arr,
    Bool.and_eq_true, List.all_eq_true, forall_and]

/-- An object can be written if the values of its members can with one level less. -/
theorem isWritable_obj_iff (levels : Nat) (members : List (String × Value Torn)) :
    (obj members).isWritable (levels + 1) = true ↔
      ∀ member ∈ members, member.2.isWritable levels = true := by
  simp only [isWritable, isFinite, hasShortIntegers, isWhole, isNestedWithin_obj, allScalars_obj,
    Bool.and_eq_true, List.all_eq_true, forall_and]

end Writable

end FundsTransfer.Value
