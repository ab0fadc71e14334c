/-!
# JSON values

Values as they come in from outside, before anything is known of their shape.  A string may be
written in escapes of which one is half of a pair that stands for a character; such a string is no
text.  How much is known of these strings is a parameter: values of type `Json` have none of them.

Main definitions:

- `Value`: the values.  Integers are unbounded; a number written with a point or an exponent is
  kept as its decimal digits and a power of ten.
- `Json`, `RawJson`: values whose strings are all texts, and values as they are read.
- `Value.lookup`, `Value.put`: reading and writing the value of a member of an object.
- `Value.allScalars`: a test on all parts of a value that have no parts themselves.
- `Value.isNestedWithin`: a bound on how deeply lists and objects are nested.

Main results:

- Theorems `lookup_put_self`, `lookup_put_of_ne`: what is found after writing a member.
-/

namespace FundsTransfer

/-- A JSON value, where the strings that are no texts are of type `Torn`.  Members keep the order in
which they were written. -/
inductive Value (Torn : Type) where
  | null
  | bool (value : Bool)
  | int (value : Int)
  /-- The number `digits * 10 ^ exponent`, or its opposite, written with a point or an exponent. -/
  | decimal (negative : Bool) (digits : Nat) (exponent : Int)
  /-- A number too large for double precision, written out or by its name. -/
  | infinite (negative : Bool)
  /-- The number that is none. -/
  | notANumber
  | str (value : String)
  /-- A string with half of a pair in it. -/
  | torn (value : Torn)
  | arr (items : List (Value Torn))
  | obj (members : List (String × Value Torn))
deriving Inhabited

/-- A value whose strings are all texts. -/
abbrev Json := Value Empty

/-- A value as it is read, where a string that is no text is kept as its code units. -/
abbrev RawJson := Value (List Nat)

namespace Value

variable {Torn : Type}

/-- The value of the named member; of several members with one name, the last one counts. -/
def lookup (name : String) : List (String × Value Torn) → Option (Value Torn)
  | [] => none
  | (other, value) :: rest =>
    match lookup name rest with
    | some later => some later
    | none => if other = name then some value else none

/-- The members with the named one set to a value; it takes the last place. -/
def put (name : String) (value : Value Torn) (members : List (String × Value Torn)) :
    List (String × Value Torn) :=
  members.filter (·.1 ≠ name) ++ [(name, value)]

/-- The value of the named member, if the value is an object that has one. -/
def get? (value : Value Torn) (name : String) : Option (Value Torn) :=
  match value with
  | obj members => lookup name members
  | _ => none

/-- An absent text is written as null. -/
def ofText? : Option String → Value Torn
  | some text => str text
  | none => null

/-- An absent integer is written as null. -/
def ofInt? : Option Int → Value Torn
  | some n => int n
  | none => null

mutual

/-- A test holds of all parts of a value that have no parts themselves. -/
def allScalars (test : Value Torn → Bool) : Value Torn → Bool
  | arr items => allScalarsOfItems test items
  | obj members => allScalarsOfMembers test members
  | scalar => test scalar

/-- A test holds throughout the items of a list. -/
def allScalarsOfItems (test : Value Torn → Bool) : List (Value Torn) → Bool
  | [] => true
  | item :: rest => allScalars test item && allScalarsOfItems test rest

/-- A test holds throughout the values of members. -/
def allScalarsOfMembers (test : Value Torn → Bool) : List (String × Value Torn) → Bool
  | [] => true
  | (_, value) :: rest => allScalars test value && allScalarsOfMembers test rest

end

mutual

/-- A value has at most this many lists and objects inside one another. -/
def isNestedWithin : Nat → Value Torn → Bool
  | 0, arr _ => false
  | 0, obj _ => false
  | levels + 1, arr items => itemsAreNestedWithin levels items
  | levels + 1, obj members => membersAreNestedWithin levels members
  | _, _ => true

/-- The items of a list have at most this many lists and objects inside one another. -/
def itemsAreNestedWithin (levels : Nat) : List (Value Torn) → Bool
  | [] => true
  | item :: rest => isNestedWithin levels item && itemsAreNestedWithin levels rest

/-- The values of members have at most this many lists and objects inside one another. -/
def membersAreNestedWithin (levels : Nat) : List (String × Value Torn) → Bool
  | [] => true
  | (_, value) :: rest => isNestedWithin levels value && membersAreNestedWithin levels rest

end

/-- All numbers in a value are finite. -/
def isFinite (value : Value Torn) : Bool :=
  value.allScalars fun
    | infinite _ => false
    | notANumber => false
    | _ => true

/-- A test on all parts of a list is one on all parts of each of its items. -/
theorem allScalars_arr (test : Value Torn → Bool) (items : List (Value Torn)) :
    allScalars test (arr items) = items.all (allScalars test) := by
  rw [allScalars]
  induction items with
  | nil => rfl
  | cons item rest ih => rw [allScalarsOfItems, ih, List.all_cons]

/-- A test on all parts of an object is one on all parts of the value of each of its members. -/
theorem allScalars_obj (test : Value Torn → Bool) (members : List (String × Value Torn)) :
    allScalars test (obj members) = members.all fun member => allScalars test member.2 := by
  rw [allScalars]
  induction members with
  | nil => rfl
  | cons member rest ih => rw [allScalarsOfMembers, ih, List.all_cons]

/-- The items of a list are nested one level less deeply than the list. -/
theorem isNestedWithin_arr (levels : Nat) (items : List (Value Torn)) :
    isNestedWithin (levels + 1) (arr items) = items.all (isNestedWithin levels) := by
  rw [isNestedWithin]
  induction items with
  | nil => rfl
  | cons item rest ih => rw [itemsAreNestedWithin, ih, List.all_cons]

/-- The members of an object are nested one level less deeply than the object. -/
theorem isNestedWithin_obj (levels : Nat) (members : List (String × Value Torn)) :
    isNestedWithin (levels + 1) (obj members) =
      members.all fun member => isNestedWithin levels member.2 := by
  rw [isNestedWithin]
  induction members with
  | nil => rfl
  | cons member rest ih => rw [membersAreNestedWithin, ih, List.all_cons]

@[simp]
theorem lookup_nil (name : String) : lookup name ([] : List (String × Value Torn)) = none := rfl

/-- A member at the end hides all members of the same name before it. -/
theorem lookup_append_self (members : List (String × Value Torn)) (name : String) (value : Value Torn) :
    lookup name (members ++ [(name, value)]) = some value := by
  induction members with
  | nil => simp [lookup]
  | cons member rest ih => simp [lookup, ih]

/-- A member that was set has the value it was set to. -/
@[simp]
theorem lookup_put_self (members : List (String × Value Torn)) (name : String) (value : Value Torn) :
    lookup name (put name value members) = some value :=
  lookup_append_self _ _ _

/-- Setting a member leaves the members of other names alone. -/
theorem lookup_put_of_ne {name other : String} (h : other ≠ name)
    (members : List (String × Value Torn)) (value : Value Torn) :
    lookup name (put other value members) = lookup name members := by
  induction members with
  | nil => simp [put, lookup, h]
  | cons member rest ih =>
    obtain ⟨key, old⟩ := member
    by_cases hkey : key = other
    · have hskip : lookup name ((key, old) :: rest) = lookup name rest := by
        cases hrest : lookup name rest <;> simp [lookup, hrest, hkey, h]
      rw [hskip, ← ih]
      simp [put, hkey]
    · simp only [put, ne_eq, decide_not] at ih
      simp [put, lookup, hkey, ih]

end Value

end FundsTransfer
