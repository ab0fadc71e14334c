import FundsTransfer.Json.Basic
import FundsTransfer.Numeral.Binary64
import FundsTransfer.Numeral.Decimal
import FundsTransfer.Text.Code

/-!
# Reading JSON

A reader takes the characters still to be read and answers either a value and the characters after
it, or where and why reading broke off.  Besides the numbers of the standard it takes `NaN`,
`Infinity` and `-Infinity`.  The recursion is bounded by the length of the text; how deeply values
may be nested is a separate bound, which the caller sets.  The caller also says how a string that is no
text is kept, if it is.

Main definitions:

- `Json.Breakdown`: the reasons for which reading breaks off.
- `Json.Reader`: what a reader answers.
- `Json.read`: the value that a whole text denotes, or the reason why it denotes none.
- `Json.parse`: the same where all strings have to be texts.
-/

namespace FundsTransfer.Json

/-- Why reading breaks off; a place in the text is given by a `Place`. -/
inductive Breakdown (Place : Type) where
  /-- What stands at this place cannot stand there. -/
  | unexpected (place : Place)
  /-- An integer has more than `Numeral.digitLimit` digits. -/
  | numeralTooLong
  /-- Lists and objects are nested more deeply than is allowed. -/
  | tooDeep
deriving DecidableEq, Repr

/-- The same reason with another account of the place. -/
def Breakdown.map {α β : Type} (f : α → β) : Breakdown α → Breakdown β
  | unexpected place => unexpected (f place)
  | numeralTooLong => numeralTooLong
  | tooDeep => tooDeep

/-- A value and the characters after it, or the reason why reading broke off, where a place is
given by the characters from there on. -/
abbrev Reader (α : Type) := Except (Breakdown (List Char)) (α × List Char)

/-- Reading breaks off at these characters. -/
def breakOff {α : Type} (rest : List Char) : Except (Breakdown (List Char)) α :=
  .error (.unexpected rest)

/-- The four characters that may stand between the parts of a JSON text. -/
def isSpace (c : Char) : Bool :=
  c == ' ' || c == '\t' || c == '\n' || c == '\x0d'

/-- The text from its first character that is not space. -/
def skipSpace (text : List Char) : List Char :=
  text.dropWhile isSpace

/-- The character that a backslash and one letter stand for. -/
def escape? : Char → Option Char
  | '"' => some '"'
  | '\\' => some '\\'
  | '/' => some '/'
  | 'b' => some '\x08'
  | 'f' => some '\x0c'
  | 'n' => some '\n'
  | 'r' => some '\x0d'
  | 't' => some '\t'
  | _ => none

/-- Reads the inside of a string up to its closing quote, as code points and code units: an escape
with four digits, which may not end the text, gives a unit, which may be one half of a pair.  A
string without a closing quote is at fault from its opening on. -/
def readUnits (opening : List Char) : List Char → Reader (List Nat)
  | [] => breakOff opening
  | '"' :: rest => .ok ([], rest)
  | '\\' :: 'u' :: a :: b :: c :: d :: rest =>
    match rest.isEmpty, Text.hexQuad? a b c d with
    | false, some unit => (readUnits opening rest).map fun (units, after) => (unit :: units, after)
    | _, _ => breakOff ('u' :: a :: b :: c :: d :: rest)
  | '\\' :: 'u' :: rest => breakOff ('u' :: rest)
  | ['\\'] => breakOff opening
  | '\\' :: c :: rest =>
    match escape? c with
    | some e => (readUnits opening rest).map fun (units, after) => (e.toNat :: units, after)
    | none => breakOff ('\\' :: c :: rest)
  | c :: rest =>
    if c.toNat < 0x20 then breakOff (c :: rest)
    else (readUnits opening rest).map fun (units, after) => (c.toNat :: units, after)

/-- Divides a text into the digits at its front and the rest. -/
def spanDigits (text : List Char) : List Char × List Char :=
  (text.takeWhile Char.isDigit, text.dropWhile Char.isDigit)

/-- Reads the digits after a point, if there are any. -/
def readFraction : List Char → List Char × List Char
  | '.' :: rest =>
    let (digits, after) := spanDigits rest
    if digits.isEmpty then ([], '.' :: rest) else (digits, after)
  | text => ([], text)

/-- Reads a power of ten, if one is written. -/
def readExponent (text : List Char) : Option Int × List Char :=
  let signed (negative : Bool) (rest : List Char) :=
    let (digits, after) := spanDigits rest
    if digits.isEmpty then (none, text)
    else
      let n : Int := Numeral.value digits
      (some (if negative then -n else n), after)
  match text with
  | c :: rest =>
    if c == 'e' || c == 'E' then
      match rest with
      | '-' :: after => signed true after
      | '+' :: after => signed false after
      | after => signed false after
    else (none, text)
  | [] => (none, text)

section Values

variable {Torn : Type}

/-- The number `digits * 10 ^ exponent`, or its opposite; it is infinite if it is too large. -/
def ofDecimal (negative : Bool) (digits : Nat) (exponent : Int) : Value Torn :=
  if (Numeral.ofDecimal? digits exponent).isSome then .decimal negative digits exponent
  else .infinite negative

/-- The integer with the given digits, if there are not too many of them. -/
def readInteger (negative : Bool) (digits rest : List Char) : Reader (Value Torn) :=
  if Numeral.digitLimit < digits.length then .error .numeralTooLong
  else
    let magnitude : Int := Numeral.value digits
    .ok (.int (if negative then -magnitude else magnitude), rest)

/-- Reads a number: an integer, unless a point with digits or a power of ten follows.  A zero in
front is a number of its own. -/
def readNumber (text : List Char) : Reader (Value Torn) :=
  let (negative, unsigned) :=
    match text with
    | '-' :: rest => (true, rest)
    | rest => (false, rest)
  let (digits, rest) :=
    match unsigned with
    | '0' :: rest => (['0'], rest)
    | rest => spanDigits rest
  if digits.isEmpty then breakOff text
  else
    let (fraction, rest) := readFraction rest
    let (exponent, rest) := readExponent rest
    if fraction.isEmpty && exponent.isNone then readInteger negative digits rest
    else
      let decimal := ofDecimal negative (Numeral.value (digits ++ fraction))
        (exponent.getD 0 - fraction.length)
      .ok (decimal, rest)

variable (torn? : List Nat → Option Torn)

/-- The string with the given code units: a text, or else what is kept of it. -/
def ofUnits? (units : List Nat) : Option (Value Torn) :=
  match Text.charsOfUnits? units with
  | some chars => some (.str (String.ofList chars))
  | none => (torn? units).map .torn

/-- Reads a string after its opening quote. -/
def readString (text : List Char) : Except (Breakdown (List Char)) (Value Torn × List Char) := do
  let (units, rest) ← readUnits ('"' :: text) text
  match ofUnits? torn? units with
  | some string => return (string, rest)
  | none => breakOff ('"' :: text)

/-- The member of the given name.  Nothing asks for a name that is no text, and of such a member the
name alone is kept. -/
def member (name value : Value Torn) : String × Value Torn :=
  match name with
  | .str text => (text, value)
  | other => ("", other)

mutual

/-- Reads a value with at most `levels` lists and objects inside one another; `fuel` bounds the
number of steps. -/
def readValue (fuel levels : Nat) (text : List Char) : Reader (Value Torn) :=
  match fuel with
  | 0 => breakOff text
  | fuel + 1 =>
    match text with
    | 'n' :: 'u' :: 'l' :: 'l' :: rest => .ok (.null, rest)
    | 't' :: 'r' :: 'u' :: 'e' :: rest => .ok (.bool true, rest)
    | 'f' :: 'a' :: 'l' :: 's' :: 'e' :: rest => .ok (.bool false, rest)
    | 'N' :: 'a' :: 'N' :: rest => .ok (.notANumber, rest)
    | 'I' :: 'n' :: 'f' :: 'i' :: 'n' :: 'i' :: 't' :: 'y' :: rest => .ok (.infinite false, rest)
    | '-' :: 'I' :: 'n' :: 'f' :: 'i' :: 'n' :: 'i' :: 't' :: 'y' :: rest =>
      .ok (.infinite true, rest)
    | '"' :: rest => readString torn? rest
    | '[' :: rest =>
      match levels with
      | 0 => .error .tooDeep
      | levels + 1 =>
        match skipSpace rest with
        | ']' :: after => .ok (.arr [], after)
        | inside => (readItems fuel levels inside).map fun (items, after) => (.arr items, after)
    | '\x7b' :: rest =>
      match levels with
      | 0 => .error .tooDeep
      | levels + 1 =>
        match skipSpace rest with
        | '\x7d' :: after => .ok (.obj [], after)
        | inside =>
          (readMembers fuel levels inside).map fun (members, after) => (.obj members, after)
    | _ => readNumber text

/-- Reads the items of a list up to its closing bracket. -/
def readItems (fuel levels : Nat) (text : List Char) :
    Except (Breakdown (List Char)) (List (Value Torn) × List Char) :=
  match fuel with
  | 0 => breakOff text
  | fuel + 1 => do
    let (item, rest) ← readValue fuel levels text
    match skipSpace rest with
    | ',' :: rest =>
      let (items, after) ← readItems fuel levels (skipSpace rest)
      return (item :: items, after)
    | ']' :: after => return ([item], after)
    | rest => breakOff rest

/-- Reads the members of an object up to its closing brace. -/
def readMembers (fuel levels : Nat) (text : List Char) :
    Except (Breakdown (List Char)) (List (String × Value Torn) × List Char) :=
  match fuel with
  | 0 => breakOff text
  | fuel + 1 =>
    match text with
    | '"' :: rest => do
      let (name, rest) ← readString torn? rest
      match skipSpace rest with
      | ':' :: rest =>
        let (value, rest) ← readValue fuel levels (skipSpace rest)
        match skipSpace rest with
        | ',' :: rest =>
          let (members, after) ← readMembers fuel levels (skipSpace rest)
          return (member name value :: members, after)
        | '\x7d' :: after => return ([member name value], after)
        | rest => breakOff rest
      | rest => breakOff rest
    | _ => breakOff text

end

/-- Reads a value and nothing after it but space.  No more than two steps are taken on a character,
one for a list or an object and one for a value in it. -/
def readAll (levels : Nat) (text : List Char) : Except (Breakdown (List Char)) (Value Torn) := do
  let (value, rest) ← readValue torn? (2 * text.length + 2) levels (skipSpace text)
  match skipSpace rest with
  | [] => return value
  | rest => breakOff rest

/-- The value that a text denotes, with at most `levels` lists and objects inside one another.  A
place where reading breaks off is given by the number of characters before it. -/
def read (levels : Nat) (text : List Char) : Except (Breakdown Nat) (Value Torn) :=
  (readAll torn? levels text).mapError fun reason =>
    reason.map fun rest => text.length - rest.length

end Values

/-- The value that a text denotes if all of its strings are texts. -/
def parse (levels : Nat) (text : List Char) : Except (Breakdown Nat) Json :=
  read (fun _ => none) levels text

end FundsTransfer.Json
