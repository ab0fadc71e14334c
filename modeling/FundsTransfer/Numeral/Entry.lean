import FundsTransfer.Numeral.Decimal

/-!
# Integers as they are entered

An integer that comes in as a text may be set off by blanks, signed, padded with zeros, grouped by
underscores and followed by a point and zeros.  Such a text is first tidied up, and what is left of
it has to be a plain numeral.  Too long a run of digits is told apart from other mistakes only where
nothing has to be tidied up in front of it.

Main definitions:

- `Misread`: the two ways in which a text fails to denote an integer.
- `startsTooLong`: a text starts with too long a numeral.
- `dropPadding?`: a text without the zeros in front of its number.
- `dropZeroFraction`: a text without a point and zeros at its end.
- `joinGroups`: a text without the underscores between its groups.
- `plain?`: the number that a plain numeral denotes.
- `entered`: the integer that a text denotes.
-/

namespace FundsTransfer.Numeral

/-- Why a text denotes no integer. -/
inductive Misread where
  /-- The text is no numeral, or one that is too long once it is tidied up. -/
  | unreadable
  /-- The text starts with too long a numeral as it stands. -/
  | tooLong
deriving DecidableEq, Repr

/-- A text starts with a numeral of more than `digitLimit` digits: a minus sign may stand in front,
the first digit is not a zero, and what follows the digits does not matter. -/
def startsTooLong (text : List Char) : Bool :=
  let digits := leadingDigits (if text.head? == some '-' then text.tail else text)
  digits.head? != some '0' && digitLimit < digits.length

/-- Drops zeros and underscores after a zero, where `last` is the character before the text.  One
character stays where nothing else is left or a point follows; otherwise what is left starts with
another digit or with a minus sign. -/
def dropZeros? (last : Char) : List Char → Option (List Char)
  | [] => some [last]
  | c :: rest =>
    if c == '0' || c == '_' then dropZeros? c rest
    else if c == '.' then some (last :: c :: rest)
    else if c == '-' || c.isDigit then some (c :: rest)
    else none

/-- A text without the zeros in front of its number; it has to start with a digit. -/
def dropPadding? : List Char → Option (List Char)
  | [] => none
  | '0' :: rest => dropZeros? '0' rest
  | c :: rest => if c.isDigit then some (c :: rest) else none

/-- A text without the point and the zeros after it, at least one, if it ends so. -/
def dropZeroFraction (text : List Char) : List Char :=
  match text.dropWhile (· != '.') with
  | _ :: '0' :: zeros => if zeros.all (· == '0') then text.takeWhile (· != '.') else text
  | _ => text

/-- In some place two underscores stand side by side. -/
def hasEmptyGroup : List Char → Bool
  | '_' :: '_' :: _ => true
  | _ :: rest => hasEmptyGroup rest
  | [] => false

/-- A text without its underscores, if each stands alone between two other characters. -/
def joinGroups (text : List Char) : List Char :=
  if text.head? == some '_' || text.getLast? == some '_' || hasEmptyGroup text then text
  else text.filter (· != '_')

/-- The number that a plain numeral denotes: at most `digitLimit` digits and nothing else, and no
zero in front of another digit. -/
def plain? (text : List Char) : Option Nat :=
  if text.isEmpty || !text.all Char.isDigit then none
  else if text.head? == some '0' && text.length != 1 then none
  else if digitLimit < text.length then none
  else some (value text)

/-- The number that a plain numeral with a minus sign or without one denotes. -/
def signedPlain? : List Char → Option Int
  | '-' :: rest => (plain? rest).map fun n => -(n : Int)
  | text => (plain? text).map Int.ofNat

/-- A text without its padding, its zero fraction and its underscores. -/
def tidy? (text : List Char) : Option (List Char) :=
  (dropPadding? text).map fun rest => joinGroups (dropZeroFraction rest)

/-- The integer that a text without blanks around it denotes.  A minus sign stands in front, or
after the padding; a plus sign stands in front. -/
def enteredTrimmed? : List Char → Option Int
  | '-' :: rest => ((tidy? rest).bind plain?).map fun n => -(n : Int)
  | '+' :: rest => (tidy? rest).bind signedPlain?
  | text => (tidy? text).bind signedPlain?

/-- The integer that a text denotes, with blanks at either end left out of account. -/
def entered (text : String) : Except Misread Int :=
  if startsTooLong text.toList then .error .tooLong
  else
    match enteredTrimmed? (trimBlanks text.toList) with
    | some n => .ok n
    | none => .error .unreadable

end FundsTransfer.Numeral
