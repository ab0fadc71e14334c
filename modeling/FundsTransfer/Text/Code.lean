/-!
# Codes of characters

The code of a character is written in base sixteen, with small letters; capitals are read as well.  A
character beyond the first 65536 may be written as two code units, of which the first opens and the
second closes a pair.  Half a pair stands for no character, so that units which hold one are no text.

Main definitions:

- `hexDigits`: the digits of a number, filled up to a width.
- `hexValue?`, `hexQuad?`: the value of a digit and that of four digits.
- `isHighSurrogate`, `isLowSurrogate`: the code units that open and close a pair.
- `charsOfUnits?`: the characters of a list of code units.
-/

namespace FundsTransfer.Text

/-! ## Hexadecimal digits -/

/-- The hexadecimal digits of a number, filled up with zeros to a width. -/
def hexDigits (width n : Nat) : List Char :=
  (Nat.toDigits 16 n).leftpad width '0'

/-- The value of a hexadecimal digit. -/
def hexValue? (c : Char) : Option Nat :=
  if c.isDigit then some (c.toNat - 0x30)
  else if 'a' ≤ c && c ≤ 'f' then some (c.toNat - 0x57)
  else if 'A' ≤ c && c ≤ 'F' then some (c.toNat - 0x37)
  else none

/-- The value of four hexadecimal digits. -/
def hexQuad? (a b c d : Char) : Option Nat := do
  let a ← hexValue? a
  let b ← hexValue? b
  let c ← hexValue? c
  let d ← hexValue? d
  return ((a * 16 + b) * 16 + c) * 16 + d

/-! ## Surrogate pairs -/

/-- A code unit that opens a pair. -/
def isHighSurrogate (unit : Nat) : Bool :=
  0xD800 ≤ unit && unit ≤ 0xDBFF

/-- A code unit that closes a pair. -/
def isLowSurrogate (unit : Nat) : Bool :=
  0xDC00 ≤ unit && unit ≤ 0xDFFF

/-- The character of a code; half a pair has none. -/
def charOfUnit? (unit : Nat) : Option Char :=
  if isHighSurrogate unit || isLowSurrogate unit then none else some (Char.ofNat unit)

/-- The characters of a list of codes, where two halves make one character. -/
def charsOfUnits? : List Nat → Option (List Char)
  | [] => some []
  | [unit] => (charOfUnit? unit).map ([·])
  | high :: low :: rest =>
    if isHighSurrogate high && isLowSurrogate low then
      let c := Char.ofNat (0x10000 + (high - 0xD800) * 0x400 + (low - 0xDC00))
      (charsOfUnits? rest).map (c :: ·)
    else do
      let c ← charOfUnit? high
      let later ← charsOfUnits? (low :: rest)
      return c :: later

end FundsTransfer.Text
