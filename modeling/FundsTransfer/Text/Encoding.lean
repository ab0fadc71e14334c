import FundsTransfer.Text.Code

/-!
# Encodings

A text that begins with two ASCII characters shows in the zeros among its first four bytes how it is
laid out: one byte, two bytes or four bytes a character, the greater or the smaller end first.

Main definitions:

- `Encoding`: the layouts.
- `Encoding.ofBytes`: the layout that the first bytes show.
- `Undecodable`: why bytes have no characters in a layout.
- `Encoding.decode`: the characters of bytes in a given layout.
- `sniff`: the characters of a text that comes in as bytes.
-/

namespace FundsTransfer.Text

/-- The layouts of texts in bytes. -/
inductive Encoding where
  | utf8
  | utf16 (bigEndian : Bool)
  | utf32 (bigEndian : Bool)
deriving DecidableEq, Repr

/-- The number that bytes stand for, the greatest first. -/
def numberOfBytes (bytes : List UInt8) : Nat :=
  bytes.foldl (fun n b => 256 * n + b.toNat) 0

/-- The number that bytes stand for, either end first. -/
def numberOf (bigEndian : Bool) (bytes : List UInt8) : Nat :=
  numberOfBytes (if bigEndian then bytes else bytes.reverse)

/-- The code units of bytes taken two at a time. -/
def pairUnits? (bigEndian : Bool) : List UInt8 → Option (List Nat)
  | [] => some []
  | a :: b :: rest => (pairUnits? bigEndian rest).map (numberOf bigEndian [a, b] :: ·)
  | [_] => none

/-- The codes of bytes taken four at a time; none may exceed the last code of all. -/
def quadCodes? (bigEndian : Bool) : List UInt8 → Option (List Nat)
  | [] => some []
  | a :: b :: c :: d :: rest =>
    let code := numberOf bigEndian [a, b, c, d]
    if code ≤ 0x10FFFF then (quadCodes? bigEndian rest).map (code :: ·) else none
  | _ => none

/-- Why bytes have no characters in a layout. -/
inductive Undecodable where
  /-- The bytes do not make up codes. -/
  | malformed
  /-- A code is half of a pair whose other half is missing. -/
  | torn
deriving DecidableEq, Repr

/-- The characters of codes, if there are codes at all. -/
def ofUnits? (chars? : List Nat → Option (List Char)) :
    Option (List Nat) → Except Undecodable (List Char)
  | none => .error .malformed
  | some units => (chars? units).elim (.error .torn) .ok

namespace Encoding

/-- The layout that the zeros among the first bytes show. -/
def ofBytes : List UInt8 → Encoding
  | [a, b] => if a = 0 then utf16 true else if b = 0 then utf16 false else utf8
  | a :: b :: c :: d :: _ =>
    if a = 0 then if b = 0 then utf32 true else utf16 true
    else if b = 0 then if c = 0 ∧ d = 0 then utf32 false else utf16 false
    else utf8
  | _ => utf8

/-- The characters of a text whose bytes are read in a layout.  In its own layout a text stands for
itself, less a byte order mark in front. -/
def decode (text : List Char) (bytes : List UInt8) : Encoding → Except Undecodable (List Char)
  | utf8 => .ok (if text.head? = some '\uFEFF' then text.tail else text)
  | utf16 bigEndian => ofUnits? charsOfUnits? (pairUnits? bigEndian bytes)
  | utf32 bigEndian => ofUnits? (·.mapM charOfUnit?) (quadCodes? bigEndian bytes)

end Encoding

/-- The characters of a text that comes in as bytes, in the layout that these bytes show. -/
def sniff (text : String) : Except Undecodable (List Char) :=
  let bytes := text.toUTF8.data.toList
  (Encoding.ofBytes bytes).decode text.toList bytes

end FundsTransfer.Text
