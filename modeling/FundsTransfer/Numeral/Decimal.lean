import FundsTransfer.Text.Words

/-!
# Decimal numerals and figures

The digits of a numeral are the ten ASCII digits, and a run of them is read in base ten.

Many scripts have ten digits of their own, which stand one after another from zero to nine.  They
are the characters of the Unicode category `Nd`, in the state of Unicode 14.  A number written in
figures may use the digits of any script, may be set off by blanks and signed, and a single underscore
may stand between two digits.

Main definitions:

- `value`: the number that a run of digits denotes.
- `leadingDigits`: the run of digits at the front of a text.
- `trimBlanks`: a text without the blanks around it.
- `digitLimit`: the number of digits up to which numerals are read and written.
- `IsShort`: the numbers that have no more digits than that.
- `scriptZeros`: the zeros of all scripts.
- `digitValue?`: the value of a digit of any script.
- `unsignedFigures?`: the number that a text without a sign denotes.
- `figures?`: the number that a text denotes.

Main results:

- Theorem `value_toDigits`: reading the digits of a number gives the number back.
- Theorem `digitValue?_of_isDigit`: the value of a plain digit.
- Theorem `unsignedFigures?_of_digits`: plain digits denote what they denote in base ten.
-/

namespace FundsTransfer.Numeral

/-! ## Plain digits -/

/-- A numeral may have at most this many digits. -/
def digitLimit : Nat := 4300

/-- A number in decimal has at most `digitLimit` digits. -/
def IsShort (n : Nat) : Prop :=
  (toString n).length ≤ digitLimit

instance (n : Nat) : Decidable (IsShort n) :=
  inferInstanceAs (Decidable (_ ≤ _))

/-- The number that a run of digits denotes in base ten. -/
def value (digits : List Char) : Nat :=
  Nat.ofDigitChars 10 digits 0

/-- The digits at the front of a text. -/
def leadingDigits (text : List Char) : List Char :=
  text.takeWhile Char.isDigit

/-- The text without the blanks at either end. -/
def trimBlanks (text : List Char) : List Char :=
  ((text.dropWhile Text.isBlank).reverse.dropWhile Text.isBlank).reverse

@[simp]
theorem value_nil : value [] = 0 := rfl

/-- Reading the decimal digits of a number gives the number back. -/
theorem value_toDigits (n : Nat) : value (Nat.toDigits 10 n) = n := by
  simp [value]

/-! ## Digits of any script -/

/-- The zeros of all scripts that write numbers in base ten. -/
def scriptZeros : List Nat :=
  [0x30, 0x660, 0x6F0, 0x7C0, 0x966, 0x9E6, 0xA66, 0xAE6, 0xB66, 0xBE6, 0xC66, 0xCE6, 0xD66,
    0xDE6, 0xE50, 0xED0, 0xF20, 0x1040, 0x1090, 0x17E0, 0x1810, 0x1946, 0x19D0, 0x1A80, 0x1A90,
    0x1B50, 0x1BB0, 0x1C40, 0x1C50, 0xA620, 0xA8D0, 0xA900, 0xA9D0, 0xA9F0, 0xAA50, 0xABF0,
    0xFF10, 0x104A0, 0x10D30, 0x11066, 0x110F0, 0x11136, 0x111D0, 0x112F0, 0x11450, 0x114D0,
    0x11650, 0x116C0, 0x11730, 0x118E0, 0x11950, 0x11C50, 0x11D50, 0x11DA0, 0x16A60, 0x16AC0,
    0x16B50, 0x1D7CE, 0x1D7D8, 0x1D7E2, 0x1D7EC, 0x1D7F6, 0x1E140, 0x1E2F0, 0x1E950, 0x1FBF0]

/-- The value of a decimal digit, which follows the zero of its script at that distance. -/
def digitValue? (c : Char) : Option Nat :=
  (scriptZeros.find? fun first => first ≤ c.toNat && c.toNat < first + 10).map (c.toNat - ·)

/-- The plain digits are those of the first script. -/
theorem digitValue?_of_isDigit {c : Char} (h : c.isDigit = true) :
    digitValue? c = some (c.toNat - '0'.toNat) := by
  have hc : 48 ≤ c.toNat ∧ c.toNat ≤ 57 := by
    simpa [Char.isDigit, UInt32.le_iff_toNat_le] using h
  have : c.toNat < 0x30 + 10 := by omega
  simp [digitValue?, scriptZeros, hc.1, this]

/-! ## Numbers in figures -/

/-- Reads on after a digit, where `read` is the number so far. -/
def readFigures (read : Nat) : List Char → Option Nat
  | [] => some read
  | '_' :: c :: rest => do
    let digit ← digitValue? c
    readFigures (10 * read + digit) rest
  | c :: rest => do
    let digit ← digitValue? c
    readFigures (10 * read + digit) rest

/-- The number that a text without a sign denotes: it starts with a digit. -/
def unsignedFigures? : List Char → Option Nat
  | [] => none
  | c :: rest => do
    let digit ← digitValue? c
    readFigures digit rest

/-- The number that a text denotes, with blanks at either end left out of account. -/
def figures? (text : List Char) : Option Int :=
  match trimBlanks text with
  | '-' :: rest => (unsignedFigures? rest).map fun n => -(n : Int)
  | '+' :: rest => (unsignedFigures? rest).map Int.ofNat
  | rest => (unsignedFigures? rest).map Int.ofNat

/-- Reading on over plain digits is reading them in base ten. -/
theorem readFigures_of_digits (read : Nat) {digits : List Char}
    (h : ∀ c ∈ digits, c.isDigit = true) :
    readFigures read digits = some (Nat.ofDigitChars 10 digits read) := by
  induction digits generalizing read with
  | nil => rfl
  | cons c rest ih =>
    have hc := h c List.mem_cons_self
    have hne : c ≠ '_' := by rintro rfl; exact absurd hc (by decide)
    rw [readFigures.eq_3 _ _ _ (by simp [hne]), digitValue?_of_isDigit hc,
      Nat.ofDigitChars_cons]
    exact ih _ fun d hd => h d (List.mem_cons_of_mem _ hd)

/-- Plain digits denote what they denote in base ten. -/
theorem unsignedFigures?_of_digits {digits : List Char} (hne : digits ≠ [])
    (h : ∀ c ∈ digits, c.isDigit = true) : unsignedFigures? digits = some (value digits) := by
  cases digits with
  | nil => exact absurd rfl hne
  | cons c rest =>
    rw [unsignedFigures?, digitValue?_of_isDigit (h c List.mem_cons_self), value,
      Nat.ofDigitChars_cons]
    simpa using readFigures_of_digits _ fun d hd => h d (List.mem_cons_of_mem _ hd)

end FundsTransfer.Numeral
