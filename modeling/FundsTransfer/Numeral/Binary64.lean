/-!
# Rounding to double precision

A number with a fraction is kept as the nearest number of the form `k * 2 ^ q`, where `k` has at
most 53 bits and `q` is at least `-1074`; of two that are equally near, the one with even `k` is
taken.  What would reach `2 ^ 1024` counts as infinite.

Main definitions:

- `Dyadic`: a natural number times a power of two.
- `nearest`: the rounded value of a quotient.
- `ofDecimal?`: the rounded value of a decimal fraction, if it is finite.
- `whole?`: the natural number that a decimal fraction denotes after rounding, if any.
-/

namespace FundsTransfer.Numeral

/-- The number `significand * 2 ^ exponent`. -/
structure Dyadic where
  significand : Nat
  exponent : Int
deriving DecidableEq, Repr

/-- The quotient `num / den`, divided by two to the given power. -/
def shiftQuotient (num den : Nat) : Int → Nat × Nat
  | .ofNat k => (num, den * Nat.pow 2 k)
  | .negSucc k => (num * Nat.pow 2 (k + 1), den)

/-- The natural number nearest to `num / den`; a half goes to the even neighbour. -/
def roundHalfEven (num den : Nat) : Nat :=
  let below := num / den
  let twice := 2 * (num % den)
  if twice < den || (twice == den && below % 2 == 0) then below else below + 1

/-- The largest power of two that does not exceed `num / den`. -/
def floorLog2 (num den : Nat) : Int :=
  let guess : Int := (num.log2 : Int) - den.log2
  let (n, d) := shiftQuotient num den guess
  if d ≤ n then guess else guess - 1

/-- The quotient `num / den`, rounded to 53 bits above the power `-1074` of two. -/
def nearest (num den : Nat) : Dyadic :=
  let exponent := max (floorLog2 num den - 52) (-1074)
  let (n, d) := shiftQuotient num den exponent
  ⟨roundHalfEven n d, exponent⟩

/-- The natural number that equals a dyadic number, if there is one. -/
def Dyadic.toNat? (x : Dyadic) : Option Nat :=
  match x.exponent with
  | .ofNat k => some (x.significand * Nat.pow 2 k)
  | .negSucc k =>
    let power := Nat.pow 2 (k + 1)
    if x.significand % power == 0 then some (x.significand / power) else none

/-- A dyadic number is finite as long as it stays below `2 ^ 1024`. -/
def Dyadic.isFinite (x : Dyadic) : Bool :=
  match x.exponent with
  | .ofNat k => x.significand * Nat.pow 2 k < Nat.pow 2 1024
  | .negSucc _ => true

/-- The number `digits * 10 ^ exponent`, rounded.  Exponents far out of range are decided by the
length of the digits alone. -/
def ofDecimal? (digits : Nat) (exponent : Int) : Option Dyadic :=
  let length : Int := digits.log2 + 1
  if digits = 0 ∨ exponent + length < -400 then some ⟨0, -1074⟩
  else
    match exponent with
    | .ofNat k =>
      if 400 < k then none else Option.guard Dyadic.isFinite (nearest (digits * Nat.pow 10 k) 1)
    | .negSucc k => Option.guard Dyadic.isFinite (nearest digits (Nat.pow 10 (k + 1)))

/-- The natural number that `digits * 10 ^ exponent` denotes after rounding, if any. -/
def whole? (digits : Nat) (exponent : Int) : Option Nat :=
  (ofDecimal? digits exponent).bind Dyadic.toNat?

end FundsTransfer.Numeral
