import RowGate.Decimal.Digits

namespace RowGate

/-!
# Decimals and the nearest binary number

A decimal is a sign, a coefficient and a power of ten, and keeps every digit.
Stored numbers are compared after rounding to binary64: the nearest number
with a 53-bit significand and an exponent from -1074 on, ties going to the even
significand.  All of it is exact arithmetic on natural numbers and integers.
A decimal whose rounded magnitude would reach 2 to the power 1024 has no
nearest finite number.
-/

/-- The decimal `±coefficient · 10 ^ exponent`.  Zero keeps its sign. -/
structure Decimal where
  negative : Bool
  coefficient : Nat
  exponent : Int
deriving DecidableEq, Repr

/-- The finite binary number `±significand · 2 ^ exponent`. -/
structure Binary64 where
  negative : Bool
  significand : Nat
  exponent : Int
deriving DecidableEq, Repr

namespace Binary64

/-- Divide, rounding to the nearest natural number and ties to the even one. -/
def roundDiv (numerator denominator : Nat) : Nat :=
  let quotient := numerator / denominator
  let twice := 2 * (numerator % denominator)
  if twice < denominator then quotient
  else if denominator < twice then quotient + 1
  else if quotient % 2 = 0 then quotient else quotient + 1

/-- Divide `numerator / denominator` by `2 ^ exponent`, rounding. -/
def roundScaled (numerator denominator : Nat) (exponent : Int) : Nat :=
  if 0 ≤ exponent then roundDiv numerator (denominator * Nat.pow 2 exponent.toNat)
  else roundDiv (numerator * Nat.pow 2 (-exponent).toNat) denominator

/-- The exponent that leaves 53 bits before the point, and at least -1074.
The binary logarithms of the two parts fix it up to one. -/
def scale (numerator denominator : Nat) : Int :=
  let guess : Int := (Nat.log2 numerator : Int) - (Nat.log2 denominator : Int) - 53
  let reaches : Bool :=
    if 0 ≤ guess then decide (denominator * Nat.pow 2 (guess.toNat + 53) ≤ numerator)
    else decide (denominator * Nat.pow 2 53 ≤ numerator * Nat.pow 2 (-guess).toNat)
  max (-1074) (if reaches then guess + 1 else guess)

/-- The binary number nearest to a positive fraction. -/
def ofFraction? (negative : Bool) (numerator denominator : Nat) : Option Binary64 :=
  let exponent := scale numerator denominator
  let significand := roundScaled numerator denominator exponent
  let rounded : Binary64 :=
    if significand = Nat.pow 2 53 then ⟨negative, Nat.pow 2 52, exponent + 1⟩
    else ⟨negative, significand, exponent⟩
  if 971 < rounded.exponent then none else some rounded

/-- The binary number nearest to a decimal; none when it is too large.
Magnitudes far outside the range are settled by the place of the first digit,
so that no huge power is ever formed. -/
def ofDecimal? (d : Decimal) : Option Binary64 :=
  if d.coefficient = 0 then some ⟨d.negative, 0, 0⟩
  else
    let place : Int := (Digits.ofNat d.coefficient).length + d.exponent
    if 310 < place then none
    else if place < -330 then some ⟨d.negative, 0, 0⟩
    else if 0 ≤ d.exponent then
      ofFraction? d.negative (d.coefficient * Nat.pow 10 d.exponent.toNat) 1
    else ofFraction? d.negative d.coefficient (Nat.pow 10 (-d.exponent).toNat)

/-- The value as a whole multiple of `2 ^ unit`, for a unit that is not larger
than the exponent. -/
def scaledTo (b : Binary64) (unit : Int) : Int :=
  let magnitude : Int := b.significand * Nat.pow 2 (b.exponent - unit).toNat
  if b.negative then -magnitude else magnitude

/-- Order by value; the two zeros are equal. -/
def compare (a b : Binary64) : Ordering :=
  let unit := min a.exponent b.exponent
  Ord.compare (a.scaledTo unit) (b.scaledTo unit)

/-- The value as an integer, when it is one. -/
def toInt? (b : Binary64) : Option Int :=
  if 0 ≤ b.exponent then some (b.scaledTo 0)
  else
    let divisor := Nat.pow 2 (-b.exponent).toNat
    if b.significand % divisor = 0 then
      some (if b.negative then -((b.significand / divisor : Nat) : Int)
        else ((b.significand / divisor : Nat) : Int))
    else none

end Binary64
end RowGate
