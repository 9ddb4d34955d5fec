import RowGate.Decimal.Binary64

namespace RowGate
namespace Binary64

/-!
# Shortest digits

Of all decimals that round to a given binary number, the shortest one is
printed, and of those with equally many digits the nearest.  The decimals that
round to `m · 2 ^ e` fill the interval between the midpoints to the two
neighbours, ends included exactly when `m` is even.  For one digit, two digits
and so on, the value's two neighbours on that decimal grid are tried; seventeen
digits always suffice.
-/

/-- A fraction with a positive denominator. -/
structure Fraction where
  numerator : Nat
  denominator : Nat

namespace Fraction

/-- `count · 2 ^ exponent`. -/
def ofBinary (count : Nat) (exponent : Int) : Fraction :=
  if 0 ≤ exponent then ⟨count * Nat.pow 2 exponent.toNat, 1⟩
  else ⟨count, Nat.pow 2 (-exponent).toNat⟩

/-- Divide by a power of ten. -/
def shift (f : Fraction) (places : Int) : Fraction :=
  if 0 ≤ places then ⟨f.numerator, f.denominator * Nat.pow 10 places.toNat⟩
  else ⟨f.numerator * Nat.pow 10 (-places).toNat, f.denominator⟩

/-- The exponent of ten of the first digit of a positive fraction. -/
def magnitude (f : Fraction) : Int :=
  if f.denominator ≤ f.numerator then
    ((Digits.ofNat (f.numerator / f.denominator)).length : Int) - 1
  else
    let places : Int := (Digits.ofNat (f.denominator / f.numerator)).length
    if f.denominator ≤ f.numerator * Nat.pow 10 (places - 1).toNat then 1 - places else -places

end Fraction

/-- The bounds of the interval that rounds to `significand · 2 ^ exponent`, in
units of a quarter of that power.  Below a power of two the spacing halves. -/
def bounds (b : Binary64) : Nat × Nat :=
  let middle := 4 * b.significand
  let low := if b.significand = Nat.pow 2 52 ∧ -1074 < b.exponent then middle - 1 else middle - 2
  (low, middle + 2)

/-- The grid point `count · 10 ^ places` rounds to the value. -/
def hits (b : Binary64) (places : Int) (count : Nat) : Bool :=
  let bound := b.bounds
  let unit := b.exponent - 2
  let low := (Fraction.ofBinary bound.1 unit).shift places
  let high := (Fraction.ofBinary bound.2 unit).shift places
  if b.significand % 2 = 0 then
    low.numerator ≤ count * low.denominator && count * high.denominator ≤ high.numerator
  else low.numerator < count * low.denominator && count * high.denominator < high.numerator

/-- The better of the two grid neighbours of the value, if one rounds to it. -/
def neighbour? (b : Binary64) (places : Int) : Option Nat :=
  let value := (Fraction.ofBinary b.significand b.exponent).shift places
  let below := value.numerator / value.denominator
  let nearest := roundDiv value.numerator value.denominator
  let other := if nearest = below then below + 1 else below
  if b.hits places nearest then some nearest
  else if b.hits places other then some other
  else none

/-- Try `count` digits, then one more, up to the given number of attempts. -/
def digitsFrom (b : Binary64) (magnitude : Int) : Nat → Nat → Nat × Int
  | 0, count => (b.significand, magnitude - count)
  | attempts + 1, count =>
      let places := magnitude - (count : Int) + 1
      match b.neighbour? places with
      | some grid => (grid, places)
      | none => digitsFrom b magnitude attempts (count + 1)

/-- Drop zeros at the end of a coefficient, raising the exponent. -/
def dropZeros : Nat → Nat → Int → Nat × Int
  | 0, coefficient, exponent => (coefficient, exponent)
  | attempts + 1, coefficient, exponent =>
      if coefficient ≠ 0 ∧ coefficient % 10 = 0 then
        dropZeros attempts (coefficient / 10) (exponent + 1)
      else (coefficient, exponent)

/-- The shortest decimal that rounds to the value. -/
def shortest (b : Binary64) : Decimal :=
  if b.significand = 0 then ⟨b.negative, 0, 0⟩
  else
    let magnitude := (Fraction.ofBinary b.significand b.exponent).magnitude
    let found := b.digitsFrom magnitude 17 1
    let plain := dropZeros 20 found.1 found.2
    ⟨b.negative, plain.1, plain.2⟩

end Binary64
end RowGate
