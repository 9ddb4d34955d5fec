import RowGate.Decimal.Digits

namespace RowGate
namespace Bounded

/-!
# Integers of a limited range in texts

A whole text is read as an integer: a sign or none, and at least one digit.
Numbers outside the range are refused, natural numbers with a reason.
-/

/-- Why a text is not a number of the range. -/
inductive Fault where
  | empty
  | badDigit
  | tooLarge
deriving DecidableEq, Repr

namespace Fault

/-- The wording of a fault. -/
def message : Fault → String
  | empty => "cannot parse integer from empty string"
  | badDigit => "invalid digit found in string"
  | tooLarge => "number too large to fit in target type"

end Fault

/-- Drop a plus sign in front. -/
def afterPlus : List Char → List Char
  | '+' :: rest => rest
  | cs => cs

/-- Read a number up to a bound; a plus sign may stand before it.  Digits that
exceed the bound are a fault before what stands behind them. -/
def natural (high : Nat) (cs : List Char) : Except Fault Nat :=
  let run := Digits.span (afterPlus cs)
  if cs = [] then .error .empty
  else if high < Digits.value run.1 then .error .tooLarge
  else if run.1 = [] ∨ run.2 ≠ [] then .error .badDigit
  else .ok (Digits.value run.1)

/-- The number of a text, if it is one up to a bound. -/
def natural? (high : Nat) (cs : List Char) : Option Nat :=
  (natural high cs).toOption

/-- Read an integer between two bounds. -/
def signed? (low high : Int) (cs : List Char) : Option Int :=
  let signed : Bool × List Char :=
    match cs with
    | '-' :: rest => (true, rest)
    | '+' :: rest => (false, rest)
    | other => (false, other)
  match Digits.span signed.2 with
  | (d :: ds, []) =>
      let size : Int := Digits.value (d :: ds)
      let i := if signed.1 then -size else size
      if low ≤ i ∧ i ≤ high then some i else none
  | _ => none

/-- The largest number of 64 bits. -/
def maxNat64 : Nat := 18446744073709551615

/-- The largest number of 16 bits. -/
def maxNat16 : Nat := 65535

/-- The least integer of 64 bits. -/
def minInt64 : Int := -9223372036854775808

/-- The largest integer of 64 bits. -/
def maxInt64 : Int := 9223372036854775807

end Bounded
end RowGate
