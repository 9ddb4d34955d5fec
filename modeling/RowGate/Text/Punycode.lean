namespace RowGate
namespace Text
namespace Punycode

/-!
# Labels of names in ASCII letters

A label with other letters is written as its ASCII characters, a hyphen, and
one number for each of the others.  The numbers say in increasing order of the
code points where and by which distance to the last one a character is
inserted.  They are written with the least digit first, in base 36 less a
threshold which tells the last digit from those before it and follows the size
of the numbers so far.
-/

/-- The value of a digit: letters of either case come before the decimal
digits. -/
def digit? (c : Char) : Option Nat :=
  if 'a' ≤ c ∧ c ≤ 'z' then some (c.toNat - 97)
  else if 'A' ≤ c ∧ c ≤ 'Z' then some (c.toNat - 65)
  else if '0' ≤ c ∧ c ≤ '9' then some (c.toNat - 22)
  else none

/-- The threshold of the digit at a place. -/
def threshold (bias place : Nat) : Nat :=
  max 1 (min 26 (36 * (place + 1) - bias))

/-- Bring a number below 456, counting how often it was divided. -/
def scaleDown (number steps : Nat) : Nat × Nat :=
  if 455 < number then scaleDown (number / 35) (steps + 1) else (number, steps)
termination_by number
decreasing_by exact Nat.div_lt_self (by omega) (by decide)

/-- The bias after a number, for a text that has become `length` long. -/
def adapt (number length : Nat) (first : Bool) : Nat :=
  let halved := if first then number / 700 else number / 2
  let scaled := scaleDown (halved + halved / length) 0
  36 * scaled.2 + 36 * scaled.1 / (scaled.1 + 38)

/-- A label that is being read: its characters, the last code point and the
place behind it, the bias, and of a number that has been begun the place of its
next digit, the weight of that digit and the sum of the digits before it. -/
structure State where
  label : List Char
  code : Nat
  index : Nat
  bias : Nat
  place : Nat
  weight : Nat
  sum : Nat

namespace State

/-- Nothing but the ASCII characters has been read. -/
def start (ascii : List Char) : State :=
  ⟨ascii, 128, 0, 72, 0, 1, 0⟩

/-- Insert the character that a whole number describes. -/
def insert? (state : State) (number : Nat) : Option State :=
  let length := state.label.length + 1
  let code := state.code + (state.index + number) / length
  let index := (state.index + number) % length
  if code < 0xD800 ∨ (0xDFFF < code ∧ code < 0x110000) then
    some ⟨state.label.insertIdx index (Char.ofNat code), code, index + 1,
      adapt number length (state.index == 0), 0, 1, 0⟩
  else none

/-- The weights of digits are below this number. -/
def weightBound : Nat := Nat.pow 2 32

/-- Read one more digit. -/
def step? (state : State) (c : Char) : Option State := do
  let digit ← digit? c
  let limit := threshold state.bias state.place
  let sum := state.sum + digit * state.weight
  let weight := state.weight * (36 - limit)
  if digit < limit then state.insert? sum
  else if weight < weightBound then
    some { state with
      place := state.place + 1
      weight := weight
      sum := sum }
  else none

end State

/-- Read the numbers behind the ASCII characters of a label. -/
def readNumbers? (ascii numbers : List Char) : Option (List Char) :=
  match numbers.foldlM State.step? (State.start ascii) with
  | some state => if state.place = 0 then some state.label else none
  | none => none

end Punycode
end Text
end RowGate
