namespace RowGate
namespace Text
namespace Hex

/-!
# Hexadecimal digits

Digits are written in lower case and read in either case.  A run of a fixed
number of digits stands for the numbers that fit into it, and reading a run
gives back the number that it was written for.
-/

/-- The digit of a number below 16. -/
def digit (n : Nat) : Char :=
  if n < 10 then Char.ofNat (48 + n) else Char.ofNat (87 + n)

/-- The value of a digit. -/
def value? (c : Char) : Option Nat :=
  if '0' ≤ c ∧ c ≤ '9' then some (c.toNat - 48)
  else if 'a' ≤ c ∧ c ≤ 'f' then some (c.toNat - 87)
  else if 'A' ≤ c ∧ c ≤ 'F' then some (c.toNat - 55)
  else none

/-- The last `count` digits of a number. -/
def digits : Nat → Nat → List Char
  | 0, _ => []
  | count + 1, n => digits count (n / 16) ++ [digit (n % 16)]

/-- The number of a run of digits, with `high` already read. -/
def readFrom (high : Nat) : List Char → Option Nat
  | [] => some high
  | c :: rest => (value? c).bind fun value => readFrom (high * 16 + value) rest

/-- The number of a run of digits. -/
def read (cs : List Char) : Option Nat :=
  readFrom 0 cs

/-- The bytes of a run of digits, two for each. -/
def readBytes? : List Char → Option (List UInt8)
  | [] => some []
  | high :: low :: rest => do
      let byte ← read [high, low]
      let others ← readBytes? rest
      some (UInt8.ofNat byte :: others)
  | [_] => none

theorem value?_digit {n : Nat} (small : n < 16) : value? (digit n) = some n := by
  have all : ∀ m : Fin 16, value? (digit m.val) = some m.val := by decide
  exact all ⟨n, small⟩

theorem length_digits (count n : Nat) : (digits count n).length = count := by
  induction count generalizing n with
  | zero => rfl
  | succ count inductionHypothesis => simp [digits, inductionHypothesis]

theorem readFrom_append (high : Nat) (first second : List Char) :
    readFrom high (first ++ second) = (readFrom high first).bind (readFrom · second) := by
  induction first generalizing high with
  | nil => rfl
  | cons c rest inductionHypothesis =>
      simp only [List.cons_append, readFrom]
      cases value? c with
      | none => rfl
      | some value => exact inductionHypothesis _

theorem readFrom_digits (count n high : Nat) (fits : n < Nat.pow 16 count) :
    readFrom high (digits count n) = some (high * Nat.pow 16 count + n) := by
  induction count generalizing n with
  | zero =>
      have zero : n = 0 := by simpa using fits
      simp [digits, readFrom, zero]
  | succ count inductionHypothesis =>
      have power : Nat.pow 16 (count + 1) = Nat.pow 16 count * 16 := rfl
      have shorter : n / 16 < Nat.pow 16 count := by
        rw [power] at fits
        exact Nat.div_lt_of_lt_mul (by omega)
      rw [digits, readFrom_append, inductionHypothesis _ shorter]
      simp only [Option.bind_some, readFrom, value?_digit (Nat.mod_lt n (by decide : 0 < 16)),
        Option.some.injEq]
      rw [power, ← Nat.mul_assoc]
      omega

theorem read_digits {count n : Nat} (fits : n < Nat.pow 16 count) : read (digits count n) = some n := by
  rw [read, readFrom_digits count n 0 fits, Nat.zero_mul, Nat.zero_add]

end Hex
end Text
end RowGate
