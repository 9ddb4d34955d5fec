import Mathlib.Algebra.Order.Field.Power
import Mathlib.Data.Nat.Cast.Order.Field
import Mathlib.Data.Rat.Cast.Order
import Mathlib.Tactic.FieldSimp
import Mathlib.Tactic.Linarith
import Mathlib.Tactic.Positivity
import Mathlib.Tactic.Ring
import RowGate.Decimal.Binary64

namespace RowGate

/-!
# Rounding keeps the order

Decimals and binary numbers denote rational numbers, and the nearest binary
number of a greater decimal is not smaller.  So rounding may take two decimals
to one binary number, but never exchanges them.

A positive fraction is rounded on a grid of width `2 ^ e`, where `e` is chosen
by its size.  On one grid, rounding to the nearest point keeps the order because
two points can only both be nearest to one fraction if they are neighbours, and
then the even one is taken.  Of two grids, the coarser one starts at the point
where the finer one ends.
-/

/-! ## The numbers that are denoted -/

/-- A power that is formed as a natural number. -/
theorem cast_pow_toNat (base : ℕ) {exponent : Int} (nonneg : 0 ≤ exponent) :
    ((Nat.pow base exponent.toNat : ℕ) : ℚ) = (base : ℚ) ^ exponent := by
  calc
    ((Nat.pow base exponent.toNat : ℕ) : ℚ) = (base : ℚ) ^ (exponent.toNat : ℤ) := by
      rw [zpow_natCast]
      exact Nat.cast_pow base exponent.toNat
    _ = (base : ℚ) ^ exponent := by rw [Int.toNat_of_nonneg nonneg]

namespace Decimal

/-- The rational number of a decimal without its sign. -/
def magnitude (d : Decimal) : ℚ :=
  d.coefficient * (10 : ℚ) ^ d.exponent

/-- The rational number of a decimal. -/
def value (d : Decimal) : ℚ :=
  if d.negative then -d.magnitude else d.magnitude

theorem magnitude_nonneg (d : Decimal) : 0 ≤ d.magnitude := by
  unfold magnitude
  positivity

theorem magnitude_eq_zero {d : Decimal} : d.magnitude = 0 ↔ d.coefficient = 0 := by
  have power : (10 : ℚ) ^ d.exponent ≠ 0 := by positivity
  simp [magnitude, power]

end Decimal

namespace Binary64

/-- The rational number of a binary number without its sign. -/
def magnitude (b : Binary64) : ℚ :=
  b.significand * (2 : ℚ) ^ b.exponent

/-- The rational number of a binary number. -/
def value (b : Binary64) : ℚ :=
  if b.negative then -b.magnitude else b.magnitude

theorem magnitude_nonneg (b : Binary64) : 0 ≤ b.magnitude := by
  unfold magnitude
  positivity

theorem value_eq_scaledTo (b : Binary64) {unit : Int} (below : unit ≤ b.exponent) :
    b.value = b.scaledTo unit * (2 : ℚ) ^ unit := by
  have power : (2 : ℚ) ^ b.exponent = Nat.pow 2 (b.exponent - unit).toNat * (2 : ℚ) ^ unit := by
    rw [cast_pow_toNat 2 (by omega), Nat.cast_ofNat, ← zpow_add₀ two_ne_zero, sub_add_cancel]
  unfold value magnitude scaledTo
  rw [power]
  split <;> simp [mul_assoc]

/-- Binary numbers are compared as the rational numbers that they are. -/
theorem compare_eq_cmp (a b : Binary64) : a.compare b = cmp a.value b.value := by
  have positive : (0 : ℚ) < 2 ^ min a.exponent b.exponent := by positivity
  rw [value_eq_scaledTo a (min_le_left a.exponent b.exponent),
    value_eq_scaledTo b (min_le_right a.exponent b.exponent)]
  unfold Binary64.compare
  dsimp only
  generalize a.scaledTo (min a.exponent b.exponent) = first
  generalize b.scaledTo (min a.exponent b.exponent) = second
  rcases lt_trichotomy first second with less | same | greater
  · rw [compare_lt_iff_lt.mpr less, (cmp_eq_lt_iff _ _).mpr]
    exact mul_lt_mul_of_pos_right (Int.cast_lt.mpr less) positive
  · rw [compare_eq_iff_eq.mpr same, same, cmp_self_eq_eq]
  · rw [compare_gt_iff_gt.mpr greater, (cmp_eq_gt_iff _ _).mpr]
    exact mul_lt_mul_of_pos_right (Int.cast_lt.mpr greater) positive

/-! ## The nearest whole number -/

/-- No whole number is nearer to a fraction, and of two that are equally near
this is the even one. -/
structure Nearest (q : ℚ) (r : ℕ) : Prop where
  above : r ≤ q + 1 / 2
  below : q ≤ r + 1 / 2
  even : r = q + 1 / 2 ∨ q = r + 1 / 2 → r % 2 = 0

/-- A greater fraction has no smaller nearest number.  Two nearest numbers in
the wrong order would both be half way from one fraction, and both even. -/
theorem Nearest.mono {q q' : ℚ} {r r' : ℕ} (first : Nearest q r) (second : Nearest q' r')
    (le : q ≤ q') : r ≤ r' := by
  by_contra crossed
  have step : (r' : ℚ) + 1 ≤ r := by exact_mod_cast Nat.lt_of_not_le crossed
  have up : (r : ℚ) = q + 1 / 2 := by linarith [first.above, second.below]
  have down : q' = r' + 1 / 2 := by linarith [first.above, second.below]
  have neighbours : r = r' + 1 := by
    have equal : (r : ℚ) = r' + 1 := by linarith [first.above, second.below]
    exact_mod_cast equal
  have evenUp := first.even (.inl up)
  have evenDown := second.even (.inr down)
  omega

/-- Twice the distance to the quotient is at most the divisor, and a whole
divisor only for an even quotient. -/
theorem roundDiv_bounds (numerator : ℕ) {denominator : ℕ} (positive : 0 < denominator) :
    let product := denominator * roundDiv numerator denominator
    2 * product ≤ 2 * numerator + denominator ∧ 2 * numerator ≤ 2 * product + denominator ∧
      (2 * product = 2 * numerator + denominator ∨ 2 * numerator = 2 * product + denominator →
        roundDiv numerator denominator % 2 = 0) := by
  have divided := Nat.div_add_mod numerator denominator
  have rest := Nat.mod_lt numerator positive
  have next : denominator * (numerator / denominator + 1) =
      denominator * (numerator / denominator) + denominator := Nat.mul_succ _ _
  unfold roundDiv
  dsimp only
  split
  · omega
  · split
    · rw [next]
      omega
    · split
      · omega
      · rw [next]
        omega

theorem nearest_roundDiv (numerator : ℕ) {denominator : ℕ} (positive : 0 < denominator) :
    Nearest (numerator / denominator) (roundDiv numerator denominator) := by
  rcases roundDiv_bounds numerator positive with ⟨above, below, even⟩
  generalize roundDiv numerator denominator = r at above below even ⊢
  have divisor : (0 : ℚ) < denominator := by exact_mod_cast positive
  have exact : (denominator : ℚ) * (numerator / denominator) = numerator := by field_simp
  generalize (numerator : ℚ) / denominator = q at exact ⊢
  have aboveQ : 2 * (denominator * r : ℚ) ≤ 2 * numerator + denominator := by exact_mod_cast above
  have belowQ : 2 * (numerator : ℚ) ≤ 2 * (denominator * r) + denominator := by exact_mod_cast below
  refine ⟨?_, ?_, ?_⟩
  · have scaled : (denominator : ℚ) * r ≤ denominator * (q + 1 / 2) := by linarith
    exact le_of_mul_le_mul_left scaled divisor
  · have scaled : (denominator : ℚ) * q ≤ denominator * (r + 1 / 2) := by linarith
    exact le_of_mul_le_mul_left scaled divisor
  · rintro (half | half)
    · refine even (.inl ?_)
      have scaled : 2 * (denominator * r : ℚ) = 2 * numerator + denominator := by
        rw [half]
        linarith
      exact_mod_cast scaled
    · refine even (.inr ?_)
      have scaled : 2 * (numerator : ℚ) = 2 * (denominator * r) + denominator := by
        rw [← exact, half]
        linarith
      exact_mod_cast scaled

theorem nearest_roundScaled (numerator : ℕ) {denominator : ℕ} (positive : 0 < denominator)
    (exponent : Int) :
    Nearest (numerator / denominator / 2 ^ exponent)
      (roundScaled numerator denominator exponent) := by
  unfold roundScaled
  split
  · next up =>
    have wider : 0 < denominator * Nat.pow 2 exponent.toNat :=
      Nat.mul_pos positive (Nat.pow_pos Nat.two_pos)
    have nearest := nearest_roundDiv numerator wider
    rwa [Nat.cast_mul, cast_pow_toNat 2 up, Nat.cast_ofNat, ← div_div] at nearest
  · next down =>
    have nearest := nearest_roundDiv (numerator * Nat.pow 2 (-exponent).toNat) positive
    rwa [Nat.cast_mul, cast_pow_toNat 2 (by omega), Nat.cast_ofNat, mul_div_right_comm, zpow_neg,
      ← div_eq_mul_inv] at nearest

/-! ## The grid for a fraction -/

/-- The grid of width `2 ^ e` has 53 bits for a fraction, and fewer only if it
is the finest one. -/
structure Fits (q : ℚ) (e : Int) : Prop where
  finest : -1074 ≤ e
  upper : q < 2 ^ (53 + e)
  lower : -1074 < e → (2 : ℚ) ^ (52 + e) ≤ q

section

variable {numerator denominator : ℕ}

/-- The binary logarithms of its parts give the size of a fraction up to a
factor of two either way. -/
theorem log2_bounds (positive : 0 < numerator) (divisor : 0 < denominator) :
    (2 : ℚ) ^ ((numerator.log2 : Int) - denominator.log2 - 1) ≤ numerator / denominator ∧
      (numerator / denominator : ℚ) < 2 ^ ((numerator.log2 : Int) - denominator.log2 + 1) := by
  have logBounds : ∀ n : ℕ, 0 < n →
      (2 : ℚ) ^ (n.log2 : Int) ≤ n ∧ (n : ℚ) < 2 ^ ((n.log2 : Int) + 1) := by
    intro n filled
    constructor
    · rw [zpow_natCast]
      exact_mod_cast Nat.log2_self_le (Nat.pos_iff_ne_zero.mp filled)
    · rw [show (n.log2 : Int) + 1 = ((n.log2 + 1 : ℕ) : Int) by simp, zpow_natCast]
      exact_mod_cast Nat.lt_log2_self
  rcases logBounds numerator positive with ⟨low, high⟩
  rcases logBounds denominator divisor with ⟨low', high'⟩
  have above : (0 : ℚ) < denominator := by exact_mod_cast divisor
  constructor
  · rw [le_div_iff₀ above]
    calc
      (2 : ℚ) ^ ((numerator.log2 : Int) - denominator.log2 - 1) * denominator
          ≤ 2 ^ ((numerator.log2 : Int) - denominator.log2 - 1) *
            2 ^ ((denominator.log2 : Int) + 1) :=
        mul_le_mul_of_nonneg_left high'.le (by positivity)
      _ = 2 ^ (numerator.log2 : Int) := by
        rw [← zpow_add₀ two_ne_zero]
        congr 1
        omega
      _ ≤ numerator := low
  · rw [div_lt_iff₀ above]
    calc
      (numerator : ℚ) < 2 ^ ((numerator.log2 : Int) + 1) := high
      _ = 2 ^ ((numerator.log2 : Int) - denominator.log2 + 1) * 2 ^ (denominator.log2 : Int) := by
        rw [← zpow_add₀ two_ne_zero]
        congr 1
        omega
      _ ≤ 2 ^ ((numerator.log2 : Int) - denominator.log2 + 1) * denominator :=
        mul_le_mul_of_nonneg_left low' (by positivity)

/-- The comparison that `scale` makes on natural numbers. -/
theorem reaches_iff (numerator : ℕ) (divisor : 0 < denominator) (guess : Int) :
    (if 0 ≤ guess then decide (denominator * Nat.pow 2 (guess.toNat + 53) ≤ numerator)
      else decide (denominator * Nat.pow 2 53 ≤ numerator * Nat.pow 2 (-guess).toNat)) = true ↔
      (2 : ℚ) ^ (53 + guess) ≤ numerator / denominator := by
  have above : (0 : ℚ) < denominator := by exact_mod_cast divisor
  rw [le_div_iff₀ above]
  split
  · next up =>
    rw [decide_eq_true_iff, ← Nat.cast_le (α := ℚ), Nat.cast_mul,
      show guess.toNat + 53 = (53 + guess).toNat by omega, cast_pow_toNat 2 (by omega),
      Nat.cast_ofNat, mul_comm]
  · next down =>
    have unit : (0 : ℚ) < 2 ^ (-guess) := by positivity
    have shifted : (denominator : ℚ) * (Nat.pow 2 53 : ℕ) =
        2 ^ (53 + guess) * denominator * 2 ^ (-guess) := by
      rw [mul_right_comm, ← zpow_add₀ two_ne_zero, add_neg_cancel_right, mul_comm]
      norm_num
    rw [decide_eq_true_iff, ← Nat.cast_le (α := ℚ), Nat.cast_mul, Nat.cast_mul,
      cast_pow_toNat 2 (by omega), Nat.cast_ofNat, shifted]
    exact mul_le_mul_iff_left₀ unit

theorem fits_scale (positive : 0 < numerator) (divisor : 0 < denominator) :
    Fits (numerator / denominator) (scale numerator denominator) := by
  rcases log2_bounds positive divisor with ⟨low, high⟩
  have reached := reaches_iff numerator divisor ((numerator.log2 : Int) - denominator.log2 - 53)
  unfold scale
  dsimp only
  generalize (if 0 ≤ (numerator.log2 : Int) - denominator.log2 - 53 then _ else _) = reaches
    at reached ⊢
  generalize (numerator.log2 : Int) - denominator.log2 = size at *
  generalize (numerator / denominator : ℚ) = q at *
  have widen : ∀ {small great : Int}, small ≤ great → (2 : ℚ) ^ small ≤ 2 ^ great :=
    fun le => zpow_le_zpow_right₀ one_le_two le
  cases reaches with
  | true =>
      have start : (2 : ℚ) ^ (53 + (size - 53)) ≤ q := reached.mp rfl
      refine ⟨le_max_left _ _, high.trans_le (widen ?_), fun inner => (widen ?_).trans start⟩
      · simp only [if_true]
        omega
      · simp only [if_true] at inner ⊢
        omega
  | false =>
      have stop : q < 2 ^ (53 + (size - 53)) := by
        rw [← not_le]
        exact fun start => Bool.false_ne_true (reached.mpr start)
      refine ⟨le_max_left _ _, stop.trans_le (widen ?_), fun inner => (widen ?_).trans low⟩
      · simp only [Bool.false_eq_true, if_false]
        omega
      · simp only [Bool.false_eq_true, if_false] at inner ⊢
        omega

end

/-! ## Rounding on two grids -/

/-- Rounding keeps the order of fractions, each on the grid that fits it. -/
theorem Nearest.mono_of_fits {q q' : ℚ} {r r' : ℕ} {e e' : Int} (fits : Fits q e)
    (fits' : Fits q' e') (nearest : Nearest (q / 2 ^ e) r) (nearest' : Nearest (q' / 2 ^ e') r')
    (le : q ≤ q') : r * (2 : ℚ) ^ e ≤ r' * 2 ^ e' := by
  have unit : (0 : ℚ) < 2 ^ e := by positivity
  have unit' : (0 : ℚ) < 2 ^ e' := by positivity
  rcases lt_trichotomy e e' with finer | same | coarser
  · -- The finer grid ends at `2 ^ (53 + e)`, and the coarser one starts no lower.
    have most : r ≤ 2 ^ 53 := by
      have size : q / 2 ^ e < 2 ^ 53 := by
        rw [div_lt_iff₀ unit, ← zpow_natCast, ← zpow_add₀ two_ne_zero]
        exact fits.upper
      have below : (r : ℚ) < (2 ^ 53 + 1 : ℕ) := by
        push_cast
        linarith [nearest.above]
      exact Nat.lt_succ_iff.mp (Nat.cast_lt.mp below)
    have least : 2 ^ 52 ≤ r' := by
      have size : (2 : ℚ) ^ 52 ≤ q' / 2 ^ e' := by
        rw [le_div_iff₀ unit', ← zpow_natCast, ← zpow_add₀ two_ne_zero]
        exact fits'.lower (fits.finest.trans_lt finer)
      have above : ((2 ^ 52 : ℕ) : ℚ) < (r' + 1 : ℕ) := by
        push_cast
        linarith [nearest'.below]
      exact Nat.lt_succ_iff.mp (Nat.cast_lt.mp above)
    calc
      (r : ℚ) * 2 ^ e ≤ 2 ^ 53 * 2 ^ e :=
        mul_le_mul_of_nonneg_right (by exact_mod_cast most) unit.le
      _ = 2 ^ 52 * 2 ^ (e + 1) := by
        rw [zpow_add_one₀ two_ne_zero]
        ring
      _ ≤ 2 ^ 52 * 2 ^ e' :=
        mul_le_mul_of_nonneg_left (zpow_le_zpow_right₀ one_le_two finer) (by positivity)
      _ ≤ r' * 2 ^ e' := mul_le_mul_of_nonneg_right (by exact_mod_cast least) unit'.le
  · subst same
    have ordered : r ≤ r' := nearest.mono nearest' (div_le_div_of_nonneg_right le unit.le)
    exact mul_le_mul_of_nonneg_right (by exact_mod_cast ordered) unit.le
  · -- A fraction that needs the coarser grid is greater.
    have lower : (2 : ℚ) ^ (52 + e) < 2 ^ (53 + e') :=
      (fits.lower (fits'.finest.trans_lt coarser)).trans_lt (le.trans_lt fits'.upper)
    have exponents := (zpow_lt_zpow_iff_right₀ one_lt_two).mp lower
    omega

section

variable {negative negative' : Bool} {numerator denominator numerator' denominator' : ℕ}
  {b b' : Binary64}

/-- The greatest significand is carried into the next grid, which leaves the
number as it is. -/
theorem ofFraction?_eq_some (rounded : ofFraction? negative numerator denominator = some b) :
    b.negative = negative ∧
      b.magnitude = roundScaled numerator denominator (scale numerator denominator) *
        (2 : ℚ) ^ scale numerator denominator := by
  unfold ofFraction? at rounded
  dsimp only at rounded
  generalize scale numerator denominator = e at rounded ⊢
  generalize roundScaled numerator denominator e = r at rounded ⊢
  by_cases carried : r = Nat.pow 2 53
  · rw [if_pos carried] at rounded
    split at rounded
    · cases rounded
    · cases rounded
      refine ⟨rfl, ?_⟩
      rw [carried, magnitude, zpow_add_one₀ two_ne_zero]
      norm_num
      ring
  · rw [if_neg carried] at rounded
    split at rounded
    · cases rounded
    · cases rounded
      exact ⟨rfl, rfl⟩

theorem ofFraction?_mono (positive : 0 < numerator) (divisor : 0 < denominator)
    (positive' : 0 < numerator') (divisor' : 0 < denominator')
    (rounded : ofFraction? negative numerator denominator = some b)
    (rounded' : ofFraction? negative' numerator' denominator' = some b')
    (le : (numerator / denominator : ℚ) ≤ numerator' / denominator') :
    b.magnitude ≤ b'.magnitude := by
  rw [(ofFraction?_eq_some rounded).2, (ofFraction?_eq_some rounded').2]
  exact Nearest.mono_of_fits (fits_scale positive divisor) (fits_scale positive' divisor')
    (nearest_roundScaled numerator divisor _) (nearest_roundScaled numerator' divisor' _) le

end

/-! ## Decimals -/

/-- The place of the first digit gives the size of a decimal up to a factor of
ten. -/
theorem place_bounds {d : Decimal} (filled : d.coefficient ≠ 0) :
    (10 : ℚ) ^ (((Digits.ofNat d.coefficient).length : Int) + d.exponent - 1) ≤ d.magnitude ∧
      d.magnitude < 10 ^ (((Digits.ofNat d.coefficient).length : Int) + d.exponent) := by
  have unit : (0 : ℚ) < 10 ^ d.exponent := by positivity
  have low := Digits.pow_length_ofNat_le (Nat.pos_of_ne_zero filled)
  have high := Digits.lt_pow_length_ofNat d.coefficient
  generalize (Digits.ofNat d.coefficient).length = width at *
  have lowQ : (10 : ℚ) ^ (width : Int) ≤ 10 * d.coefficient := by
    rw [zpow_natCast]
    exact_mod_cast low
  have highQ : (d.coefficient : ℚ) < 10 ^ (width : Int) := by
    rw [zpow_natCast]
    exact_mod_cast high
  unfold Decimal.magnitude
  constructor
  · rw [add_sub_right_comm, zpow_add₀ (by norm_num), zpow_sub_one₀ (by norm_num)]
    refine mul_le_mul_of_nonneg_right ?_ unit.le
    linarith
  · rw [zpow_add₀ (by norm_num)]
    exact mul_lt_mul_of_pos_right highQ unit

/-- A decimal that is far too small becomes zero; any other is rounded as a
fraction. -/
theorem ofDecimal?_eq_some {d : Decimal} {b : Binary64} (rounded : ofDecimal? d = some b) :
    b.negative = d.negative ∧
      ((d.magnitude < 10 ^ (-331 : Int) ∧ b.magnitude = 0) ∨
        (10 ^ (-331 : Int) ≤ d.magnitude ∧ ∃ numerator denominator : ℕ,
          0 < numerator ∧ 0 < denominator ∧ (numerator / denominator : ℚ) = d.magnitude ∧
          ofFraction? d.negative numerator denominator = some b)) := by
  have ten : (1 : ℚ) ≤ 10 := by norm_num
  unfold ofDecimal? at rounded
  split at rounded
  · next zero =>
    cases rounded
    refine ⟨rfl, .inl ⟨?_, by simp [magnitude]⟩⟩
    rw [Decimal.magnitude_eq_zero.mpr zero]
    positivity
  · next filled =>
    rcases place_bounds filled with ⟨low, high⟩
    dsimp only at rounded
    generalize ((Digits.ofNat d.coefficient).length : Int) + d.exponent = place at *
    split at rounded
    · cases rounded
    · split at rounded
      · next tiny =>
        cases rounded
        refine ⟨rfl, .inl ⟨?_, by simp [magnitude]⟩⟩
        exact high.trans_le (zpow_le_zpow_right₀ ten (by omega))
      · next large =>
        have least : (10 : ℚ) ^ (-331 : Int) ≤ d.magnitude :=
          (zpow_le_zpow_right₀ ten (by omega)).trans low
        split at rounded
        · next up =>
          refine ⟨(ofFraction?_eq_some rounded).1, .inr ⟨least, _, 1, ?_, one_pos, ?_, rounded⟩⟩
          · exact Nat.mul_pos (Nat.pos_of_ne_zero filled) (Nat.pow_pos (by decide))
          · rw [Nat.cast_mul, cast_pow_toNat 10 up]
            simp [Decimal.magnitude]
        · next down =>
          refine ⟨(ofFraction?_eq_some rounded).1, .inr ⟨least, _, _, ?_, ?_, ?_, rounded⟩⟩
          · exact Nat.pos_of_ne_zero filled
          · exact Nat.pow_pos (by decide)
          · rw [cast_pow_toNat 10 (by omega), zpow_neg, div_inv_eq_mul]
            simp [Decimal.magnitude]

theorem magnitude_ofDecimal?_mono {d d' : Decimal} {b b' : Binary64}
    (rounded : ofDecimal? d = some b) (rounded' : ofDecimal? d' = some b')
    (le : d.magnitude ≤ d'.magnitude) : b.magnitude ≤ b'.magnitude := by
  rcases (ofDecimal?_eq_some rounded).2 with
    ⟨_, zero⟩ | ⟨large, _, _, positive, divisor, same, fraction⟩
  · rw [zero]
    exact b'.magnitude_nonneg
  · rcases (ofDecimal?_eq_some rounded').2 with
      ⟨tiny, _⟩ | ⟨_, _, _, positive', divisor', same', fraction'⟩
    · exact absurd (large.trans le) (not_le.mpr tiny)
    · refine ofFraction?_mono positive divisor positive' divisor' fraction fraction' ?_
      rw [same, same']
      exact le

theorem magnitude_ofDecimal?_eq_zero {d : Decimal} {b : Binary64}
    (rounded : ofDecimal? d = some b) (zero : d.magnitude = 0) : b.magnitude = 0 := by
  rcases (ofDecimal?_eq_some rounded).2 with ⟨_, small⟩ | ⟨large, _⟩
  · exact small
  · rw [zero] at large
    exact absurd large (not_le.mpr (by positivity))

/-- Of two decimals in order, the nearest binary numbers are in order. -/
theorem value_ofDecimal?_mono {d d' : Decimal} {b b' : Binary64}
    (rounded : ofDecimal? d = some b) (rounded' : ofDecimal? d' = some b')
    (le : d.value ≤ d'.value) : b.value ≤ b'.value := by
  have nonneg := b.magnitude_nonneg
  have nonneg' := b'.magnitude_nonneg
  have size := d.magnitude_nonneg
  have size' := d'.magnitude_nonneg
  unfold value
  unfold Decimal.value at le
  rw [(ofDecimal?_eq_some rounded).1, (ofDecimal?_eq_some rounded').1]
  cases minus : d.negative with
  | true =>
      cases minus' : d'.negative with
      | true =>
          simp only [minus, minus', if_true, neg_le_neg_iff] at le ⊢
          exact magnitude_ofDecimal?_mono rounded' rounded le
      | false =>
          simp only [if_true, Bool.false_eq_true, if_false]
          linarith
  | false =>
      cases minus' : d'.negative with
      | true =>
          -- A number that is not negative is below none with a sign, unless both are zero.
          simp only [minus, minus', if_true, Bool.false_eq_true, if_false] at le ⊢
          have zero : b.magnitude = 0 := magnitude_ofDecimal?_eq_zero rounded (by linarith)
          have zero' : b'.magnitude = 0 := magnitude_ofDecimal?_eq_zero rounded' (by linarith)
          linarith
      | false =>
          simp only [minus, minus', Bool.false_eq_true, if_false] at le ⊢
          exact magnitude_ofDecimal?_mono rounded rounded' le

end Binary64
end RowGate
