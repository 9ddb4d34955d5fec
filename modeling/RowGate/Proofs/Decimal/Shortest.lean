import RowGate.Decimal.Shortest
import RowGate.Proofs.Decimal.Exactness

namespace RowGate

/-!
# Decimals that survive rounding

All numbers that round to a binary number lie between the midpoints to its two
neighbours.  If the binary number has the full 53 bits, that interval is so narrow
that fifteen digits tell its members apart: it holds no more than one point of the
grid that has fifteen digits there, or of a coarser grid.  So a decimal of at most
fifteen digits is what the shortest decimal of its nearest binary number denotes.
-/

/-- A decimal of at most fifteen significant digits that is zero or at least the
least binary number of 53 bits. -/
structure Decimal.Brief (d : Decimal) : Prop where
  digits : ∃ (c : ℕ) (k : Int), c < 10 ^ 15 ∧ d.magnitude = c * 10 ^ k
  large : d.magnitude = 0 ∨ (2 : ℚ) ^ (-1022 : Int) ≤ d.magnitude

namespace Binary64

/-! ## Fractions -/

namespace Fraction

/-- The rational number of a fraction. -/
def value (f : Fraction) : ℚ :=
  f.numerator / f.denominator

theorem denominator_ofBinary_pos (count : ℕ) (exponent : Int) :
    0 < (ofBinary count exponent).denominator := by
  unfold ofBinary
  split
  · exact one_pos
  · exact Nat.pow_pos Nat.two_pos

theorem numerator_ofBinary_pos {count : ℕ} (filled : 0 < count) (exponent : Int) :
    0 < (ofBinary count exponent).numerator := by
  unfold ofBinary
  split
  · exact Nat.mul_pos filled (Nat.pow_pos Nat.two_pos)
  · exact filled

theorem value_ofBinary (count : ℕ) (exponent : Int) :
    (ofBinary count exponent).value = count * 2 ^ exponent := by
  unfold ofBinary value
  split
  · next up =>
    rw [Nat.cast_mul, cast_pow_toNat 2 up, Nat.cast_one, div_one]
    rfl
  · next down =>
    rw [cast_pow_toNat 2 (by omega), zpow_neg, div_inv_eq_mul]
    rfl

variable {f : Fraction}

theorem denominator_shift_pos (divisor : 0 < f.denominator) (places : Int) :
    0 < (f.shift places).denominator := by
  unfold shift
  split
  · exact Nat.mul_pos divisor (Nat.pow_pos (by decide))
  · exact divisor

theorem value_shift (f : Fraction) (places : Int) :
    (f.shift places).value = f.value / 10 ^ places := by
  unfold shift value
  split
  · next up =>
    rw [Nat.cast_mul, cast_pow_toNat 10 up, div_mul_eq_div_div]
    rfl
  · next down =>
    rw [Nat.cast_mul, cast_pow_toNat 10 (by omega), zpow_neg, ← div_eq_mul_inv]
    exact div_right_comm _ _ _

theorem le_count_iff (divisor : 0 < f.denominator) (count : ℕ) :
    f.numerator ≤ count * f.denominator ↔ f.value ≤ count := by
  rw [value, div_le_iff₀ (by exact_mod_cast divisor)]
  exact_mod_cast Iff.rfl

theorem count_le_iff (divisor : 0 < f.denominator) (count : ℕ) :
    count * f.denominator ≤ f.numerator ↔ (count : ℚ) ≤ f.value := by
  rw [value, le_div_iff₀ (by exact_mod_cast divisor)]
  exact_mod_cast Iff.rfl

/-- The digits of a whole quotient give the size of the fraction. -/
theorem quotient_bounds {n m : ℕ} (positive : 0 < m) (le : m ≤ n) :
    (10 : ℚ) ^ (((Digits.ofNat (n / m)).length : Int) - 1) ≤ n / m ∧
      (n / m : ℚ) < 10 ^ ((Digits.ofNat (n / m)).length : Int) := by
  have low := Digits.pow_length_ofNat_le (Nat.div_pos le positive)
  have high := Digits.lt_pow_length_ofNat (n / m)
  generalize (Digits.ofNat (n / m)).length = width at *
  have lowQ : (10 : ℚ) ^ (width : Int) ≤ 10 * (n / m : ℕ) := by
    rw [zpow_natCast]
    exact_mod_cast low
  have highQ : ((n / m : ℕ) : ℚ) + 1 ≤ 10 ^ (width : Int) := by
    rw [zpow_natCast]
    exact_mod_cast high
  have below : ((n / m : ℕ) : ℚ) ≤ n / m := Nat.cast_div_le
  have above : (n / m : ℚ) < (n / m : ℕ) + 1 := by
    rw [div_lt_iff₀ (by exact_mod_cast positive)]
    exact_mod_cast Nat.lt_mul_of_div_lt (Nat.lt_succ_self (n / m)) positive
  constructor
  · rw [zpow_sub_one₀ (by norm_num)]
    linarith
  · linarith

/-- The magnitude of a fraction is the place of its first digit. -/
theorem magnitude_bounds (positive : 0 < f.numerator) (divisor : 0 < f.denominator) :
    (10 : ℚ) ^ f.magnitude ≤ f.value ∧ f.value < 10 ^ (f.magnitude + 1) := by
  unfold magnitude
  split
  · next le =>
    rw [sub_add_cancel]
    exact quotient_bounds divisor le
  · next less =>
    rcases quotient_bounds positive (Nat.le_of_not_le less) with ⟨low, high⟩
    have places : 1 ≤ (Digits.ofNat (f.denominator / f.numerator)).length :=
      List.length_pos_iff.mpr (Digits.ofNat_ne_nil _)
    dsimp only
    generalize (Digits.ofNat (f.denominator / f.numerator)).length = width at *
    have inverse : f.value = (f.denominator / f.numerator : ℚ)⁻¹ := (inv_div _ _).symm
    have power : (10 : ℚ) ^ (1 - width : Int) = (10 ^ (width - 1 : Int))⁻¹ := by
      rw [← zpow_neg, neg_sub]
    have upper : f.value ≤ 10 ^ (1 - width : Int) := by
      rw [inverse, power]
      exact inv_anti₀ (by positivity) low
    have lower : (10 : ℚ) ^ (-width : Int) < f.value := by
      rw [inverse, zpow_neg]
      refine inv_strictAnti₀ ?_ high
      exact lt_of_lt_of_le (by positivity) low
    have reaches : f.denominator ≤ f.numerator * Nat.pow 10 ((width : Int) - 1).toNat ↔
        (10 : ℚ) ^ (1 - width : Int) ≤ f.value := by
      have whole : (10 : ℚ) ^ (width - 1 : Int) = (Nat.pow 10 ((width : Int) - 1).toNat : ℕ) :=
        (cast_pow_toNat 10 (by omega)).symm
      rw [value, le_div_iff₀ (by exact_mod_cast divisor), power, inv_mul_le_iff₀ (by positivity),
        whole, mul_comm]
      exact_mod_cast Iff.rfl
    split
    · next reached =>
      refine ⟨reaches.mp reached, upper.trans_lt ?_⟩
      exact (zpow_lt_zpow_iff_right₀ (by norm_num)).mpr (by omega)
    · next short =>
      refine ⟨lower.le, ?_⟩
      rw [neg_add_eq_sub]
      exact not_le.mp fun reached => short (reaches.mpr reached)

end Fraction

/-! ## The interval of a binary number -/

/-- A number between the midpoints to the neighbours of a binary number.  The
midpoints belong to the interval of an even significand. -/
structure Surrounds (b : Binary64) (q : ℚ) : Prop where
  low : b.bounds.1 * (2 : ℚ) ^ (b.exponent - 2) ≤ q
  high : q ≤ b.bounds.2 * (2 : ℚ) ^ (b.exponent - 2)
  even : b.bounds.1 * (2 : ℚ) ^ (b.exponent - 2) = q ∨ q = b.bounds.2 * (2 : ℚ) ^ (b.exponent - 2) →
    b.significand % 2 = 0

theorem hits_iff (b : Binary64) (places : Int) (count : ℕ) :
    b.hits places count = true ↔ b.Surrounds (count * 10 ^ places) := by
  have unit : (0 : ℚ) < 10 ^ places := by positivity
  have fraction : ∀ bound : ℕ,
      0 < ((Fraction.ofBinary bound (b.exponent - 2)).shift places).denominator ∧
      ((Fraction.ofBinary bound (b.exponent - 2)).shift places).value =
        bound * 2 ^ (b.exponent - 2) / 10 ^ places := by
    intro bound
    refine ⟨Fraction.denominator_shift_pos (Fraction.denominator_ofBinary_pos _ _) _, ?_⟩
    rw [Fraction.value_shift, Fraction.value_ofBinary]
  rcases fraction b.bounds.1 with ⟨lowDivisor, lowValue⟩
  rcases fraction b.bounds.2 with ⟨highDivisor, highValue⟩
  have lowLe := Fraction.le_count_iff lowDivisor count
  have leLow := Fraction.count_le_iff lowDivisor count
  have highLe := Fraction.le_count_iff highDivisor count
  have leHigh := Fraction.count_le_iff highDivisor count
  rw [lowValue, div_le_iff₀ unit] at lowLe
  rw [lowValue, le_div_iff₀ unit] at leLow
  rw [highValue, div_le_iff₀ unit] at highLe
  rw [highValue, le_div_iff₀ unit] at leHigh
  unfold hits
  dsimp only
  split
  · next even =>
    rw [Bool.and_eq_true, decide_eq_true_eq, decide_eq_true_eq, lowLe, leHigh]
    exact ⟨fun inside => ⟨inside.1, inside.2, fun _ => even⟩, fun inside => ⟨inside.1, inside.2⟩⟩
  · next odd =>
    rw [Bool.and_eq_true, decide_eq_true_eq, decide_eq_true_eq, ← not_le, ← not_le, leLow, highLe,
      not_le, not_le]
    constructor
    · rintro ⟨low, high⟩
      exact ⟨low.le, high.le, fun ends => (ends.elim low.ne high.ne).elim⟩
    · intro inside
      exact ⟨inside.low.lt_of_ne fun same => odd (inside.even (.inl same)),
        inside.high.lt_of_ne fun same => odd (inside.even (.inr same))⟩

/-- A binary number lies in its own interval. -/
theorem surrounds_magnitude {b : Binary64} (filled : b.significand ≠ 0) :
    b.Surrounds b.magnitude := by
  have unit : (0 : ℚ) < 2 ^ (b.exponent - 2) := by positivity
  have size : b.magnitude = (4 * b.significand : ℕ) * 2 ^ (b.exponent - 2) := by
    rw [magnitude, zpow_sub₀ two_ne_zero]
    push_cast
    ring
  have low : b.bounds.1 < 4 * b.significand := by
    unfold bounds
    dsimp only
    split <;> omega
  have high : 4 * b.significand < b.bounds.2 := Nat.lt_add_of_pos_right Nat.two_pos
  have lowQ : (b.bounds.1 : ℚ) * 2 ^ (b.exponent - 2) < b.magnitude := by
    rw [size]
    exact mul_lt_mul_of_pos_right (by exact_mod_cast low) unit
  have highQ : b.magnitude < b.bounds.2 * 2 ^ (b.exponent - 2) := by
    rw [size]
    exact mul_lt_mul_of_pos_right (by exact_mod_cast high) unit
  exact ⟨lowQ.le, highQ.le, fun ends => (ends.elim lowQ.ne highQ.ne).elim⟩

/-- A number within its interval is close to a binary number of 53 bits. -/
theorem Surrounds.close {b : Binary64} {q : ℚ} (around : b.Surrounds q)
    (full : 2 ^ 52 ≤ b.significand) : |q - b.magnitude| * 2 ^ 53 ≤ b.magnitude := by
  have unit : (0 : ℚ) < 2 ^ (b.exponent - 2) := by positivity
  have size : b.magnitude = 4 * b.significand * 2 ^ (b.exponent - 2) := by
    rw [magnitude, zpow_sub₀ two_ne_zero]
    norm_num
    ring
  have fullQ : (2 : ℚ) ^ 52 ≤ b.significand := by exact_mod_cast full
  have lowest : (4 * b.significand - 2 : ℚ) ≤ b.bounds.1 := by
    have natural : 4 * b.significand ≤ b.bounds.1 + 2 := by
      unfold bounds
      dsimp only
      split <;> omega
    have rational : (4 * b.significand : ℚ) ≤ b.bounds.1 + 2 := by exact_mod_cast natural
    linarith
  have highest : (b.bounds.2 : ℚ) = 4 * b.significand + 2 := by
    simp [bounds]
  have low := (mul_le_mul_of_nonneg_right lowest unit.le).trans around.low
  have high := around.high
  rw [highest] at high
  have half : |q - b.magnitude| ≤ 2 * 2 ^ (b.exponent - 2) := by
    rw [abs_le, size]
    constructor <;> linarith
  calc
    |q - b.magnitude| * 2 ^ 53 ≤ 2 * 2 ^ (b.exponent - 2) * 2 ^ 53 :=
      mul_le_mul_of_nonneg_right half (by positivity)
    _ = 4 * 2 ^ 52 * 2 ^ (b.exponent - 2) := by ring
    _ ≤ b.magnitude := by
      rw [size]
      exact mul_le_mul_of_nonneg_right (by linarith) unit.le

/-! ## Fifteen digits -/

theorem ten_pow_eq (m : Int) : (10 : ℚ) ^ (m + 1) = 10 ^ 15 * 10 ^ (m - 14) := by
  rw [← zpow_natCast, ← zpow_add₀ (by norm_num)]
  congr 1
  push_cast
  ring

/-- A point of a decimal grid is one of every finer grid. -/
theorem exists_count_of_le {k m : Int} (finer : m ≤ k) (c : ℕ) :
    ∃ count : ℕ, (c : ℚ) * 10 ^ k = count * 10 ^ m := by
  refine ⟨c * Nat.pow 10 (k - m).toNat, ?_⟩
  rw [Nat.cast_mul, cast_pow_toNat 10 (by omega), Nat.cast_ofNat, mul_assoc,
    ← zpow_add₀ (by norm_num), sub_add_cancel]

section

variable {v q : ℚ} {m : Int}

/-- Close to a number, a decimal of fifteen digits is on the grid of the fifteenth
digit of that number. -/
theorem exists_count_of_close (low : 10 ^ m ≤ v) (close : |q - v| * 2 ^ 53 ≤ v) {c : ℕ} {k : Int}
    (brief : c < 10 ^ 15) (decimal : q = c * 10 ^ k) :
    ∃ count : ℕ, q = count * (10 : ℚ) ^ (m - 14) := by
  by_cases coarse : m - 14 ≤ k
  · rw [decimal]
    exact exists_count_of_le coarse c
  · -- Otherwise the decimal is too far below the number.
    have unit : (0 : ℚ) < 10 ^ (m - 15) := by positivity
    have power : (10 : ℚ) ^ m = 10 ^ 15 * 10 ^ (m - 15) := by
      have shifted := ten_pow_eq (m - 1)
      rwa [sub_add_cancel, sub_sub] at shifted
    have fifteen : (c : ℚ) ≤ 10 ^ 15 - 1 := by
      rw [le_sub_iff_add_le]
      exact_mod_cast brief
    have upper : q ≤ (10 ^ 15 - 1) * 10 ^ (m - 15) := by
      rw [decimal]
      refine mul_le_mul fifteen ?_ (by positivity) (by norm_num)
      exact zpow_le_zpow_right₀ (by norm_num) (by omega)
    have below := neg_abs_le (q - v)
    rw [power] at low
    linarith

/-- Close to a number there is at most one point of the grid of its fifteenth
digit. -/
theorem eq_of_close (high : v < 10 ^ (m + 1)) (closeQ : |q - v| * 2 ^ 53 ≤ v) {p : ℚ}
    (closeP : |p - v| * 2 ^ 53 ≤ v) {c c' : ℕ} (first : q = c * 10 ^ (m - 14))
    (second : p = c' * 10 ^ (m - 14)) : q = p := by
  have unit : (0 : ℚ) < 10 ^ (m - 14) := by positivity
  have apart : |q - p| ≤ |q - v| + |p - v| := by
    rw [abs_sub_comm p v]
    exact abs_sub_le q v p
  rw [ten_pow_eq] at high
  have near : |q - p| < 1 * 10 ^ (m - 14) := by linarith
  rw [first, second, ← sub_mul, abs_mul, abs_of_pos unit] at near
  have counts : |(c : ℚ) - c'| < 1 := lt_of_mul_lt_mul_right near unit.le
  have same : (c : Int) = c' := by
    rw [← sub_eq_zero, ← Int.abs_lt_one_iff]
    exact_mod_cast counts
  rw [first, second, Int.natCast_inj.mp same]

end

/-! ## The search -/

section

variable {b : Binary64} {places : Int} {count : ℕ}

theorem hits_of_neighbour? (found : b.neighbour? places = some count) :
    b.hits places count = true := by
  unfold neighbour? at found
  extract_lets _ _ nearest other at found
  clear_value nearest other
  split at found
  · next nearest =>
    cases found
    exact nearest
  · split at found
    · next other =>
      cases found
      exact other
    · cases found

/-- A grid point in the interval that is nearest to the number is found. -/
theorem neighbour?_of_hits (hit : b.hits places count = true)
    (close : |count * 10 ^ places - b.magnitude| < 10 ^ places / 2) :
    b.neighbour? places = some count := by
  have unit : (0 : ℚ) < 10 ^ places := by positivity
  have value : ((Fraction.ofBinary b.significand b.exponent).shift places).value =
      b.magnitude / 10 ^ places := by
    rw [Fraction.value_shift, Fraction.value_ofBinary]
    rfl
  have divisor := Fraction.denominator_shift_pos
    (Fraction.denominator_ofBinary_pos b.significand b.exponent) places
  unfold neighbour?
  dsimp only
  generalize (Fraction.ofBinary b.significand b.exponent).shift places = f at *
  have nearest : Nearest f.value (roundDiv f.numerator f.denominator) :=
    nearest_roundDiv f.numerator divisor
  have scaled : |count - f.value| < 1 / 2 := by
    have width : |(count - f.value) * 10 ^ places| < 1 / 2 * 10 ^ places := by
      rw [value, sub_mul, div_mul_cancel₀ _ unit.ne']
      linarith
    rw [abs_mul, abs_of_pos unit] at width
    exact lt_of_mul_lt_mul_right width unit.le
  rw [nearest.eq_of_close scaled, if_pos hit]

theorem digitsFrom_spec {m : Int} {digits : ℕ}
    (found : b.neighbour? (m - digits + 1) = some count) :
    ∀ {attempts first : ℕ}, first ≤ digits → digits < first + attempts →
      b.hits (b.digitsFrom m attempts first).2 (b.digitsFrom m attempts first).1 = true ∧
        m - digits + 1 ≤ (b.digitsFrom m attempts first).2
  | 0, first, begun, ended => absurd ended (Nat.not_lt.mpr begun)
  | attempts + 1, first, begun, ended => by
      unfold digitsFrom
      dsimp only
      split
      · next here => exact ⟨hits_of_neighbour? here, by omega⟩
      · next nothing =>
        refine digitsFrom_spec found (Nat.lt_of_le_of_ne begun ?_) (by omega)
        rintro rfl
        cases found.symm.trans nothing

theorem dropZeros_value (attempts coefficient : ℕ) (exponent : Int) :
    ((dropZeros attempts coefficient exponent).1 : ℚ) *
        10 ^ (dropZeros attempts coefficient exponent).2 = coefficient * 10 ^ exponent := by
  induction attempts generalizing coefficient exponent with
  | zero => rfl
  | succ attempts inductionHypothesis =>
      unfold dropZeros
      split
      · next ends =>
        have tens : coefficient / 10 * 10 = coefficient :=
          Nat.div_mul_cancel (Nat.dvd_of_mod_eq_zero ends.2)
        rw [inductionHypothesis, zpow_add_one₀ (by norm_num), mul_comm ((10 : ℚ) ^ exponent),
          ← mul_assoc]
        exact congrArg (· * (10 : ℚ) ^ exponent) (by exact_mod_cast tens)
      · rfl

/-- A point of the interval on the grid of the fifteenth digit is found. -/
theorem neighbour?_of_surrounds {m : Int} (full : 2 ^ 52 ≤ b.significand)
    (high : b.magnitude < 10 ^ (m + 1)) (around : b.Surrounds (count * 10 ^ (m - 14))) :
    b.neighbour? (m - (15 : ℕ) + 1) = some count := by
  have unit : (0 : ℚ) < 10 ^ (m - 14) := by positivity
  have close := around.close full
  rw [ten_pow_eq] at high
  rw [show m - (15 : ℕ) + 1 = m - 14 by push_cast; ring]
  exact neighbour?_of_hits ((b.hits_iff _ _).mpr around) (by linarith)

/-- The shortest decimal of a binary number of 53 bits denotes whatever decimal of
fifteen digits lies in the interval. -/
theorem magnitude_shortest {q : ℚ} (full : 2 ^ 52 ≤ b.significand) (around : b.Surrounds q)
    {c : ℕ} {k : Int} (brief : c < 10 ^ 15) (decimal : q = c * 10 ^ k) :
    b.shortest.magnitude = q := by
  have filled : 0 < b.significand := (Nat.pow_pos Nat.two_pos).trans_le full
  rcases Fraction.magnitude_bounds (Fraction.numerator_ofBinary_pos filled b.exponent)
    (Fraction.denominator_ofBinary_pos b.significand b.exponent) with ⟨low, high⟩
  rw [Fraction.value_ofBinary] at low high
  unfold shortest
  rw [if_neg filled.ne']
  dsimp only
  generalize (Fraction.ofBinary b.significand b.exponent).magnitude = m at *
  have close := around.close full
  rcases exists_count_of_close low close brief decimal with ⟨count, point⟩
  have found := neighbour?_of_surrounds full high (point ▸ around)
  rcases digitsFrom_spec found (by decide : 1 ≤ 15) (by decide : 15 < 1 + 17) with ⟨chosen, places⟩
  generalize b.digitsFrom m 17 1 = result at *
  unfold Decimal.magnitude
  rw [dropZeros_value]
  -- The point that is chosen is on the grid of the fifteenth digit, too.
  rcases exists_count_of_le (by omega : m - 14 ≤ result.2) result.1 with ⟨count', finer⟩
  exact eq_of_close high (((b.hits_iff _ _).mp chosen).close full) close finer point

end

/-! ## Rounding into the interval -/

section

variable {negative : Bool} {numerator denominator : ℕ} {b : Binary64}

/-- A fraction becomes the nearest number on the grid for its size, of which the
greatest significand is carried. -/
theorem ofFraction?_shape (rounded : ofFraction? negative numerator denominator = some b) :
    let e := scale numerator denominator
    let r := roundScaled numerator denominator e
    b = ⟨negative, r, e⟩ ∨ r = 2 ^ 53 ∧ b = ⟨negative, 2 ^ 52, e + 1⟩ := by
  intro e r
  unfold ofFraction? at rounded
  dsimp only at rounded
  by_cases carried : roundScaled numerator denominator (scale numerator denominator) = Nat.pow 2 53
  · rw [if_pos carried] at rounded
    split at rounded
    · cases rounded
    · cases rounded
      exact .inr ⟨carried, rfl⟩
  · rw [if_neg carried] at rounded
    split at rounded
    · cases rounded
    · cases rounded
      exact .inl rfl

/-- A multiple of a quarter of the spacing between the two bounds. -/
theorem surrounds_of_scaled {y : ℚ} (low : b.bounds.1 ≤ y) (high : y ≤ b.bounds.2)
    (even : b.bounds.1 = y ∨ y = b.bounds.2 → b.significand % 2 = 0) :
    b.Surrounds (y * 2 ^ (b.exponent - 2)) := by
  have unit : (0 : ℚ) < 2 ^ (b.exponent - 2) := by positivity
  refine ⟨mul_le_mul_of_nonneg_right low unit.le, mul_le_mul_of_nonneg_right high unit.le, ?_⟩
  rw [mul_left_inj' unit.ne', mul_left_inj' unit.ne']
  exact even

/-- What is nearest to a multiple of the spacing is surrounded by it. -/
theorem surrounds_of_nearest {x : ℚ} {r : ℕ} {e : Int} (nearest : Nearest x r) (nonneg : 0 ≤ x)
    (lower : -1074 < e → (2 : ℚ) ^ 52 ≤ x) :
    (Binary64.mk negative r e).Surrounds (4 * x * 2 ^ (e - 2)) := by
  have above := nearest.above
  have below := nearest.below
  have lowest : ((Binary64.mk negative r e).bounds.1 : ℚ) ≤ 4 * x ∧
      ((Binary64.mk negative r e).bounds.1 = 4 * x → r % 2 = 0) := by
    unfold bounds
    dsimp only
    split
    · next power =>
      rcases power with ⟨rfl, fine⟩
      have least := lower fine
      refine ⟨?_, fun _ => by decide⟩
      norm_num
      linarith
    · rcases Nat.eq_zero_or_pos r with rfl | filled
      · exact ⟨by simpa using nonneg, fun _ => rfl⟩
      · have half : ((4 * r - 2 : ℕ) : ℚ) = 4 * r - 2 := by
          rw [Nat.cast_sub (by omega)]
          push_cast
          rfl
        rw [half]
        exact ⟨by linarith, fun same => nearest.even (.inl (by linarith))⟩
  have highest : ((Binary64.mk negative r e).bounds.2 : ℚ) = 4 * r + 2 := by
    simp [bounds]
  refine surrounds_of_scaled lowest.1 (by rw [highest]; linarith) ?_
  rintro (same | same)
  · exact lowest.2 same
  · rw [highest] at same
    exact nearest.even (.inr (by linarith))

/-- The number that is carried has its lower neighbour at half the distance. -/
theorem surrounds_of_carried {x : ℚ} {e : Int} (nearest : Nearest x (2 ^ 53)) (upper : x < 2 ^ 53)
    (fine : -1074 < e + 1) :
    (Binary64.mk negative (2 ^ 52) (e + 1)).Surrounds (4 * x * 2 ^ (e - 2)) := by
  have above := nearest.above
  push_cast at above
  have ends : (Binary64.mk negative (2 ^ 52) (e + 1)).bounds =
      (4 * 2 ^ 52 - 1, 4 * 2 ^ 52 + 2) := by
    unfold bounds
    dsimp only
    rw [if_pos ⟨rfl, fine⟩]
  have half : 4 * x * (2 : ℚ) ^ (e - 2) = 2 * x * 2 ^ (e + 1 - 2) := by
    rw [add_sub_right_comm, zpow_add_one₀ two_ne_zero]
    ring
  rw [half]
  refine surrounds_of_scaled ?_ ?_ fun _ => (by norm_num : 2 ^ 52 % 2 = 0)
  · rw [ends]
    norm_num
    linarith
  · rw [ends]
    norm_num
    linarith

theorem surrounds_ofFraction? (positive : 0 < numerator) (divisor : 0 < denominator)
    (rounded : ofFraction? negative numerator denominator = some b) :
    b.Surrounds (numerator / denominator) := by
  have fits := fits_scale positive divisor
  have nearest := nearest_roundScaled numerator divisor (scale numerator denominator)
  have shape := ofFraction?_shape rounded
  dsimp only at shape
  generalize roundScaled numerator denominator (scale numerator denominator) = r at *
  generalize scale numerator denominator = e at *
  have quarter : (2 : ℚ) ^ e = 4 * 2 ^ (e - 2) := by
    rw [zpow_sub₀ two_ne_zero]
    norm_num
    ring
  have scaled : (numerator / denominator : ℚ) =
      4 * (numerator / denominator / 2 ^ e) * 2 ^ (e - 2) := by
    rw [quarter]
    field_simp
  have nonneg : (0 : ℚ) ≤ numerator / denominator / 2 ^ e := by positivity
  rw [scaled]
  rcases shape with rfl | ⟨rfl, rfl⟩
  · apply surrounds_of_nearest nearest nonneg
    intro fine
    rw [le_div_iff₀ (by positivity), ← zpow_natCast, ← zpow_add₀ two_ne_zero]
    exact fits.lower fine
  · have upper : (numerator / denominator / 2 ^ e : ℚ) < 2 ^ 53 := by
      rw [div_lt_iff₀ (by positivity), ← zpow_natCast, ← zpow_add₀ two_ne_zero]
      exact fits.upper
    exact surrounds_of_carried nearest upper (Int.lt_add_one_of_le fits.finest)

/-- A fraction that is not below the least number of 53 bits needs them all. -/
theorem full_ofFraction? (positive : 0 < numerator) (divisor : 0 < denominator)
    (rounded : ofFraction? negative numerator denominator = some b)
    (large : (2 : ℚ) ^ (-1022 : Int) ≤ numerator / denominator) : 2 ^ 52 ≤ b.significand := by
  have fits := fits_scale positive divisor
  have nearest := nearest_roundScaled numerator divisor (scale numerator denominator)
  have shape := ofFraction?_shape rounded
  dsimp only at shape
  generalize roundScaled numerator denominator (scale numerator denominator) = r at *
  generalize scale numerator denominator = e at *
  rcases shape with rfl | ⟨rfl, rfl⟩
  · have reached : (2 : ℚ) ^ (52 + e) ≤ numerator / denominator := by
      rcases fits.finest.lt_or_eq with fine | rfl
      · exact fits.lower fine
      · exact large
    have scaled : (2 : ℚ) ^ 52 ≤ numerator / denominator / 2 ^ e := by
      rwa [le_div_iff₀ (by positivity), ← zpow_natCast, ← zpow_add₀ two_ne_zero]
    have below := nearest.below
    have next : ((2 ^ 52 : ℕ) : ℚ) < (r + 1 : ℕ) := by
      push_cast
      linarith
    exact Nat.lt_succ_iff.mp (Nat.cast_lt.mp next)
  · exact le_rfl

end

/-! ## Decimals of fifteen digits -/

variable {d : Decimal} {b : Binary64}

/-- A decimal that is not below the least number of 53 bits lies in the interval of
a number of 53 bits. -/
theorem surrounds_ofDecimal? (rounded : ofDecimal? d = some b)
    (large : (2 : ℚ) ^ (-1022 : Int) ≤ d.magnitude) :
    b.Surrounds d.magnitude ∧ 2 ^ 52 ≤ b.significand := by
  rcases (ofDecimal?_eq_some rounded).2 with
    ⟨tiny, _⟩ | ⟨_, numerator, denominator, positive, divisor, same, fraction⟩
  · have least : (2 : ℚ) ^ (-1074 : Int) ≤ 2 ^ (-1022 : Int) :=
      zpow_le_zpow_right₀ one_le_two (by decide)
    linarith [ten_pow_le_least_width]
  · rw [← same]
    rw [← same] at large
    exact ⟨surrounds_ofFraction? positive divisor fraction,
      full_ofFraction? positive divisor fraction large⟩

theorem shortest_negative (b : Binary64) : b.shortest.negative = b.negative := by
  unfold shortest
  split <;> rfl

/-- The shortest decimal of the nearest binary number has the value of a brief
decimal. -/
theorem value_shortest_of_brief (rounded : ofDecimal? d = some b) (brief : d.Brief) :
    b.shortest.value = d.value := by
  have same : b.shortest.magnitude = d.magnitude := by
    rcases brief.large with zero | large
    · have none : b.significand = 0 := by
        have nothing := magnitude_ofDecimal?_eq_zero rounded zero
        have unit : (2 : ℚ) ^ b.exponent ≠ 0 := by positivity
        exact_mod_cast (mul_eq_zero.mp nothing).resolve_right unit
      rw [zero, Decimal.magnitude_eq_zero, shortest, if_pos none]
    · rcases brief.digits with ⟨c, k, few, decimal⟩
      rcases surrounds_ofDecimal? rounded large with ⟨around, full⟩
      exact magnitude_shortest full around few decimal
  unfold Decimal.value
  rw [shortest_negative, (ofDecimal?_eq_some rounded).1, same]

end Binary64
end RowGate
