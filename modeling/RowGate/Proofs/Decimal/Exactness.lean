import RowGate.Proofs.Decimal.Rounding

namespace RowGate

/-!
# What rounding keeps

Every decimal below 2 to the power 1023 has a nearest binary number.  A decimal
whose value needs no more than 53 bits is that number, and a whole number is
rounded to a whole number: on a grid of a width below one nothing has to be
rounded, and on any other grid all points are whole.
-/

theorem Decimal.abs_value (d : Decimal) : |d.value| = d.magnitude := by
  unfold value
  split
  · rw [abs_neg, abs_of_nonneg d.magnitude_nonneg]
  · rw [abs_of_nonneg d.magnitude_nonneg]

namespace Binary64

theorem abs_value (b : Binary64) : |b.value| = b.magnitude := by
  unfold value
  split
  · rw [abs_neg, abs_of_nonneg b.magnitude_nonneg]
  · rw [abs_of_nonneg b.magnitude_nonneg]

/-! ## Decimals that have a nearest binary number -/

theorem ten_pow_le_two_pow : (10 : ℚ) ^ (300 : Int) ≤ 2 ^ (1000 : Int) := by
  have thousand : ((10 : ℚ) ^ 3) ^ 100 ≤ (2 ^ 10) ^ 100 :=
    pow_le_pow_left₀ (by norm_num) (by norm_num) 100
  rw [← pow_mul, ← pow_mul] at thousand
  rw [show (300 : Int) = (3 * 100 : ℕ) from rfl, show (1000 : Int) = (10 * 100 : ℕ) from rfl,
    zpow_natCast, zpow_natCast]
  exact thousand

theorem exists_ofFraction? (negative : Bool) {numerator denominator : ℕ}
    (positive : 0 < numerator) (divisor : 0 < denominator)
    (small : (numerator / denominator : ℚ) < 10 ^ (300 : Int)) :
    ∃ b, ofFraction? negative numerator denominator = some b := by
  have fits := fits_scale positive divisor
  have bounded : scale numerator denominator ≤ 970 := by
    by_contra large
    have lower := (fits.lower (by omega)).trans_lt (small.trans_le ten_pow_le_two_pow)
    have exponents := (zpow_lt_zpow_iff_right₀ one_lt_two).mp lower
    omega
  unfold ofFraction?
  dsimp only
  generalize scale numerator denominator = e at *
  generalize roundScaled numerator denominator e = r
  by_cases carried : r = Nat.pow 2 53
  · rw [if_pos carried, if_neg (by dsimp only; omega)]
    exact ⟨_, rfl⟩
  · rw [if_neg carried, if_neg (by dsimp only; omega)]
    exact ⟨_, rfl⟩

/-- No decimal with at most 300 digits before the point is too large. -/
theorem exists_ofDecimal? {d : Decimal} (small : d.magnitude < 10 ^ (300 : Int)) :
    ∃ b, ofDecimal? d = some b := by
  unfold ofDecimal?
  split
  · exact ⟨_, rfl⟩
  · next filled =>
    have low := (place_bounds filled).1.trans_lt small
    have place := (zpow_lt_zpow_iff_right₀ (by norm_num)).mp low
    dsimp only
    split
    · next far => omega
    · split
      · exact ⟨_, rfl⟩
      · split
        · next up =>
          refine exists_ofFraction? _ ?_ one_pos ?_
          · exact Nat.mul_pos (Nat.pos_of_ne_zero filled) (Nat.pow_pos (by decide))
          · rw [Nat.cast_mul, cast_pow_toNat 10 up]
            simpa [Decimal.magnitude] using small
        · next down =>
          refine exists_ofFraction? _ (Nat.pos_of_ne_zero filled) (Nat.pow_pos (by decide)) ?_
          rw [cast_pow_toNat 10 (by omega), zpow_neg, div_inv_eq_mul]
          simpa [Decimal.magnitude] using small

theorem exists_ofDecimal?_of_le {d : Decimal} {k : ℕ} (moderate : k ≤ 100)
    (small : d.magnitude ≤ 2 ^ k) : ∃ b, ofDecimal? d = some b := by
  apply exists_ofDecimal?
  calc
    d.magnitude ≤ 2 ^ 100 := small.trans (pow_le_pow_right₀ one_le_two moderate)
    _ < 10 ^ (31 : Int) := by norm_num
    _ ≤ 10 ^ (300 : Int) := zpow_le_zpow_right₀ (by norm_num) (by decide)

/-! ## Values on the grid -/

theorem ten_pow_le_least_width : (10 : ℚ) ^ (-331 : Int) ≤ 2 ^ (-1074 : Int) := by
  have power : ((2 : ℚ) ^ 49) ^ 22 ≤ (10 ^ 15) ^ 22 :=
    pow_le_pow_left₀ (by norm_num) (by norm_num) 22
  rw [← pow_mul, ← pow_mul] at power
  have wider : (2 : ℚ) ^ 1074 ≤ 10 ^ 331 :=
    (pow_le_pow_right₀ one_le_two (by decide)).trans
      (power.trans (pow_le_pow_right₀ (by norm_num) (by decide)))
  rw [zpow_neg, zpow_neg]
  refine inv_anti₀ (by positivity) ?_
  exact_mod_cast wider

/-- A natural number that is closer than a half is the nearest. -/
theorem Nearest.eq_of_close {x : ℚ} {r count : ℕ} (nearest : Nearest x r)
    (close : |count - x| < 1 / 2) : r = count := by
  rw [abs_lt] at close
  have above : (r : ℚ) < (count + 1 : ℕ) := by
    push_cast
    linarith [nearest.above]
  have below : (count : ℚ) < (r + 1 : ℕ) := by
    push_cast
    linarith [nearest.below]
  have upper := Nat.cast_lt.mp above
  have lower := Nat.cast_lt.mp below
  omega

section

variable {negative : Bool} {numerator denominator : ℕ} {b : Binary64}

/-- A fraction on its own grid is not rounded. -/
theorem magnitude_ofFraction?_of_onGrid (divisor : 0 < denominator)
    (rounded : ofFraction? negative numerator denominator = some b) {m : ℕ}
    (onGrid : (numerator / denominator : ℚ) = m * 2 ^ scale numerator denominator) :
    b.magnitude = numerator / denominator := by
  have unit : (2 : ℚ) ^ scale numerator denominator ≠ 0 := by positivity
  have nearest := nearest_roundScaled numerator divisor (scale numerator denominator)
  rw [onGrid, mul_div_cancel_right₀ _ unit] at nearest
  have whole : roundScaled numerator denominator (scale numerator denominator) = m :=
    nearest.eq_of_close (by simp)
  rw [(ofFraction?_eq_some rounded).2, whole, onGrid]

/-- A value of at most 53 bits is on the grid for its size. -/
theorem exists_onGrid (positive : 0 < numerator) (divisor : 0 < denominator) {m : ℕ} {k : Int}
    (narrow : m < 2 ^ 53) (fine : -1074 ≤ k) (value : (numerator / denominator : ℚ) = m * 2 ^ k) :
    ∃ points : ℕ, (numerator / denominator : ℚ) =
      points * 2 ^ scale numerator denominator := by
  have fits := fits_scale positive divisor
  have unit : (0 : ℚ) < 2 ^ k := by positivity
  have finer : scale numerator denominator ≤ k := by
    by_contra coarser
    have lower := fits.lower (by omega)
    have upper : (m : ℚ) * 2 ^ k < 2 ^ (53 + k) := by
      rw [zpow_add₀ two_ne_zero]
      refine mul_lt_mul_of_pos_right ?_ unit
      exact_mod_cast narrow
    rw [value] at lower
    have exponents := (zpow_lt_zpow_iff_right₀ one_lt_two).mp (lower.trans_lt upper)
    omega
  refine ⟨m * Nat.pow 2 (k - scale numerator denominator).toNat, ?_⟩
  rw [value, Nat.cast_mul, cast_pow_toNat 2 (by omega), Nat.cast_ofNat, mul_assoc,
    ← zpow_add₀ two_ne_zero, sub_add_cancel]

end

/-! ## Decimals -/

variable {d : Decimal} {b : Binary64}

theorem value_eq_of_magnitude_eq (rounded : ofDecimal? d = some b)
    (same : b.magnitude = d.magnitude) : b.value = d.value := by
  unfold value Decimal.value
  rw [(ofDecimal?_eq_some rounded).1, same]

/-- A decimal of at most 53 bits is its nearest binary number. -/
theorem value_ofDecimal?_of_narrow (rounded : ofDecimal? d = some b) {m : ℕ} {k : Int}
    (narrow : m < 2 ^ 53) (fine : -1074 ≤ k) (value : d.magnitude = m * 2 ^ k) :
    b.value = d.value := by
  apply value_eq_of_magnitude_eq rounded
  rcases (ofDecimal?_eq_some rounded).2 with
    ⟨tiny, zero⟩ | ⟨_, numerator, denominator, positive, divisor, same, fraction⟩
  · -- Less than the least width means no point but zero.
    have unit : (2 : ℚ) ^ (-1074 : Int) ≤ 2 ^ k := zpow_le_zpow_right₀ one_le_two fine
    have none : m = 0 := by
      by_contra some
      have one : (1 : ℚ) ≤ m := by exact_mod_cast Nat.one_le_iff_ne_zero.mpr some
      have points : (2 : ℚ) ^ k ≤ m * 2 ^ k := le_mul_of_one_le_left (by positivity) one
      rw [value] at tiny
      linarith [ten_pow_le_least_width]
    rw [zero, value, none, Nat.cast_zero, zero_mul]
  · rcases exists_onGrid positive divisor narrow fine (same.trans value) with ⟨_, onGrid⟩
    rw [magnitude_ofFraction?_of_onGrid divisor fraction onGrid, same]

/-- A whole number is rounded to a whole number. -/
theorem exists_magnitude_eq_natCast (rounded : ofDecimal? d = some b) {m : ℕ}
    (whole : d.magnitude = m) : ∃ k : ℕ, b.magnitude = k := by
  rcases (ofDecimal?_eq_some rounded).2 with
    ⟨_, zero⟩ | ⟨_, numerator, denominator, positive, divisor, same, fraction⟩
  · exact ⟨0, by rw [zero, Nat.cast_zero]⟩
  · by_cases narrow : m < 2 ^ 53
    · have value : (numerator / denominator : ℚ) = m * 2 ^ (0 : Int) := by
        rw [same, whole, zpow_zero, mul_one]
      rcases exists_onGrid positive divisor narrow (by decide) value with ⟨_, onGrid⟩
      exact ⟨m, by rw [magnitude_ofFraction?_of_onGrid divisor fraction onGrid, same, whole]⟩
    · have fits := fits_scale positive divisor
      have large : (2 : ℚ) ^ (53 : Int) ≤ m := by
        exact_mod_cast not_lt.mp narrow
      have wide : (2 : ℚ) ^ (53 : Int) < 2 ^ (53 + scale numerator denominator) := by
        refine large.trans_lt ?_
        rw [← whole, ← same]
        exact fits.upper
      have exponents := (zpow_lt_zpow_iff_right₀ one_lt_two).mp wide
      refine ⟨roundScaled numerator denominator (scale numerator denominator) *
        Nat.pow 2 (scale numerator denominator).toNat, ?_⟩
      rw [(ofFraction?_eq_some fraction).2, Nat.cast_mul, cast_pow_toNat 2 (by omega),
        Nat.cast_ofNat]

/-! ## Whole binary numbers -/

/-- The integer of a binary number is its value. -/
theorem toInt?_eq_some_iff {i : Int} : b.toInt? = some i ↔ b.value = i := by
  unfold toInt?
  split
  · next up =>
    rw [value_eq_scaledTo b up, zpow_zero, mul_one, Option.some_inj, Int.cast_inj]
  · next down =>
    have divisor : 0 < Nat.pow 2 (-b.exponent).toNat := Nat.pow_pos Nat.two_pos
    have unit : (0 : ℚ) < (Nat.pow 2 (-b.exponent).toNat : ℕ) := by exact_mod_cast divisor
    have quotient : b.magnitude = b.significand / (Nat.pow 2 (-b.exponent).toNat : ℕ) := by
      rw [cast_pow_toNat 2 (by omega), zpow_neg, div_inv_eq_mul]
      rfl
    have divided := Nat.div_add_mod b.significand (Nat.pow 2 (-b.exponent).toNat)
    dsimp only
    generalize Nat.pow 2 (-b.exponent).toNat = width at *
    split
    · next even =>
      have whole : b.magnitude = (b.significand / width : ℕ) := by
        rw [quotient, div_eq_iff unit.ne']
        exact_mod_cast (Nat.div_mul_cancel (Nat.dvd_of_mod_eq_zero even)).symm
      unfold value
      rw [whole, Option.some_inj]
      generalize b.significand / width = k
      split <;> exact ⟨fun same => by exact_mod_cast congrArg (Int.cast : Int → ℚ) same,
        fun same => by exact_mod_cast same⟩
    · next odd =>
      refine iff_of_false nofun fun same => odd ?_
      have absolute : b.magnitude = i.natAbs := by
        rw [← b.abs_value, same, Nat.cast_natAbs, Int.cast_abs]
      rw [quotient, div_eq_iff unit.ne'] at absolute
      have product : b.significand = i.natAbs * width := by exact_mod_cast absolute
      rw [product, Nat.mul_mod_left]

end Binary64
end RowGate
