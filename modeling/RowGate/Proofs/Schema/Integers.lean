import RowGate.Proofs.Decimal.Shortest
import RowGate.Proofs.Decimal.Spelling
import RowGate.Proofs.Schema.Forms
import RowGate.Proofs.Store.Numbers

namespace RowGate

/-!
# Integers of columns

A column of integers takes a text if it spells an integer of 64 bits, and stores
that integer.  It takes a number that is written without point and exponent in the
same way.  Any other number goes through its nearest binary number, which may be an
integer though the number is none, or another integer than the number is.  So what
is stored is exact unless a number is misread in one of these ways.

No integer up to 2 to the power 53 is misread, and no other number of at most
fifteen digits, unless it is tiny.
-/

/-! ## Whole numbers and rounding -/

theorem Decimal.magnitude_eq_natAbs {d : Decimal} {i : Int} (whole : d.value = i) :
    d.magnitude = i.natAbs := by
  rw [← d.abs_value, whole, Nat.cast_natAbs, Int.cast_abs]

namespace Binary64

variable {d : Decimal} {b : Binary64}

theorem magnitude_eq_natAbs {i : Int} (whole : b.value = i) : b.magnitude = i.natAbs := by
  rw [← b.abs_value, whole, Nat.cast_natAbs, Int.cast_abs]

theorem exists_value_eq_intCast (rounded : ofDecimal? d = some b) {i : Int} (whole : d.value = i) :
    ∃ j : Int, b.value = j := by
  rcases exists_magnitude_eq_natCast rounded (Decimal.magnitude_eq_natAbs whole) with ⟨k, size⟩
  unfold value
  rw [size]
  split
  · exact ⟨-k, by push_cast; rfl⟩
  · exact ⟨k, by push_cast; rfl⟩

/-- A power of two does not lie between a decimal and its nearest binary number. -/
theorem magnitude_two_pow (rounded : ofDecimal? d = some b) {k : ℕ} (moderate : k ≤ 100) :
    (d.magnitude ≤ 2 ^ k → b.magnitude ≤ 2 ^ k) ∧ (2 ^ k ≤ d.magnitude → 2 ^ k ≤ b.magnitude) := by
  have power : (⟨false, 2 ^ k, 0⟩ : Decimal).magnitude = 2 ^ k := by
    simp [Decimal.magnitude]
  rcases exists_ofDecimal?_of_le moderate power.le with ⟨p, found⟩
  have kept : p.magnitude = 2 ^ k := by
    have value := value_ofDecimal?_of_narrow (m := 1) (k := k) found (by norm_num) (by omega)
      (by rw [power]; simp)
    rw [← p.abs_value, value, Decimal.abs_value, power]
  constructor
  · intro le
    rw [← kept]
    exact magnitude_ofDecimal?_mono rounded found (le.trans_eq power.symm)
  · intro le
    rw [← kept]
    exact magnitude_ofDecimal?_mono found rounded (power.trans_le le)

end Binary64

/-! ## Numbers -/

namespace Json
namespace Number

variable {n : Number} {i : Int}

theorem value_of_plainInt? (written : n.plainInt? = some i) : n.value = i := by
  unfold plainInt? at written
  split at written
  · next plain =>
    have decimal : n.decimal = ⟨n.negative, Digits.value n.whole, 0⟩ := by
      simp [Number.decimal, plain.1, plain.2]
    cases written
    rw [value, decimal]
    unfold Decimal.value Decimal.magnitude
    cases n.negative <;> simp
  · cases written

/-- A number with a point or an exponent is misread if its nearest binary number is
another integer of less than 64 bits, or if it is an integer of 64 bits itself but
the binary number is not. -/
def Misread (n : Number) : Prop :=
  n.plainInt? = none ∧ ∃ (b : Binary64) (i : Int), n.binary? = some b ∧
    (b.value = i ∧ i.natAbs < 2 ^ 63 ∧ n.value ≠ i ∨
      n.value = i ∧ ColumnType.inRange i = true ∧ |b.value| = 2 ^ 63)

end Number
end Json

namespace ColumnType

open Json (Number)

variable {n : Number} {i : Int}

theorem inRange_iff_bounds :
    inRange i = true ↔ Bounded.minInt64 ≤ i ∧ i ≤ Bounded.maxInt64 := by
  rw [inRange, Bool.and_eq_true, decide_eq_true_eq, decide_eq_true_eq]

theorem inRange_iff : inRange i = true ↔ -2 ^ 63 ≤ i ∧ i < 2 ^ 63 := by
  rw [inRange_iff_bounds]
  unfold Bounded.minInt64 Bounded.maxInt64
  omega

/-- A number that is not taken as it is written is taken as its nearest binary
number. -/
theorem integerOfNumber?_of_filtered (passed : n.plainInt?.filter inRange = none) :
    integerOfNumber? n = some i ↔
      ∃ b, n.binary? = some b ∧ b.value = i ∧ i.natAbs < 2 ^ 63 := by
  unfold integerOfNumber?
  rw [passed]
  simp only [Option.filter_eq_some_iff, Option.bind_eq_some_iff, Binary64.toInt?_eq_some_iff,
    decide_eq_true_eq]
  constructor
  · rintro ⟨⟨b, found, same⟩, small⟩
    exact ⟨b, found, same, small⟩
  · rintro ⟨b, found, same, small⟩
    exact ⟨⟨b, found, same⟩, small⟩

/-- An integer that is written out is taken if it has 64 bits.  If it has more, its
nearest binary number is too large, too. -/
theorem integerOfNumber?_of_plain {j : Int} (written : n.plainInt? = some j) :
    integerOfNumber? n = some i ↔ j = i ∧ inRange j = true := by
  cases fits : inRange j with
  | true =>
      have taken : n.plainInt?.filter inRange = some j := by
        rw [written, Option.filter_some, if_pos fits]
      unfold integerOfNumber?
      rw [taken]
      simp
  | false =>
      have passed : n.plainInt?.filter inRange = none := by
        rw [written, Option.filter_some, fits]
        rfl
      rw [integerOfNumber?_of_filtered passed]
      refine iff_of_false ?_ (by simp)
      rintro ⟨b, found, same, small⟩
      have wide : 2 ^ 63 ≤ j.natAbs := by
        have outside := inRange_iff.not.mp (Bool.eq_false_iff.mp fits)
        omega
      have size : n.decimal.magnitude = j.natAbs :=
        Decimal.magnitude_eq_natAbs (Json.Number.value_of_plainInt? written)
      have large : (2 : ℚ) ^ 63 ≤ b.magnitude := by
        refine (Binary64.magnitude_two_pow found (by decide)).2 ?_
        rw [size]
        exact_mod_cast wide
      rw [Binary64.magnitude_eq_natAbs same] at large
      exact absurd (by exact_mod_cast large) (Nat.not_le.mpr small)

/-- A whole number of 64 bits is rounded to a whole number. -/
theorem exists_binary_of_inRange (whole : n.value = i) (fits : inRange i = true) :
    ∃ (b : Binary64) (j : Int), n.binary? = some b ∧ b.value = j ∧ j.natAbs ≤ 2 ^ 63 := by
  have range := inRange_iff.mp fits
  have most : n.decimal.magnitude ≤ 2 ^ 63 := by
    rw [Decimal.magnitude_eq_natAbs whole]
    exact_mod_cast (by omega : i.natAbs ≤ 2 ^ 63)
  rcases Binary64.exists_ofDecimal?_of_le (by decide) most with ⟨b, found⟩
  rcases Binary64.exists_value_eq_intCast found whole with ⟨j, same⟩
  refine ⟨b, j, found, same, ?_⟩
  have upper := (Binary64.magnitude_two_pow found (by decide)).1 most
  rw [Binary64.magnitude_eq_natAbs same] at upper
  exact_mod_cast upper

/-- All integers of 64 bits and no other numbers are taken, and as what they are,
unless the number is misread. -/
theorem integerOfNumber?_exact_iff :
    (∀ i, integerOfNumber? n = some i ↔ n.value = i ∧ inRange i = true) ↔ ¬ n.Misread := by
  cases written : n.plainInt? with
  | some j =>
      refine iff_of_true (fun i => ?_) fun misread => by cases written.symm.trans misread.1
      rw [integerOfNumber?_of_plain written, Json.Number.value_of_plainInt? written, Int.cast_inj]
      constructor
      · rintro ⟨rfl, fits⟩
        exact ⟨rfl, fits⟩
      · rintro ⟨rfl, fits⟩
        exact ⟨rfl, fits⟩
  | none =>
      have taken : ∀ i, integerOfNumber? n = some i ↔
          ∃ b, n.binary? = some b ∧ b.value = i ∧ i.natAbs < 2 ^ 63 := fun i =>
        integerOfNumber?_of_filtered (by rw [written]; rfl)
      constructor
      · rintro faithful ⟨_, b, i, found, ⟨same, small, other⟩ | ⟨whole, fits, large⟩⟩
        · exact other ((faithful i).mp ((taken i).mpr ⟨b, found, same, small⟩)).1
        · rcases (taken i).mp ((faithful i).mpr ⟨whole, fits⟩) with ⟨_, again, same, small⟩
          cases found.symm.trans again
          rw [b.abs_value, Binary64.magnitude_eq_natAbs same] at large
          exact absurd (by exact_mod_cast large) small.ne
      · intro read i
        rw [taken]
        constructor
        · rintro ⟨b, found, same, small⟩
          have whole : n.value = i := by
            by_contra other
            exact read ⟨written, b, i, found, .inl ⟨same, small, other⟩⟩
          exact ⟨whole, inRange_iff.mpr (by omega)⟩
        · rintro ⟨whole, fits⟩
          rcases exists_binary_of_inRange whole fits with ⟨b, j, found, same, bounded⟩
          have inside : j.natAbs ≠ 2 ^ 63 := by
            intro edge
            refine read ⟨written, b, i, found, .inr ⟨whole, fits, ?_⟩⟩
            rw [b.abs_value, Binary64.magnitude_eq_natAbs same, edge]
            push_cast
            rfl
          have small : j.natAbs < 2 ^ 63 := Nat.lt_of_le_of_ne bounded inside
          have unchanged : j = i := by
            by_contra other
            refine read ⟨written, b, j, found, .inl ⟨same, small, fun moved => other ?_⟩⟩
            exact_mod_cast moved.symm.trans whole
          subst unchanged
          exact ⟨b, found, same, small⟩

/-! ## Numbers that are not misread -/

/-- A brief decimal is an integer if its nearest binary number is one. -/
theorem whole_of_brief {d : Decimal} {b : Binary64} (rounded : Binary64.ofDecimal? d = some b)
    (brief : d.Brief) (whole : b.value = i) : ∃ m : ℕ, d.magnitude = m := by
  rcases brief.digits with ⟨c, k, few, decimal⟩
  by_cases up : 0 ≤ k
  · refine ⟨c * Nat.pow 10 k.toNat, ?_⟩
    rw [decimal, Nat.cast_mul, cast_pow_toNat 10 up]
    rfl
  rcases brief.large with zero | large
  · exact ⟨0, by rw [zero, Nat.cast_zero]⟩
  · -- The integer has no more than fifteen digits either, so both are the shortest decimal.
    rcases Binary64.surrounds_ofDecimal? rounded large with ⟨around, full⟩
    have integer := Binary64.magnitude_eq_natAbs whole
    have below : d.magnitude ≤ 10 ^ 14 := by
      have tenth : (10 : ℚ) ^ k ≤ 10 ^ (-1 : Int) := zpow_le_zpow_right₀ (by norm_num) (by omega)
      have cut : (c : ℚ) ≤ 10 ^ 15 := by exact_mod_cast few.le
      rw [decimal]
      calc
        (c : ℚ) * 10 ^ k ≤ 10 ^ 15 * 10 ^ (-1 : Int) :=
          mul_le_mul cut tenth (by positivity) (by positivity)
        _ = 10 ^ 14 := by norm_num
    have few' : i.natAbs < 10 ^ 15 := by
      have close := around.close full
      have above := neg_abs_le (d.magnitude - b.magnitude)
      have size : b.magnitude < 10 ^ 15 := by linarith
      rw [integer] at size
      exact_mod_cast size
    have self : b.Surrounds b.magnitude :=
      Binary64.surrounds_magnitude ((Nat.pow_pos Nat.two_pos).trans_le full).ne'
    refine ⟨i.natAbs, ?_⟩
    rw [← Binary64.magnitude_shortest full around few decimal, ← integer]
    exact Binary64.magnitude_shortest full self few' (k := 0) (by rw [integer, zpow_zero, mul_one])

theorem not_misread_of_small (whole : n.value = i) (small : i.natAbs ≤ 2 ^ 53) : ¬ n.Misread := by
  have size := Decimal.magnitude_eq_natAbs whole
  have kept : ∀ {b : Binary64}, n.binary? = some b → b.value = i := by
    intro b found
    rw [← whole]
    rcases Nat.lt_or_eq_of_le small with narrow | edge
    · exact Binary64.value_ofDecimal?_of_narrow (k := 0) found narrow (by decide)
        (by simpa using size)
    · refine Binary64.value_ofDecimal?_of_narrow (m := 1) (k := 53) found (by norm_num)
        (by decide) ?_
      rw [size, edge]
      norm_num
  rintro ⟨_, b, j, found, ⟨same, _, other⟩ | ⟨_, _, large⟩⟩
  · exact other (whole.trans ((kept found).symm.trans same))
  · rw [b.abs_value, Binary64.magnitude_eq_natAbs (kept found)] at large
    have edge : i.natAbs = 2 ^ 63 := by exact_mod_cast large
    omega

theorem not_misread_of_brief (brief : n.decimal.Brief) (fractional : ∀ i : Int, n.value ≠ i) :
    ¬ n.Misread := by
  rintro ⟨_, b, j, found, ⟨same, _, _⟩ | ⟨whole, _⟩⟩
  · rcases whole_of_brief found brief same with ⟨m, size⟩
    refine fractional (if n.decimal.negative then -m else m) ?_
    unfold Json.Number.value Decimal.value
    rw [size]
    split <;> simp
  · exact fractional j whole

/-! ## Columns -/

/-- An integer is known by the number that writes it. -/
theorem exists_ofInt_iff {P : Int → Prop} : (∃ j, Json.ofInt i = .ofInt j ∧ P j) ↔ P i := by
  constructor
  · rintro ⟨j, same, holds⟩
    have written := congrArg Json.Number.plainInt? (Json.number.inj same)
    rw [Json.Number.plainInt?_ofInt, Json.Number.plainInt?_ofInt] at written
    cases written
    exact holds
  · exact fun holds => ⟨i, rfl, holds⟩

theorem coerce?_integer_number {stored : Json} :
    integer.coerce? (.number n) = some stored ↔
      ∃ i, stored = .ofInt i ∧ integerOfNumber? n = some i := by
  change (integerOfNumber? n).map Json.ofInt = _ ↔ _
  rw [Option.map_eq_some_iff]
  exact exists_congr fun i => and_comm.trans (and_congr_left' eq_comm)

theorem coerce?_integer_string {s : String} {stored : Json} :
    integer.coerce? (.string s) = some stored ↔
      ∃ i : Int, stored = .ofInt i ∧ Spelling.OfInt (Text.trimmed s.toList) i ∧
        inRange i = true := by
  change (integerOfText? s).map Json.ofInt = _ ↔ _
  rw [Option.map_eq_some_iff]
  refine exists_congr fun i => ?_
  rw [integerOfText?, Spelling.signed?_eq_some_iff, ← inRange_iff_bounds]
  exact and_comm.trans (and_congr_left' eq_comm)

end ColumnType

/-- Coercion to an integer is exact for a number if and only if it is not misread,
as no integer up to 2 to the power 53 and no brief fraction is.  For a text it is
exact. -/
theorem integers_read_exactly_iff (n : Json.Number) (s : String) :
    ((∀ stored, ColumnType.integer.coerce? (.number n) = some stored ↔
        ∃ i : Int, stored = .ofInt i ∧ n.value = i ∧ ColumnType.inRange i = true) ↔ ¬ n.Misread) ∧
    (∀ i : Int, n.value = i → i.natAbs ≤ 2 ^ 53 → ¬ n.Misread) ∧
    (n.decimal.Brief → (∀ i : Int, n.value ≠ i) → ¬ n.Misread) ∧
    ∀ stored, ColumnType.integer.coerce? (.string s) = some stored ↔
      ∃ i : Int, stored = .ofInt i ∧ Spelling.OfInt (Text.trimmed s.toList) i ∧
        ColumnType.inRange i = true := by
  refine ⟨?_, fun _ => ColumnType.not_misread_of_small, ColumnType.not_misread_of_brief,
    fun _ => ColumnType.coerce?_integer_string⟩
  rw [← ColumnType.integerOfNumber?_exact_iff]
  constructor
  · intro faithful i
    have taken := faithful (.ofInt i)
    rwa [ColumnType.coerce?_integer_number, ColumnType.exists_ofInt_iff,
      ColumnType.exists_ofInt_iff] at taken
  · intro faithful stored
    rw [ColumnType.coerce?_integer_number]
    exact exists_congr fun i => and_congr_right' (faithful i)

/-- Written with a point, one integer of 64 bits is stored as its predecessor and
another is refused, and a fraction is stored as an integer. -/
theorem pointed_integer_rounded :
    let read (s : String) := (Json.Number.read? s).map Json.Number.decimal
    let coerced (s : String) :=
      (Json.Number.read? s).map fun n => ColumnType.integer.coerce? (.number n)
    (read "9007199254740993.0" = some ⟨false, 90071992547409930, -1⟩ ∧
        (⟨false, 90071992547409930, -1⟩ : Decimal).value = 9007199254740993 ∧
        coerced "9007199254740993.0" = some (some (.ofInt 9007199254740992))) ∧
      (read "-9223372036854775808.0" = some ⟨true, 92233720368547758080, -1⟩ ∧
        (⟨true, 92233720368547758080, -1⟩ : Decimal).value = -9223372036854775808 ∧
        coerced "-9223372036854775808.0" = some none) ∧
      (read "0.99999999999999999999" = some ⟨false, 99999999999999999999, -20⟩ ∧
        (⟨false, 99999999999999999999, -20⟩ : Decimal).value < 1 ∧
        coerced "0.99999999999999999999" = some (some (.ofInt 1))) := by
  refine ⟨⟨by decide +kernel, ?_, by decide +kernel⟩, ⟨by decide +kernel, ?_, by decide +kernel⟩,
    by decide +kernel, ?_, by decide +kernel⟩
  · norm_num [Decimal.value, Decimal.magnitude]
  · norm_num [Decimal.value, Decimal.magnitude]
  · norm_num [Decimal.value, Decimal.magnitude]

end RowGate
