import RowGate.Proofs.Decimal.Shortest
import RowGate.Proofs.Decimal.Spelling
import RowGate.Proofs.Store.Numbers
import RowGate.Proofs.Time.Reading

namespace RowGate

/-!
# Decimals of columns

A column of decimals stores a number as it is.  It takes a text if it spells a
decimal.  A text that is a JSON number is stored with every digit.  Any other
spelling, such as one with a plus sign, goes through the nearest binary number, and
what is stored is the shortest decimal of that.  It has the same value for all
decimals of at most fifteen digits that are not tiny, but not for all decimals.
-/

/-! ## The text of a binary number -/

namespace Json
namespace Number

theorem decimal_ofDigits (negative : Bool) (whole fraction : List Digit)
    (exponent : Option Exponent) :
    (ofDigits negative whole fraction exponent).decimal =
      ⟨negative, Digits.value (whole ++ fraction),
        (exponent.map Exponent.value).getD 0 - fraction.length⟩ := by
  simp only [decimal, ofDigits, Digits.value_append, Digits.value_ofNat]

/-- The exponent of a place is written with its sign. -/
theorem exponent_value (place : Int) :
    (Exponent.mk (decide (place < 0)) (Digits.ofNat place.natAbs)
      (Digits.ofNat_ne_nil _)).value = place := by
  unfold Exponent.value
  dsimp only
  rw [Digits.value_ofNat]
  split
  · next negative =>
    rw [decide_eq_true_eq] at negative
    omega
  · next positive =>
    rw [decide_eq_true_eq] at positive
    omega

/-- However the digits are set out, the text denotes the shortest decimal. -/
theorem value_ofBinary (b : Binary64) : (ofBinary b).value = b.shortest.value := by
  unfold ofBinary
  extract_lets shortest digits place
  have sign : shortest.negative = b.negative := b.shortest_negative
  have filled : 1 ≤ digits.length := List.length_pos_iff.mpr (Digits.ofNat_ne_nil _)
  have value : Digits.value digits = shortest.coefficient := Digits.value_ofNat _
  have same : place = (digits.length : Int) - 1 + shortest.exponent := rfl
  -- The decimal of the digits has to be the one that they are taken from.
  have kept : ∀ {whole fraction : List Digit} {exponent : Option Exponent},
      (Digits.value (whole ++ fraction) : ℚ) *
          10 ^ ((exponent.map Exponent.value).getD 0 - fraction.length) = shortest.magnitude →
      (ofDigits b.negative whole fraction exponent).value = shortest.value := by
    intro whole fraction exponent unchanged
    rw [Number.value, decimal_ofDigits]
    unfold Decimal.value
    rw [sign, ← unchanged]
    rfl
  split
  · next zero =>
    apply kept
    rw [Decimal.magnitude_eq_zero.mpr zero, Digits.value_zeros_append]
    simp [Digits.zeros, Digits.value, Digits.valueFrom]
  split
  · split
    · next up =>
      apply kept
      rw [Digits.value_append_zeros, Digits.value_append_zeros, value, Nat.cast_mul, Nat.cast_mul,
        cast_pow_toNat 10 up]
      simp [Digits.zeros, Decimal.magnitude]
    · next down =>
      split
      · next before =>
        apply kept
        have places : ((digits.drop (place.toNat + 1)).length : Int) = -shortest.exponent := by
          rw [List.length_drop]
          omega
        rw [List.take_append_drop, value, places]
        simp [Decimal.magnitude]
      · next behind =>
        apply kept
        have places : ((Digits.zeros (-place - 1).toNat ++ digits).length : Int) =
            -shortest.exponent := by
          rw [List.length_append, Digits.zeros, List.length_replicate]
          omega
        rw [Digits.value_zeros_append, Digits.value_zeros_append, value, places]
        simp [Decimal.magnitude]
  · apply kept
    have places : place - ((digits.drop 1).length : Int) = shortest.exponent := by
      rw [List.length_drop]
      omega
    rw [List.take_append_drop, value, Option.map_some, Option.getD_some, exponent_value, places]
    rfl

end Number
end Json

/-! ## Texts -/

namespace ColumnType

open Spelling (OfDecimal)

variable {s : String} {d : Decimal} {m : Json.Number}

theorem toList_trim (s : String) : (Text.trim s).toList = Text.trimmed s.toList :=
  String.toList_ofList

theorem decimal_of_read? (spelled : OfDecimal (Text.trimmed s.toList) d)
    (read : Json.Number.read? (Text.trim s) = some m) : m.decimal = d := by
  rw [← toList_trim] at spelled
  have again := Spelling.decimal?_eq_some_iff.mpr (Spelling.ofDecimal_of_read? read)
  exact Option.some.inj (again.symm.trans (Spelling.decimal?_eq_some_iff.mpr spelled))

/-- The number of a text that spells a decimal: the text itself if it is a JSON
number, and otherwise the text of the nearest binary number. -/
theorem numberOfText?_eq_some_iff (spelled : OfDecimal (Text.trimmed s.toList) d) :
    numberOfText? s = some m ↔ Json.Number.read? (Text.trim s) = some m ∨
      (Json.Number.read? (Text.trim s) = none ∧
        ∃ b, Binary64.ofDecimal? d = some b ∧ m = .ofBinary b) := by
  rw [← toList_trim] at spelled
  have wide := Spelling.decimal?_eq_some_iff.mpr spelled
  unfold numberOfText?
  dsimp only
  cases Json.Number.read? (Text.trim s) with
  | some n => simp only [reduceCtorEq, false_and, or_false]
  | none =>
      simp only [wide, Option.bind_some, Option.map_eq_some_iff, reduceCtorEq, false_or, true_and]
      exact exists_congr fun b => and_congr_right' eq_comm

theorem exists_numberOfText?_iff (spelled : OfDecimal (Text.trimmed s.toList) d) :
    (∃ m, numberOfText? s = some m) ↔ (Json.Number.read? (Text.trim s)).isSome = true ∨
      ∃ b, Binary64.ofDecimal? d = some b := by
  simp only [numberOfText?_eq_some_iff spelled]
  cases Json.Number.read? (Text.trim s) with
  | some n => simp
  | none => simp

theorem exists_ofDecimal_of_numberOfText? (taken : numberOfText? s = some m) :
    ∃ d, OfDecimal (Text.trimmed s.toList) d := by
  rw [← toList_trim]
  unfold numberOfText? at taken
  dsimp only at taken
  split at taken
  · next n read => exact ⟨n.decimal, Spelling.ofDecimal_of_read? read⟩
  · rcases Option.map_eq_some_iff.mp taken with ⟨b, found, _⟩
    rcases Option.bind_eq_some_iff.mp found with ⟨d, wide, _⟩
    exact ⟨d, Spelling.decimal?_eq_some_iff.mp wide⟩

theorem coerce?_numeric_string {stored : Json} :
    numeric.coerce? (.string s) = some stored ↔
      ∃ m, stored = .number m ∧ numberOfText? s = some m := by
  change (numberOfText? s).map Json.number = _ ↔ _
  rw [Option.map_eq_some_iff]
  exact exists_congr fun m => and_comm.trans (and_congr_left' eq_comm)

theorem value_numberOfText?_of_brief (spelled : OfDecimal (Text.trimmed s.toList) d)
    (taken : numberOfText? s = some m) (brief : d.Brief) : m.value = d.value := by
  rcases (numberOfText?_eq_some_iff spelled).mp taken with read | ⟨_, b, rounded, rfl⟩
  · rw [Json.Number.value, decimal_of_read? spelled read]
  · rw [Json.Number.value_ofBinary]
    exact Binary64.value_shortest_of_brief rounded brief

end ColumnType

/-- Coercion to a decimal leaves a number as it is.  It takes a text if and only if
the text spells a decimal that is a JSON number or not too large for a binary number.
A JSON number is stored with every digit, and any other text as the shortest decimal
of its nearest binary number, which has the same value if the decimal is brief. -/
theorem decimal_coercion_keeps_digits :
    (∀ n : Json.Number, ColumnType.numeric.coerce? (.number n) = some (.number n)) ∧
    (∀ s : String, (∃ stored, ColumnType.numeric.coerce? (.string s) = some stored) ↔
      ∃ d, Spelling.OfDecimal (Text.trimmed s.toList) d ∧
        ((Json.Number.read? (Text.trim s)).isSome = true ∨
          ∃ b, Binary64.ofDecimal? d = some b)) ∧
    ∀ (s : String) (stored : Json) (d : Decimal),
      ColumnType.numeric.coerce? (.string s) = some stored →
      Spelling.OfDecimal (Text.trimmed s.toList) d →
      ∃ m : Json.Number, stored = .number m ∧
        ((Json.Number.read? (Text.trim s)).isSome = true → m.decimal = d) ∧
        (Json.Number.read? (Text.trim s) = none →
          ∃ b, Binary64.ofDecimal? d = some b ∧ m.value = b.shortest.value) ∧
        (d.Brief → m.value = d.value) := by
  refine ⟨fun _ => rfl, fun s => ⟨?_, ?_⟩, ?_⟩
  · rintro ⟨stored, coerced⟩
    rcases ColumnType.coerce?_numeric_string.mp coerced with ⟨m, _, taken⟩
    rcases ColumnType.exists_ofDecimal_of_numberOfText? taken with ⟨d, spelled⟩
    exact ⟨d, spelled, (ColumnType.exists_numberOfText?_iff spelled).mp ⟨m, taken⟩⟩
  · rintro ⟨d, spelled, finite⟩
    rcases (ColumnType.exists_numberOfText?_iff spelled).mpr finite with ⟨m, taken⟩
    exact ⟨.number m, ColumnType.coerce?_numeric_string.mpr ⟨m, rfl, taken⟩⟩
  · intro s stored d coerced spelled
    rcases ColumnType.coerce?_numeric_string.mp coerced with ⟨m, rfl, taken⟩
    refine ⟨m, rfl, ?_, ?_, ColumnType.value_numberOfText?_of_brief spelled taken⟩
    · intro written
      rcases (ColumnType.numberOfText?_eq_some_iff spelled).mp taken with read | ⟨unread, _⟩
      · exact ColumnType.decimal_of_read? spelled read
      · rw [unread] at written
        cases written
    · intro unread
      rcases (ColumnType.numberOfText?_eq_some_iff spelled).mp taken with
        read | ⟨_, b, rounded, rfl⟩
      · cases unread.symm.trans read
      · exact ⟨b, rounded, Json.Number.value_ofBinary b⟩

/-- A decimal with a plus sign in front loses its last digits. -/
theorem plus_sign_loses_digits :
    let s := "+0.1234567890123456789"
    let d : Decimal := ⟨false, 1234567890123456789, -19⟩
    ∃ m : Json.Number, ColumnType.numeric.coerce? (.string s) = some (.number m) ∧
      Spelling.OfDecimal (Text.trimmed s.toList) d ∧ m.text = "0.12345678901234568" ∧
      m.value ≠ d.value := by
  intro s d
  have spelled : Spelling.OfDecimal (Text.trimmed s.toList) d :=
    Spelling.scanDecimal_eq_some_iff.mp (by decide +kernel)
  have stored : (ColumnType.numberOfText? s).map (fun m => (m.text, m.decimal)) =
      some ("0.12345678901234568", ⟨false, 12345678901234568, -17⟩) := by
    decide +kernel
  rcases Option.map_eq_some_iff.mp stored with ⟨m, taken, same⟩
  rcases Prod.mk.inj same with ⟨text, decimal⟩
  refine ⟨m, ColumnType.coerce?_numeric_string.mpr ⟨m, rfl, taken⟩, spelled, text, ?_⟩
  rw [Json.Number.value, decimal]
  norm_num [d, Decimal.value, Decimal.magnitude]

end RowGate
