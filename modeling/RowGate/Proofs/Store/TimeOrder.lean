import Mathlib.Data.String.Basic
import RowGate.Proofs.Schema.Forms
import RowGate.Proofs.Store.ThreeValued
import RowGate.Store.Memory

namespace RowGate

/-!
# Times in the order of their texts

A column of times holds texts, and the store compares and sorts them as texts.  Their
order is that of the times as long as the years have four digits: every field of such
a text is a number of fixed width, the fields stand in the order of their weight, and
numbers of one width are in the order of their digits.  A leap second is written as
second sixty, so it stands between the second before it and the next minute.
-/

/-! ## Numbers of one width -/

theorem Digit.toChar_lt_toChar {d e : Digit} (less : d < e) : d.toChar < e.toChar := by
  revert d e
  decide

namespace Digits

theorem value_cons (d : Digit) (ds : List Digit) :
    value (d :: ds) = d.val * Nat.pow 10 ds.length + value ds := by
  have lone : value [d] = d.val := by simp [value, valueFrom]
  have split := value_append [d] ds
  rwa [lone] at split

theorem value_lt (ds : List Digit) : value ds < Nat.pow 10 ds.length := by
  induction ds with
  | nil => exact Nat.one_pos
  | cons d rest inductionHypothesis =>
      have power : Nat.pow 10 (rest.length + 1) = Nat.pow 10 rest.length * 10 := rfl
      have weight : d.val * Nat.pow 10 rest.length ≤ 9 * Nat.pow 10 rest.length :=
        Nat.mul_le_mul_right _ (Nat.le_of_lt_succ d.isLt)
      rw [value_cons, List.length_cons, power]
      omega

/-- Runs of one length stand in the order of their numbers, whatever follows
them. -/
theorem chars_append_lt {ds es : List Digit} (alike : ds.length = es.length)
    (less : value ds < value es) (us vs : List Char) : chars ds ++ us < chars es ++ vs := by
  induction ds generalizing es with
  | nil =>
      cases es with
      | nil => exact absurd less (Nat.lt_irrefl _)
      | cons e others => cases alike
  | cons d more inductionHypothesis =>
      cases es with
      | nil => cases alike
      | cons e others =>
          have lengths : more.length = others.length := Nat.succ.inj alike
          rw [value_cons, value_cons, lengths] at less
          rcases Nat.lt_trichotomy d.val e.val with below | same | above
          · exact .rel (Digit.toChar_lt_toChar below)
          · cases Fin.ext same
            exact .cons (inductionHypothesis lengths (by omega))
          · -- A greater digit outweighs all digits behind the other.
            have weight := Nat.mul_le_mul_right (Nat.pow 10 others.length) above
            have rest := value_lt others
            rw [Nat.succ_mul] at weight
            omega

end Digits

namespace Time

variable {width n m : Nat}

/-- Of two texts that begin with numbers of one width the smaller number comes
first, and between equal numbers the rest decides. -/
theorem padded_append_lt (wide : 0 < width) (small : m < Nat.pow 10 width) {c : Char}
    {us vs : List Char} (order : n < m ∨ n = m ∧ us < vs) :
    Instant.padded width n ++ c :: us < Instant.padded width m ++ c :: vs := by
  rcases order with less | ⟨rfl, behind⟩
  · have first := length_paddedDigits wide (less.trans small)
    have second := length_paddedDigits wide small
    rw [padded_eq_chars, padded_eq_chars]
    apply Digits.chars_append_lt (first.trans second.symm)
    rwa [value_paddedDigits, value_paddedDigits]
  · exact List.append_left_lt (.cons behind)

/-! ## Dates and times of day -/

section

variable {c : Char} {us vs : List Char}

/-- Two digits each, as months, days and the fields of a time of day. -/
theorem two_append_lt (small : m < 100) (order : n < m ∨ n = m ∧ us < vs) :
    Instant.padded 2 n ++ c :: us < Instant.padded 2 m ++ c :: vs :=
  padded_append_lt (by decide) small order

/-- Dates in years of four digits stand in the order of their days, and on one
day the rest decides. -/
theorem dateChars_append_lt {first second : Date} (start : 0 ≤ first.year)
    (plain : 0 ≤ second.year ∧ second.year ≤ 9999) (listed : second.Valid)
    (order : first.Before second ∨ first = second ∧ us < vs) :
    Instant.dateChars first ++ c :: us < Instant.dateChars second ++ c :: vs := by
  rcases listed with ⟨_, lastMonth, _, lastDay⟩
  have longest := daysInMonth_le second.year second.month
  have fields : first.year < second.year ∨ first.year = second.year ∧
      (first.month < second.month ∨ first.month = second.month ∧
        (first.day < second.day ∨ first.day = second.day ∧ us < vs)) := by
    rcases order with (year | ⟨year, month | ⟨month, day⟩⟩) | ⟨rfl, behind⟩
    · exact .inl year
    · exact .inr ⟨year, .inl month⟩
    · exact .inr ⟨year, .inr ⟨month, .inl day⟩⟩
    · exact .inr ⟨rfl, .inr ⟨rfl, .inr ⟨rfl, behind⟩⟩⟩
  have ordered : first.year ≤ second.year := by
    rcases fields with year | ⟨year, _⟩
    · exact Int.le_of_lt year
    · exact Int.le_of_eq year
  have firstYear : Instant.yearChars first.year = Instant.padded 4 first.year.toNat :=
    if_pos ⟨start, ordered.trans plain.2⟩
  have secondYear : Instant.yearChars second.year = Instant.padded 4 second.year.toNat :=
    if_pos plain
  have four : second.year.toNat < Nat.pow 10 4 := by
    change second.year.toNat < 10000
    omega
  simp only [Instant.dateChars, firstYear, secondYear, List.append_assoc, List.cons_append]
  apply padded_append_lt (by decide) four
  rcases fields with year | ⟨year, months⟩
  · exact .inl (by omega)
  · refine .inr ⟨congrArg Int.toNat year, two_append_lt (by omega) ?_⟩
    exact months.imp_right (.imp_right (two_append_lt (by omega)))

end

/-- A time of day as it is written. -/
structure Clock where
  hour : Nat
  minute : Nat
  second : Nat
  millis : Nat

namespace Clock

/-- Every field has the digits for its number. -/
structure Bounded (clock : Clock) : Prop where
  hour : clock.hour < 100
  minute : clock.minute < 100
  second : clock.second < 100
  millis : clock.millis < 1000

/-- A time of day stands before another in the order of its fields. -/
def Before (first second : Clock) : Prop :=
  first.hour < second.hour ∨ first.hour = second.hour ∧
    (first.minute < second.minute ∨ first.minute = second.minute ∧
      (first.second < second.second ∨ first.second = second.second ∧
        first.millis < second.millis))

/-- The characters of a time of day, and the letter for the zone. -/
def chars (clock : Clock) : List Char :=
  Instant.padded 2 clock.hour ++ ':' :: (Instant.padded 2 clock.minute ++
    ':' :: (Instant.padded 2 clock.second ++ '.' :: (Instant.padded 3 clock.millis ++ [zone])))

theorem chars_lt_chars {first second : Clock} (bounded : second.Bounded)
    (order : first.Before second) : first.chars < second.chars := by
  apply two_append_lt bounded.hour
  refine order.imp_right (.imp_right fun order => ?_)
  apply two_append_lt bounded.minute
  refine order.imp_right (.imp_right fun order => ?_)
  apply two_append_lt bounded.second
  refine order.imp_right (.imp_right fun less => ?_)
  exact padded_append_lt (by decide) bounded.millis (.inl less)

end Clock

namespace Instant

/-- The time of day at which an instant is written. -/
def clock (t : Instant) : Clock where
  hour := (t.seconds % 86400).toNat / 3600
  minute := (t.seconds % 86400).toNat / 60 % 60
  second := (t.seconds % 86400).toNat % 60 + t.nanos / 1000000000
  millis := t.nanos % 1000000000 / 1000000

theorem chars_eq (t : Instant) :
    t.chars = dateChars (.ofDayNumber (t.seconds / 86400)) ++ 'T' :: t.clock.chars := by
  simp only [chars, clock, Clock.chars, List.append_assoc, List.cons_append]
  rfl

theorem bounded_clock (t : Instant) : t.clock.Bounded := by
  have bound := t.nanos_lt
  constructor <;> dsimp only [clock] <;> omega

/-- On one day the earlier millisecond has the earlier time of day.  A leap second
is written as second sixty, behind the second before it. -/
theorem clock_before {first second : Instant}
    (day : first.seconds / 86400 = second.seconds / 86400)
    (earlier : first.truncated.before second.truncated = true) :
    first.clock.Before second.clock := by
  have firstLast : 1000000000 ≤ first.nanos → (first.seconds % 86400).toNat % 60 = 59 := by
    have := first.leap_last
    omega
  have order : (first.seconds % 86400).toNat < (second.seconds % 86400).toNat ∨
      (first.seconds % 86400).toNat = (second.seconds % 86400).toNat ∧
        first.nanos / 1000000 < second.nanos / 1000000 := by
    rw [before_iff] at earlier
    simp only [truncated] at earlier
    omega
  have bound := first.nanos_lt
  unfold Clock.Before clock
  dsimp only
  generalize (first.seconds % 86400).toNat = inDay at firstLast order ⊢
  rcases order with less | ⟨same, millis⟩
  · omega
  · rw [← same]
    omega

theorem chars_lt_chars {first second : Instant} (early : first.IsPlain) (late : second.IsPlain)
    (earlier : first.truncated.before second.truncated = true) : first.chars < second.chars := by
  rw [chars_eq, chars_eq]
  apply dateChars_append_lt early.1 late (Date.valid_ofDayNumber _)
  have seconds : first.seconds ≤ second.seconds := by
    rcases before_iff.mp earlier with less | ⟨same, _⟩
    · exact Int.le_of_lt less
    · exact Int.le_of_eq same
  rcases Int.lt_or_eq_of_le (Int.ediv_le_ediv (by decide : (0 : Int) < 86400) seconds) with
    less | same
  · exact .inl (Date.before_ofDayNumber less)
  · exact .inr ⟨congrArg Date.ofDayNumber same,
      Clock.chars_lt_chars second.bounded_clock (clock_before same earlier)⟩

theorem compare_text_eq_lt {first second : Instant} (early : first.IsPlain) (late : second.IsPlain)
    (earlier : first.truncated.before second.truncated = true) :
    Ord.compare first.text second.text = .lt := by
  rw [compare_lt_iff_lt, String.lt_iff_toList_lt, text, text, String.toList_ofList,
    String.toList_ofList]
  exact chars_lt_chars early late earlier

theorem compare_swap (first second : Instant) :
    second.compare first = (first.compare second).swap := by
  unfold compare
  rw [Ordering.swap_then, ← Std.OrientedCmp.eq_swap, ← Std.OrientedCmp.eq_swap]

theorem eq_of_compare {first second : Instant} (same : first.compare second = .eq) :
    first = second := by
  rcases Ordering.then_eq_eq.mp same with ⟨seconds, nanos⟩
  rw [compare_eq_iff_eq] at seconds nanos
  cases first
  cases second
  cases seconds
  cases nanos
  rfl

/-- Texts of times compare as the times do, to the millisecond. -/
theorem compare_text {first second : Instant} (early : first.IsPlain) (late : second.IsPlain) :
    Ord.compare first.text second.text = first.truncated.compare second.truncated := by
  cases order : first.truncated.compare second.truncated with
  | lt => exact compare_text_eq_lt early late (beq_iff_eq.mpr order)
  | eq =>
      rw [← first.text_truncated, eq_of_compare order, second.text_truncated]
      exact Std.ReflCmp.compare_self
  | gt =>
      have back : second.truncated.compare first.truncated = .lt := by
        rw [compare_swap, order]
        rfl
      have turned : Ord.compare first.text second.text =
          (Ord.compare second.text first.text).swap := Std.OrientedCmp.eq_swap
      rw [turned, compare_text_eq_lt late early (beq_iff_eq.mpr back)]
      rfl

end Instant
end Time

/-! ## The main statement -/

/-- Of two texts of times that can be read, the comparison is that of the times that
are read, and a condition and a sorted read of the store see just this order. -/
theorem text_order_is_time_order (s t : Time.Instant) {first second : Time.Instant}
    (firstRead : Time.read? s.text = some first) (secondRead : Time.read? t.text = some second) :
    compare s.text t.text = first.compare second ∧
      (∀ (condition : Condition) (row : Row),
        row.get? condition.column = some (.string s.text) →
          condition.param.value = .string t.text →
            condition.evaluate row = some
              (condition.operator.comparison.admits (first.compare second) !=
                condition.operator.negated)) ∧
      ∀ (order : SortOrder) (row other : Row),
        row.get? order.column = some (.string s.text) →
          other.get? order.column = some (.string t.text) →
            Memory.precedes order row other =
              if order.ascending then (first.compare second).isLE
              else (first.compare second).isGE := by
  have early : s.IsPlain := Time.isPlain_of_read? firstRead
  have late : t.IsPlain := Time.isPlain_of_read? secondRead
  cases Time.eq_truncated_of_read? firstRead
  cases Time.eq_truncated_of_read? secondRead
  have texts := Time.Instant.compare_text early late
  refine ⟨texts, ?_, ?_⟩
  · intro condition row cell operand
    have order : condition.order? row = some (s.truncated.compare t.truncated) := by
      rw [Condition.order?, cell, operand, Option.bind_some, Json.compare?, texts]
    rw [Condition.evaluate_eq_map, order, Option.map_some]
  · intro order row other cell cell'
    have keys : Json.compareKeys (row.get? order.column) (other.get? order.column) =
        s.truncated.compare t.truncated := by
      rw [cell, cell', ← texts]
      rfl
    unfold Memory.precedes
    dsimp only
    rw [keys]
    cases s.truncated.compare t.truncated <;> rfl

/-- The leap second at the end of 2016 stands before the midnight that follows, in
its text, under a condition and in a sorted read. -/
theorem leap_second_before_midnight :
    let leap : Time.Instant := ⟨1483228799, 1500000000, by decide, by decide⟩
    let midnight : Time.Instant := .ofMillis 1483228800000
    let row : Row := .ofList [("at", .string leap.text)]
    let other : Row := .ofList [("at", .string midnight.text)]
    (leap.text = "2016-12-31T23:59:60.500Z" ∧ midnight.text = "2017-01-01T00:00:00.000Z") ∧
      (Time.read? leap.text = some leap ∧ Time.read? midnight.text = some midnight) ∧
      compare leap.text midnight.text = .lt ∧
      Condition.evaluate ⟨"at", ⟨.gte, true⟩, ⟨.string midnight.text, .timestamp⟩⟩ row =
        some true ∧
      Memory.precedes ⟨"at", false⟩ row other = false := by
  intro leap midnight row other
  have early : leap.IsPlain := by decide
  have late : midnight.IsPlain := by decide
  have whole : leap.truncated = leap ∧ midnight.truncated = midnight := by decide
  have first : Time.read? leap.text = some leap :=
    (Time.read?_text_of_isPlain early).trans (congrArg some whole.1)
  have second : Time.read? midnight.text = some midnight :=
    (Time.read?_text_of_isPlain late).trans (congrArg some whole.2)
  rcases text_order_is_time_order leap midnight first second with ⟨texts, conditions, sorted⟩
  exact ⟨⟨by decide +kernel, by decide +kernel⟩, ⟨first, second⟩, texts,
    conditions ⟨"at", ⟨.gte, true⟩, ⟨.string midnight.text, .timestamp⟩⟩ row rfl rfl,
    sorted ⟨"at", false⟩ row other rfl rfl⟩

end RowGate
