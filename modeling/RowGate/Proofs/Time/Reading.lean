import RowGate.Proofs.Time.Calendar
import RowGate.Time.Reading

namespace RowGate

/-!
# Reading back what is written

The text of an instant is read back as the last millisecond not behind it,
leap seconds included, as long as its year has four digits.  The text of
another year begins with a sign, which only the lenient forms admit; and these
stop at the letter for the zone, so such a text is not read at all.

Dropping what is behind the millisecond keeps the order of two instants.
-/

/-! ## Whole milliseconds -/

namespace Time
namespace Instant

/-- The last millisecond not behind an instant. -/
def truncated (t : Instant) : Instant where
  seconds := t.seconds
  nanos := t.nanos / 1000000 * 1000000
  nanos_lt := by
    have := t.nanos_lt
    omega
  leap_last := by
    have := t.leap_last
    omega

theorem truncated_truncated (t : Instant) : t.truncated.truncated = t.truncated := by
  simp only [truncated, Instant.mk.injEq, true_and]
  omega

theorem before_iff {first second : Instant} :
    first.before second = true ↔
      first.seconds < second.seconds ∨
        first.seconds = second.seconds ∧ first.nanos < second.nanos := by
  unfold before compare
  rw [beq_iff_eq, Ordering.then_eq_lt, compare_lt_iff_lt, compare_lt_iff_lt, compare_eq_iff_eq]

theorem not_before_self (t : Instant) : t.before t = false := by
  cases before : t.before t with
  | false => rfl
  | true =>
      rw [before_iff] at before
      omega

/-- An instant that is not earlier than another has a millisecond that is not
earlier than that of the other. -/
theorem before_of_truncated {first second : Instant}
    (earlier : first.truncated.before second.truncated = true) : first.before second = true := by
  rw [before_iff] at earlier ⊢
  simp only [truncated] at earlier
  omega

/-- The year in which an instant lies. -/
def year (t : Instant) : Int :=
  (Date.ofDayNumber (t.seconds / 86400)).year

end Instant
end Time

/-! ## Fields of fixed width -/

namespace Digits

theorem value_zeros_append (count : Nat) (ds : List Digit) :
    value (zeros count ++ ds) = value ds := by
  have nothing : value (zeros count) = 0 := by
    induction count with
    | zero => rfl
    | succ count inductionHypothesis =>
        change value ([0] ++ zeros count) = 0
        rw [value_append, inductionHypothesis]
        simp [value, valueFrom]
  rw [value_append, nothing, Nat.zero_mul, Nat.zero_add]

theorem value_append_zeros (ds : List Digit) (count : Nat) :
    value (ds ++ zeros count) = value ds * Nat.pow 10 count := by
  have nothing := value_zeros_append count []
  rw [List.append_nil] at nothing
  rw [value_append, nothing]
  simp [value, valueFrom, zeros]

end Digits

namespace Time

theorem digitsUpTo_append (ds : List Digit) (rest : List Char) :
    digitsUpTo ds.length (Digits.chars ds ++ rest) = (ds, rest) := by
  induction ds with
  | nil =>
      cases rest <;> rfl
  | cons d more inductionHypothesis =>
      have tail : digitsUpTo more.length (List.map Digit.toChar more ++ rest) = (more, rest) :=
        inductionHypothesis
      simp [digitsUpTo, Digits.chars, Digit.ofChar?_toChar, tail]

/-- The digits of a padded number. -/
def paddedDigits (width n : Nat) : List Digit :=
  Digits.zeros (width - (Digits.ofNat n).length) ++ Digits.ofNat n

theorem padded_eq_chars (width n : Nat) :
    Instant.padded width n = Digits.chars (paddedDigits width n) := by
  simp only [Instant.padded, paddedDigits, Digits.chars, Digits.zeros, List.map_append,
    List.map_replicate, List.length_map]
  rfl

theorem value_paddedDigits (width n : Nat) : Digits.value (paddedDigits width n) = n := by
  rw [paddedDigits, Digits.value_zeros_append, Digits.value_ofNat]

section

variable {width n : Nat} (wide : 0 < width) (small : n < Nat.pow 10 width)

include wide small

theorem length_paddedDigits : (paddedDigits width n).length = width := by
  have short := Digits.length_ofNat_le wide small
  simp only [paddedDigits, Digits.zeros, List.length_append, List.length_replicate]
  omega

theorem fixed_padded (rest : List Char) :
    fixed width (Instant.padded width n ++ rest) = some (n, rest) := by
  have length := length_paddedDigits wide small
  have run := digitsUpTo_append (paddedDigits width n) rest
  rw [length] at run
  unfold fixed
  rw [padded_eq_chars, run]
  simp only [length, if_true, value_paddedDigits]

end

theorem fraction_padded {millis : Nat} (small : millis < 1000) :
    fraction ('.' :: Instant.padded 3 millis ++ ['Z']) = some (millis * 1000000, ['Z']) := by
  have length := length_paddedDigits (by decide : 0 < 3) small
  have value := value_paddedDigits 3 millis
  have run : Digits.span (Digits.chars (paddedDigits 3 millis) ++ ['Z']) =
      (paddedDigits 3 millis, ['Z']) := by
    refine Digits.span_append _ ?_
    intro c tail same
    cases same
    decide
  rw [padded_eq_chars]
  generalize paddedDigits 3 millis = ds at length value run ⊢
  simp only [fraction, List.cons_append, run]
  cases ds with
  | nil => cases length
  | cons d rest =>
      have whole : (d :: rest).take 9 = d :: rest := List.take_of_length_le (by omega)
      simp only [nanosOf, whole, length, Digits.value_append_zeros, value]

/-! ## The strict form -/

theorem mark_self (c : Char) (rest : List Char) : mark c (c :: rest) = some rest :=
  if_pos rfl

theorem fixed_two {n : Nat} (small : n < 100) (rest : List Char) :
    fixed 2 (Instant.padded 2 n ++ rest) = some (n, rest) :=
  fixed_padded (by decide) small rest

theorem hourMinute_padded {hour minute : Nat} (hours : hour < 100) (minutes : minute < 100)
    (rest : List Char) :
    hourMinute (Instant.padded 2 hour ++ ':' :: (Instant.padded 2 minute ++ rest)) =
      some ((hour, minute), rest) := by
  simp only [hourMinute, fixed_two hours, fixed_two minutes, mark_self, Option.bind_eq_bind,
    Option.bind_some]

/-- The strict form reads the fields that are written. -/
theorem strict?_fields {date : Date} {hour minute second millis : Nat} {t : Instant}
    (years : 0 ≤ date.year ∧ date.year ≤ 9999) (months : date.month < 100)
    (days : date.day < 100) (hours : hour < 100) (minutes : minute < 100) (seconds : second < 100)
    (fractions : millis < 1000)
    (denoted : instant? date hour minute second (millis * 1000000) 0 = some t) :
    strict? (Instant.dateChars date ++ 'T' :: Instant.padded 2 hour ++
      ':' :: Instant.padded 2 minute ++ ':' :: Instant.padded 2 second ++
      '.' :: Instant.padded 3 millis ++ ['Z']) = some t := by
  have chars : Instant.yearChars date.year = Instant.padded 4 date.year.toNat := if_pos years
  have whole : ((date.year.toNat : Nat) : Int) = date.year := Int.toNat_of_nonneg years.1
  have small : date.year.toNat < 10000 := by omega
  rw [Instant.dateChars, chars]
  simp only [List.append_assoc, List.cons_append]
  refine Option.bind_eq_some_iff.mpr ⟨_, fixed_padded (by decide) small _, ?_⟩
  refine Option.bind_eq_some_iff.mpr ⟨_, mark_self '-' _, ?_⟩
  refine Option.bind_eq_some_iff.mpr ⟨_, fixed_two months _, ?_⟩
  refine Option.bind_eq_some_iff.mpr ⟨_, mark_self '-' _, ?_⟩
  refine Option.bind_eq_some_iff.mpr ⟨_, fixed_two days _, ?_⟩
  refine Option.bind_eq_some_iff.mpr ⟨_, hourMinute_padded hours minutes _, ?_⟩
  refine Option.bind_eq_some_iff.mpr ⟨_, mark_self ':' _, ?_⟩
  refine Option.bind_eq_some_iff.mpr ⟨_, fixed_two seconds _, ?_⟩
  refine Option.bind_eq_some_iff.mpr ⟨_, fraction_padded fractions, ?_⟩
  refine Option.bind_eq_some_iff.mpr ⟨(0, []), rfl, ?_⟩
  have written : instant? ⟨(date.year.toNat : Int), date.month, date.day⟩ hour minute second
      (millis * 1000000) 0 = some t := by
    rw [whole]
    exact denoted
  exact written

namespace Instant

/-- The day and the time of day at which an instant is written are those of its
last millisecond. -/
theorem instant?_fields {t : Instant} (inRange : yearInRange t.year = true) :
    instant? (.ofDayNumber (t.seconds / 86400)) ((t.seconds % 86400).toNat / 3600)
      ((t.seconds % 86400).toNat / 60 % 60)
      ((t.seconds % 86400).toNat % 60 + t.nanos / 1000000000)
      (t.nanos % 1000000000 / 1000000 * 1000000) 0 = some t.truncated := by
  have bound := t.nanos_lt
  have leap := t.leap_last
  have day := Date.dayNumber_ofDayNumber (t.seconds / 86400)
  have ranges : (Date.ofDayNumber (t.seconds / 86400)).Valid ∧
      yearInRange (Date.ofDayNumber (t.seconds / 86400)).year ∧
      (t.seconds % 86400).toNat / 3600 < 24 ∧ (t.seconds % 86400).toNat / 60 % 60 < 60 ∧
      (t.seconds % 86400).toNat % 60 + t.nanos / 1000000000 ≤ 60 ∧
      t.nanos % 1000000000 / 1000000 * 1000000 < 1000000000 :=
    ⟨Date.valid_ofDayNumber _, inRange, by omega, by omega, by omega, by omega⟩
  unfold instant?
  rw [dif_pos ranges]
  dsimp only
  split
  · simp only [Option.some.injEq, truncated, Instant.mk.injEq, day]
    omega
  · simp only [Option.some.injEq, truncated, Instant.mk.injEq, day]
    omega

end Instant

theorem strict?_chars {t : Instant} (plain : 0 ≤ t.year ∧ t.year ≤ 9999) :
    strict? t.chars = some t.truncated := by
  have bound := t.nanos_lt
  have inRange : yearInRange t.year = true := by
    unfold yearInRange
    simp only [Bool.and_eq_true, decide_eq_true_eq]
    omega
  rcases Date.valid_ofDayNumber (t.seconds / 86400) with ⟨_, lastMonth, _, lastDay⟩
  have longest := daysInMonth_le (Date.ofDayNumber (t.seconds / 86400)).year
    (Date.ofDayNumber (t.seconds / 86400)).month
  exact strict?_fields plain (by omega) (by omega) (by omega) (by omega) (by omega) (by omega)
    (Instant.instant?_fields inRange)

/-! ## The lenient forms -/

section

variable {c : Char} {cs rest : List Char}

theorem mem_trimStart (visible : Text.isBlank c = false) (member : c ∈ cs) :
    c ∈ Text.trimStart cs := by
  unfold Text.trimStart
  induction cs with
  | nil => exact absurd member List.not_mem_nil
  | cons first others inductionHypothesis =>
      rw [List.dropWhile_cons]
      split
      · next blank =>
        rcases List.mem_cons.mp member with rfl | later
        · rw [visible] at blank
          cases blank
        · exact inductionHypothesis later
      · exact member

theorem mem_digitsUpTo (width : Nat) (letter : Digit.ofChar? c = none) (member : c ∈ cs) :
    c ∈ (digitsUpTo width cs).2 := by
  induction width generalizing cs with
  | zero => exact member
  | succ width inductionHypothesis =>
      cases cs with
      | nil => exact absurd member List.not_mem_nil
      | cons first others =>
          unfold digitsUpTo
          cases read : Digit.ofChar? first with
          | none => exact member
          | some d =>
              rcases List.mem_cons.mp member with rfl | later
              · cases letter.symm.trans read
              · exact inductionHypothesis later

theorem mem_span (letter : Digit.ofChar? c = none) (member : c ∈ cs) :
    c ∈ (Digits.span cs).2 := by
  rw [← Digits.chars_span cs, List.mem_append] at member
  rcases member with digit | later
  · rcases List.mem_map.mp digit with ⟨d, _, rfl⟩
    rw [Digit.ofChar?_toChar] at letter
    cases letter
  · exact later

end

/-- The letter for the zone, which only the strict form admits. -/
def zone : Char := 'Z'

/-- A reader that never passes over the letter for the zone. -/
def StopsAtZone {α : Type} (read : List Char → Option (α × List Char)) : Prop :=
  ∀ cs value rest, zone ∈ cs → read cs = some (value, rest) → zone ∈ rest

theorem stops_loose (most : Nat) : StopsAtZone (loose most) := by
  intro cs value rest member read
  have later := mem_digitsUpTo most (by decide) (mem_trimStart (by decide) member)
  unfold loose at read
  dsimp only at read
  split at read
  · cases read
  · cases read
    exact later

theorem mem_mark {expected : Char} {cs rest : List Char} (other : expected ≠ zone)
    (member : zone ∈ cs) (read : mark expected cs = some rest) : zone ∈ rest := by
  cases cs with
  | nil => cases read
  | cons c others =>
      simp only [mark] at read
      split at read
      · next same =>
        cases read
        rcases List.mem_cons.mp member with first | later
        · exact absurd (same.symm.trans first.symm) other
        · exact later
      · cases read

/-- A reader that needs a digit and takes all that follow. -/
theorem stops_span {α : Type} (f : List Digit → α) :
    StopsAtZone fun cs =>
      match Digits.span cs with
      | ([], _) => none
      | (ds, tail) => some (f ds, tail) := by
  intro cs value rest member read
  have kept := mem_span (by decide : Digit.ofChar? zone = none) member
  dsimp only at read
  split at read
  · cases read
  · next spanned =>
    cases read
    rw [spanned] at kept
    exact kept

theorem stops_fraction : StopsAtZone fraction := by
  intro cs value rest member read
  unfold fraction at read
  split at read
  · next others =>
    rcases List.mem_cons.mp member with point | later
    · cases point
    · exact stops_span nanosOf others value rest later read
  · cases read
    exact member

theorem stops_looseYear : StopsAtZone looseYear := by
  intro cs value rest member read
  have trimmed := mem_trimStart (by decide) member
  unfold looseYear at read
  generalize Text.trimStart cs = visible at trimmed read
  split at read
  · next others =>
    rcases List.mem_cons.mp trimmed with sign | later
    · cases sign
    · exact stops_span (fun ds => (Digits.value ds : Int)) others value rest later read
  · next others =>
    rcases List.mem_cons.mp trimmed with sign | later
    · cases sign
    · exact stops_span (fun ds => -(Digits.value ds : Int)) others value rest later read
  · rcases Option.map_eq_some_iff.mp read with ⟨⟨year, tail⟩, years, same⟩
    cases same
    exact stops_loose 4 _ _ _ trimmed years

theorem stops_looseDate : StopsAtZone looseDate := by
  intro cs value rest member read
  rcases Option.bind_eq_some_iff.mp read with ⟨⟨year, first⟩, years, read⟩
  rcases Option.bind_eq_some_iff.mp read with ⟨second, hyphen, read⟩
  rcases Option.bind_eq_some_iff.mp read with ⟨⟨month, third⟩, months, read⟩
  rcases Option.bind_eq_some_iff.mp read with ⟨fourth, mark, read⟩
  rcases Option.bind_eq_some_iff.mp read with ⟨⟨day, fifth⟩, days, read⟩
  cases read
  have afterYear := stops_looseYear _ _ _ member years
  have afterMonth := stops_loose 2 _ _ _ (mem_mark (by decide) afterYear hyphen) months
  exact stops_loose 2 _ _ _ (mem_mark (by decide) afterMonth mark) days

theorem looseTime_eq_none {date : Date} {cs : List Char} (member : zone ∈ cs) :
    looseTime date cs = none := by
  cases read : looseTime date cs with
  | none => rfl
  | some t =>
      rcases Option.bind_eq_some_iff.mp read with ⟨⟨hour, first⟩, hours, read⟩
      rcases Option.bind_eq_some_iff.mp read with ⟨second, colon, read⟩
      rcases Option.bind_eq_some_iff.mp read with ⟨⟨minute, third⟩, minutes, read⟩
      rcases Option.bind_eq_some_iff.mp read with ⟨fourth, mark, read⟩
      rcases Option.bind_eq_some_iff.mp read with ⟨⟨seconds, fifth⟩, reads, read⟩
      rcases Option.bind_eq_some_iff.mp read with ⟨⟨nanos, sixth⟩, fractions, read⟩
      have afterHour := stops_loose 2 _ _ _ member hours
      have afterMinute := stops_loose 2 _ _ _ (mem_mark (by decide) afterHour colon) minutes
      have afterSecond := stops_loose 2 _ _ _ (mem_mark (by decide) afterMinute mark) reads
      have left := stops_fraction _ _ _ afterSecond fractions
      dsimp only at read
      rw [if_pos (List.ne_nil_of_mem left)] at read
      cases read

/-- No lenient form reads a text with the letter for the zone. -/
theorem lenient_eq_none {cs : List Char} (member : zone ∈ cs) :
    markedForm? cs = none ∧ blankForm? cs = none ∧ dateForm? cs = none := by
  refine ⟨?_, ?_, ?_⟩
  · cases read : markedForm? cs with
    | none => rfl
    | some t =>
        rcases Option.bind_eq_some_iff.mp read with ⟨⟨date, first⟩, dates, read⟩
        rcases Option.bind_eq_some_iff.mp read with ⟨second, letter, read⟩
        have left := mem_mark (by decide) (stops_looseDate _ _ _ member dates) letter
        rw [looseTime_eq_none left] at read
        cases read
  · cases read : blankForm? cs with
    | none => rfl
    | some t =>
        rcases Option.bind_eq_some_iff.mp read with ⟨⟨date, rest⟩, dates, read⟩
        have left := mem_trimStart (by decide) (stops_looseDate _ _ _ member dates)
        dsimp only at read
        rw [looseTime_eq_none left] at read
        cases read
  · cases read : dateForm? cs with
    | none => rfl
    | some t =>
        rcases Option.bind_eq_some_iff.mp read with ⟨⟨date, rest⟩, dates, read⟩
        have left := stops_looseDate _ _ _ member dates
        dsimp only at read
        rw [if_pos (List.ne_nil_of_mem left)] at read
        cases read

/-! ## Whole texts -/

theorem trimmed_eq_self {cs : List Char}
    (first : ∀ c, cs.head? = some c → Text.isBlank c = false)
    (last : ∀ c, cs.getLast? = some c → Text.isBlank c = false) : Text.trimmed cs = cs := by
  have front : ∀ ds : List Char, (∀ c, ds.head? = some c → Text.isBlank c = false) →
      Text.trimStart ds = ds := by
    intro ds visible
    cases ds with
    | nil => rfl
    | cons c rest =>
        unfold Text.trimStart
        rw [List.dropWhile_cons_of_neg (by simp [visible c rfl])]
  unfold Text.trimmed
  rw [front cs first, front cs.reverse (by simpa using last), List.reverse_reverse]

theorem isBlank_toChar (d : Digit) : Text.isBlank d.toChar = false := by
  revert d
  decide

/-- A year begins with a digit if it has four of them, and with a sign
otherwise. -/
theorem yearChars_eq_cons (year : Int) :
    ∃ c rest, Instant.yearChars year = c :: rest ∧ Text.isBlank c = false ∧
      (¬ (0 ≤ year ∧ year ≤ 9999) → Digit.ofChar? c = none) := by
  unfold Instant.yearChars
  split
  · next plain =>
    have small : year.toNat < 10000 := by omega
    have length := length_paddedDigits (by decide : 0 < 4) small
    rw [padded_eq_chars]
    cases digits : paddedDigits 4 year.toNat with
    | nil =>
        rw [digits] at length
        cases length
    | cons d rest => exact ⟨d.toChar, _, rfl, isBlank_toChar d, fun signed => absurd plain signed⟩
  · refine ⟨_, _, rfl, ?_, ?_⟩
    · split <;> decide
    · intro _
      split <;> decide

theorem exists_chars_eq (t : Instant) : ∃ rest, t.chars = Instant.yearChars t.year ++ rest := by
  simp only [Instant.chars, Instant.dateChars, List.append_assoc, List.cons_append]
  exact ⟨_, rfl⟩

theorem trimmed_chars (t : Instant) : Text.trimmed t.chars = t.chars := by
  rcases exists_chars_eq t with ⟨rest, begun⟩
  rcases yearChars_eq_cons t.year with ⟨c, others, year, visible, _⟩
  refine trimmed_eq_self ?_ ?_
  · intro first head
    rw [begun, year] at head
    cases head
    exact visible
  · intro last ending
    unfold Instant.chars at ending
    rw [List.getLast?_concat] at ending
    cases ending
    decide

theorem strict?_eq_none {c : Char} {rest : List Char} (sign : Digit.ofChar? c = none) :
    strict? (c :: rest) = none := by
  have nothing : fixed 4 (c :: rest) = none := by
    simp only [fixed, digitsUpTo, sign]
    rfl
  unfold strict?
  rw [nothing]
  rfl

/-- The text of an instant in a year of four digits is read as the last
millisecond not behind it, and the text of any other instant is not read. -/
theorem read?_text (t : Instant) :
    read? t.text = if 0 ≤ t.year ∧ t.year ≤ 9999 then some t.truncated else none := by
  have shown : t.text.toList = t.chars := String.toList_ofList
  simp only [read?, shown, trimmed_chars]
  split
  · next plain =>
    rw [strict?_chars plain]
    rfl
  · next signed =>
    have zoned : zone ∈ t.chars := List.mem_append_right _ List.mem_cons_self
    rcases lenient_eq_none zoned with ⟨marked, blank, lone⟩
    have strict : strict? t.chars = none := by
      rcases exists_chars_eq t with ⟨rest, begun⟩
      rcases yearChars_eq_cons t.year with ⟨c, others, year, _, sign⟩
      rw [begun, year, List.cons_append]
      exact strict?_eq_none (sign signed)
    rw [strict, marked, blank, lone]
    rfl

theorem eq_truncated_of_read? {t read : Instant} (reads : read? t.text = some read) :
    read = t.truncated := by
  rw [read?_text] at reads
  split at reads
  · cases reads
    rfl
  · cases reads

end Time
end RowGate
