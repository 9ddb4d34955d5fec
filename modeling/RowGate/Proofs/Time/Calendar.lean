import RowGate.Time.Calendar
import Mathlib.Tactic.IntervalCases

namespace RowGate
namespace Time

/-!
# Days and their numbers

Every number is the number of its day, that day exists, and a greater number is
that of a later day.  A day number is taken apart into the parts of a cycle; the
proofs name these parts with their bounds once, and go on with linear arithmetic.
-/

theorem daysInMonth_le (year : Int) (month : Nat) : daysInMonth year month ≤ 31 := by
  unfold daysInMonth
  split
  · split <;> omega
  · split <;> omega

namespace Date

/-- The parts of a day number: cycles of 400 years, centuries, spans of four
years, years, months and days. -/
structure Parts where
  cycles : Int
  centuries : Int
  spans : Int
  years : Int
  inYear : Int

/-- Each part is within its bounds.  The last century of a cycle and the last
year of a span have one more day, but the last span of another century has
not. -/
structure Parts.Bounded (parts : Parts) : Prop where
  centuries : 0 ≤ parts.centuries ∧ parts.centuries ≤ 3
  spans : 0 ≤ parts.spans ∧ parts.spans ≤ 24
  years : 0 ≤ parts.years ∧ parts.years ≤ 3
  inYear : 0 ≤ parts.inYear ∧ parts.inYear ≤ 365
  leap : parts.inYear = 365 → parts.years = 3 ∧ (parts.spans = 24 → parts.centuries = 3)

/-- The year, counted from March. -/
def Parts.year (parts : Parts) : Int :=
  400 * parts.cycles + 100 * parts.centuries + 4 * parts.spans + parts.years

/-- The month, counted from zero for March. -/
def Parts.month (parts : Parts) : Int :=
  (5 * parts.inYear + 2) / 153

/-- The parts of a day number. -/
def partsOf (number : Int) : Parts :=
  let inCycle := (number + epoch) % 146097
  let centuries := min 3 (inCycle / 36524)
  let inCentury := inCycle - centuries * 36524
  let inSpan := inCentury - inCentury / 1461 * 1461
  let years := min 3 (inSpan / 365)
  ⟨(number + epoch) / 146097, centuries, inCentury / 1461, years, inSpan - years * 365⟩

theorem bounded_partsOf (number : Int) : (partsOf number).Bounded := by
  constructor <;> dsimp only [partsOf] <;> omega

/-- The leap days of a cycle fall on its spans of four years. -/
theorem Parts.Bounded.daysBeforeYear {parts : Parts} (bounded : parts.Bounded) :
    daysBeforeYear parts.year =
      146097 * parts.cycles + 36524 * parts.centuries + 1461 * parts.spans +
        365 * parts.years := by
  rcases bounded with ⟨centuries, spans, years, _, _⟩
  have fourth : parts.year / 4 = 100 * parts.cycles + 25 * parts.centuries + parts.spans := by
    unfold Parts.year
    omega
  have hundredth : parts.year / 100 = 4 * parts.cycles + parts.centuries := by
    unfold Parts.year
    omega
  have last : parts.year / 400 = parts.cycles := by
    unfold Parts.year
    omega
  rw [Date.daysBeforeYear, fourth, hundredth, last, Parts.year]
  omega

theorem number_partsOf (number : Int) :
    daysBeforeYear (partsOf number).year + (partsOf number).inYear - epoch = number := by
  rw [(bounded_partsOf number).daysBeforeYear]
  dsimp only [partsOf]
  omega

theorem month_partsOf (number : Int) :
    0 ≤ (partsOf number).month ∧ (partsOf number).month ≤ 11 := by
  have inYear := (bounded_partsOf number).inYear
  unfold Parts.month
  omega

/-- The day of some parts, with years that begin in January. -/
theorem ofDayNumber_eq (number : Int) :
    ofDayNumber number =
      { year := if (partsOf number).month < 10 then (partsOf number).year
          else (partsOf number).year + 1
        month := (if (partsOf number).month < 10 then (partsOf number).month + 3
          else (partsOf number).month - 9).toNat
        day := ((partsOf number).inYear - daysBeforeMonth (partsOf number).month + 1).toNat } :=
  rfl

theorem dayNumber_ofDayNumber (number : Int) : (ofDayNumber number).dayNumber = number := by
  have month := month_partsOf number
  have sum := number_partsOf number
  have begun : daysBeforeMonth (partsOf number).month ≤ (partsOf number).inYear := by
    have inYear := (bounded_partsOf number).inYear
    unfold daysBeforeMonth Parts.month
    omega
  rw [ofDayNumber_eq]
  generalize partsOf number = parts at month sum begun ⊢
  unfold dayNumber
  dsimp only
  by_cases spring : parts.month < 10
  · have late : ¬ (parts.month + 3).toNat ≤ 2 := by omega
    simp only [if_pos spring, late, decide_false, Bool.false_eq_true, if_false]
    have named : (((parts.month + 3).toNat : Nat) : Int) - 3 = parts.month := by omega
    rw [named]
    omega
  · have early : (parts.month - 9).toNat ≤ 2 := by omega
    simp only [if_neg spring, early, decide_true, if_true]
    have named : (((parts.month - 9).toNat : Nat) : Int) + 9 = parts.month := by omega
    have before : parts.year + 1 - 1 = parts.year := by omega
    rw [named, before]
    omega

/-- The year after a span of four years has a leap day if the last day of the
span counted from March is a leap day. -/
theorem isLeapYear_of_inYear {parts : Parts} (bounded : parts.Bounded)
    (leap : parts.inYear = 365) : isLeapYear (parts.year + 1) = true := by
  rcases bounded with ⟨centuries, spans, _, _, rare⟩
  rcases rare leap with ⟨years, ends⟩
  have fourth : (parts.year + 1) % 4 = 0 := by
    unfold Parts.year
    omega
  unfold isLeapYear
  by_cases last : parts.spans = 24
  · have all : (parts.year + 1) % 400 = 0 := by
      have three := ends last
      unfold Parts.year
      omega
    simp [fourth, all]
  · have century : (parts.year + 1) % 100 ≠ 0 := by
      unfold Parts.year
      omega
    simp [fourth, century]

theorem valid_ofDayNumber (number : Int) : (ofDayNumber number).Valid := by
  have bounded := bounded_partsOf number
  have month := month_partsOf number
  have inYear := bounded.inYear
  have common := mt (isLeapYear_of_inYear bounded)
  rw [ofDayNumber_eq]
  generalize partsOf number = parts at month inYear common ⊢
  have place : parts.month = (5 * parts.inYear + 2) / 153 := rfl
  generalize parts.month = march at month place ⊢
  rcases month with ⟨first, last⟩
  -- February is the last month, and the only one whose length depends on the year.
  unfold Valid
  cases year : isLeapYear (parts.year + 1) with
  | false =>
      have short := common (by simp [year])
      interval_cases march <;> simp [daysInMonth, daysBeforeMonth, year] <;> omega
  | true => interval_cases march <;> simp [daysInMonth, daysBeforeMonth, year] <;> omega

/-! ## The order of days -/

/-- A day stands before another in the order of year, month and day. -/
def Before (first second : Date) : Prop :=
  first.year < second.year ∨ first.year = second.year ∧
    (first.month < second.month ∨ first.month = second.month ∧ first.day < second.day)

theorem daysBeforeYear_mono {first second : Int} (ordered : first ≤ second) :
    daysBeforeYear first ≤ daysBeforeYear second := by
  unfold daysBeforeYear
  omega

/-- The days of a year end before the next year begins. -/
theorem Parts.Bounded.inYear_lt {parts : Parts} (bounded : parts.Bounded) :
    Date.daysBeforeYear parts.year + parts.inYear < Date.daysBeforeYear (parts.year + 1) := by
  rcases bounded with ⟨centuries, spans, years, inYear, leap⟩
  unfold Date.daysBeforeYear Parts.year
  omega

/-- Of two days the later one lies in a later year counted from March, or
further into the same one. -/
theorem partsOf_lt {first second : Int} (less : first < second) :
    (partsOf first).year < (partsOf second).year ∨
      (partsOf first).year = (partsOf second).year ∧
        (partsOf first).inYear < (partsOf second).inYear := by
  have here := number_partsOf first
  have there := number_partsOf second
  rcases Int.lt_trichotomy (partsOf first).year (partsOf second).year with earlier | same | later
  · exact .inl earlier
  · rw [same] at here
    exact .inr ⟨same, by omega⟩
  · have ends := (bounded_partsOf second).inYear_lt
    have begins := daysBeforeYear_mono (Int.add_one_le_of_lt later)
    have started := (bounded_partsOf first).inYear.1
    omega

/-- Days stand in the order of their numbers. -/
theorem before_ofDayNumber {first second : Int} (less : first < second) :
    (ofDayNumber first).Before (ofDayNumber second) := by
  have order := partsOf_lt less
  have firstMonth := month_partsOf first
  have secondMonth := month_partsOf second
  have started := (bounded_partsOf first).inYear.1
  rw [ofDayNumber_eq, ofDayNumber_eq]
  generalize partsOf first = one at order firstMonth started ⊢
  generalize partsOf second = two at order secondMonth ⊢
  unfold Before
  dsimp only
  rcases order with earlier | ⟨same, further⟩
  · -- January and February belong to the year after the one counted from March.
    split <;> split <;> omega
  · have months : one.month ≤ two.month := by
      unfold Parts.month
      omega
    rw [same]
    by_cases alike : one.month = two.month
    · have begun : daysBeforeMonth one.month ≤ one.inYear := by
        unfold daysBeforeMonth Parts.month
        omega
      rw [alike] at begun ⊢
      exact .inr ⟨rfl, .inr ⟨rfl, by omega⟩⟩
    · split <;> split <;> omega

end Date
end Time
end RowGate
