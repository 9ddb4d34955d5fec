namespace RowGate
namespace Time

/-!
# The calendar

Days are counted from 1970-01-01 in the Gregorian calendar, which is extended
to all years.  Years are counted from March, so that the leap day is the last
day of a year and the days before each month follow one linear rule.  A day
number is taken apart into a cycle of 400 years, centuries, spans of four years
and years, where the last part of each may be one day longer.
-/

/-- A day of the calendar, months and days counted from one. -/
structure Date where
  year : Int
  month : Nat
  day : Nat
deriving DecidableEq, Repr

/-- Whether a year has a leap day. -/
def isLeapYear (year : Int) : Bool :=
  year % 4 = 0 && (year % 100 ≠ 0 || year % 400 = 0)

/-- The number of days of a month. -/
def daysInMonth (year : Int) (month : Nat) : Nat :=
  if month = 2 then if isLeapYear year then 29 else 28
  else if month = 4 ∨ month = 6 ∨ month = 9 ∨ month = 11 then 30
  else 31

namespace Date

/-- Month and day exist in the year. -/
def Valid (date : Date) : Prop :=
  1 ≤ date.month ∧ date.month ≤ 12 ∧ 1 ≤ date.day ∧ date.day ≤ daysInMonth date.year date.month

instance (date : Date) : Decidable date.Valid :=
  inferInstanceAs (Decidable (_ ∧ _ ∧ _ ∧ _))

/-- The days before the first of March of a year, from the first of March of
year zero. -/
def daysBeforeYear (year : Int) : Int :=
  365 * year + year / 4 - year / 100 + year / 400

/-- The days before a month, months counted from zero for March. -/
def daysBeforeMonth (month : Int) : Int :=
  (153 * month + 2) / 5

/-- The day number of the first of March of year zero, below 1970-01-01. -/
def epoch : Int := 719468

/-- The number of a day, zero for 1970-01-01. -/
def dayNumber (date : Date) : Int :=
  let early : Bool := date.month ≤ 2
  let year := if early then date.year - 1 else date.year
  let month : Int := if early then date.month + 9 else date.month - 3
  daysBeforeYear year + daysBeforeMonth month + (date.day - 1) - epoch

/-- The day of a number. -/
def ofDayNumber (number : Int) : Date :=
  let cycles := (number + epoch) / 146097
  let inCycle := (number + epoch) % 146097
  let centuries := min 3 (inCycle / 36524)
  let inCentury := inCycle - centuries * 36524
  let spans := inCentury / 1461
  let inSpan := inCentury - spans * 1461
  let years := min 3 (inSpan / 365)
  let inYear := inSpan - years * 365
  let month := (5 * inYear + 2) / 153
  let year := 400 * cycles + 100 * centuries + 4 * spans + years
  { year := if month < 10 then year else year + 1
    month := (if month < 10 then month + 3 else month - 9).toNat
    day := (inYear - daysBeforeMonth month + 1).toNat }

end Date
end Time
end RowGate
