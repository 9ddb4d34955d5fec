import RowGate.Decimal.Digits
import RowGate.Time.Calendar

namespace RowGate
namespace Time

/-!
# Instants

An instant is a second and a number of nanoseconds behind it.  A leap second is
the second before it with more than a whole second of nanoseconds, and only the
last second of a minute has one.  Instants are ordered by second and
nanosecond, and are written in the UTC zone to the millisecond: the text of an
instant is that of the last millisecond not behind it.
-/

/-- A point in time: seconds from 1970-01-01T00:00:00Z and nanoseconds. -/
structure Instant where
  seconds : Int
  nanos : Nat
  nanos_lt : nanos < 2000000000
  leap_last : 1000000000 ≤ nanos → seconds % 60 = 59
deriving DecidableEq, Repr

namespace Instant

/-- The instant of a number of milliseconds from the epoch. -/
def ofMillis (millis : Int) : Instant where
  seconds := millis / 1000
  nanos := (millis % 1000).toNat * 1000000
  nanos_lt := by omega
  leap_last := by omega

/-- The milliseconds from the epoch. -/
def millis (t : Instant) : Int :=
  t.seconds * 1000 + (t.nanos / 1000000 : Nat)

/-- Order by second, then by nanosecond. -/
def compare (first second : Instant) : Ordering :=
  (Ord.compare first.seconds second.seconds).then (Ord.compare first.nanos second.nanos)

/-- One instant is earlier than another. -/
def before (first second : Instant) : Bool :=
  first.compare second == .lt

/-! ## Writing -/

/-- A number with zeros in front up to a width. -/
def padded (width n : Nat) : List Char :=
  let digits := Digits.chars (Digits.ofNat n)
  List.replicate (width - digits.length) '0' ++ digits

/-- A year: four digits, or a sign and at least four digits outside 0 to 9999. -/
def yearChars (year : Int) : List Char :=
  if 0 ≤ year ∧ year ≤ 9999 then padded 4 year.toNat
  else (if year < 0 then '-' else '+') :: padded 4 year.natAbs

/-- A day, as year, month and day of the month. -/
def dateChars (date : Date) : List Char :=
  yearChars date.year ++ '-' :: padded 2 date.month ++ '-' :: padded 2 date.day

/-- The characters of an instant. -/
def chars (t : Instant) : List Char :=
  let inDay := (t.seconds % 86400).toNat
  let leap := t.nanos / 1000000000
  dateChars (.ofDayNumber (t.seconds / 86400)) ++ 'T' :: padded 2 (inDay / 3600) ++
    ':' :: padded 2 (inDay / 60 % 60) ++ ':' :: padded 2 (inDay % 60 + leap) ++
    '.' :: padded 3 (t.nanos % 1000000000 / 1000000) ++ ['Z']

/-- The text of an instant. -/
def text (t : Instant) : String :=
  String.ofList t.chars

end Instant
end Time
end RowGate
