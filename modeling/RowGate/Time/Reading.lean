import RowGate.Text.Blank
import RowGate.Time.Instant

namespace RowGate
namespace Time

/-!
# Reading timestamps

Four forms are tried in turn.  The first is strict: fields of fixed width, one
separator between date and time, and an offset from UTC.  The other three are
lenient and carry no offset: fields may have fewer digits and blanks before
them, a year may be signed, and between date and time stand a `T`, or any
blanks, or the time is left out and midnight is meant.  A fraction of a second
needs a digit and counts to the nanosecond.
-/

/-- Read at most `most` digits. -/
def digitsUpTo : Nat → List Char → List Digit × List Char
  | 0, cs => ([], cs)
  | _ + 1, [] => ([], [])
  | most + 1, c :: rest =>
      match Digit.ofChar? c with
      | none => ([], c :: rest)
      | some d =>
          let tail := digitsUpTo most rest
          (d :: tail.1, tail.2)

/-- Read a number of exactly `width` digits. -/
def fixed (width : Nat) (cs : List Char) : Option (Nat × List Char) :=
  let run := digitsUpTo width cs
  if run.1.length = width then some (Digits.value run.1, run.2) else none

/-- Read a number of one digit up to `most`, with blanks before it. -/
def loose (most : Nat) (cs : List Char) : Option (Nat × List Char) :=
  let run := digitsUpTo most (Text.trimStart cs)
  if run.1 = [] then none else some (Digits.value run.1, run.2)

/-- Read one given character. -/
def mark (expected : Char) : List Char → Option (List Char)
  | [] => none
  | c :: rest => if c = expected then some rest else none

/-- The nanoseconds of the digits behind the point; the tenth and later digits
are passed over. -/
def nanosOf (ds : List Digit) : Nat :=
  Digits.value (ds.take 9 ++ Digits.zeros (9 - ds.length))

/-- Read a fraction of a second, if a point announces one. -/
def fraction : List Char → Option (Nat × List Char)
  | '.' :: rest =>
      match Digits.span rest with
      | ([], _) => none
      | (ds, tail) => some (nanosOf ds, tail)
  | cs => some (0, cs)

/-! ## From fields to an instant -/

/-- The years that dates may have. -/
def yearInRange (year : Int) : Bool :=
  -262143 ≤ year && year ≤ 262142

/-- The instant of a date and a time of day at an offset from UTC in minutes.
Second sixty is the leap second of its minute. -/
def instant? (date : Date) (hour minute second nanos : Nat) (offset : Int) : Option Instant :=
  if ranges : date.Valid ∧ yearInRange date.year ∧ hour < 24 ∧ minute < 60 ∧ second ≤ 60 ∧
      nanos < 1000000000 then
    let inMinutes := date.dayNumber * 1440 + hour * 60 + minute - offset
    if leap : second = 60 then
      some ⟨inMinutes * 60 + 59, nanos + 1000000000, by omega, by omega⟩
    else some ⟨inMinutes * 60 + second, nanos, by omega, by omega⟩
  else none

/-! ## The strict form -/

/-- Read two digits, a colon and two digits. -/
def hourMinute (cs : List Char) : Option ((Nat × Nat) × List Char) := do
  let (hour, rest) ← fixed 2 cs
  let (minute, rest) ← fixed 2 (← mark ':' rest)
  some ((hour, minute), rest)

/-- Read an offset in minutes: `Z`, or a sign, hours and minutes. -/
def offset : List Char → Option (Int × List Char)
  | [] => none
  | c :: rest =>
      if c = 'Z' ∨ c = 'z' then some (0, rest)
      else if c = '+' ∨ c = '-' ∨ c = '\u2212' then do
        let ((hours, minutes), rest) ← hourMinute rest
        if 23 < hours ∨ 59 < minutes then none
        let size : Int := hours * 60 + minutes
        some (if c = '+' then size else -size, rest)
      else none

/-- Read the strict form. -/
def strict? (cs : List Char) : Option Instant := do
  let (year, rest) ← fixed 4 cs
  let (month, rest) ← fixed 2 (← mark '-' rest)
  let (day, rest) ← fixed 2 (← mark '-' rest)
  let rest ←
    match rest with
    | c :: rest => if c = 'T' ∨ c = 't' ∨ c = ' ' then some rest else none
    | [] => none
  let ((hour, minute), rest) ← hourMinute rest
  let (second, rest) ← fixed 2 (← mark ':' rest)
  let (nanos, rest) ← fraction rest
  let (minutes, rest) ← offset rest
  if rest ≠ [] then none
  instant? ⟨year, month, day⟩ hour minute second nanos minutes

/-! ## The lenient forms -/

/-- Read a year: up to four digits, or a sign and any number of digits. -/
def looseYear (cs : List Char) : Option (Int × List Char) :=
  match Text.trimStart cs with
  | '+' :: rest =>
      match Digits.span rest with
      | ([], _) => none
      | (ds, tail) => some ((Digits.value ds : Int), tail)
  | '-' :: rest =>
      match Digits.span rest with
      | ([], _) => none
      | (ds, tail) => some (-(Digits.value ds : Int), tail)
  | other => (loose 4 other).map fun read => ((read.1 : Int), read.2)

/-- Read a date. -/
def looseDate (cs : List Char) : Option (Date × List Char) := do
  let (year, rest) ← looseYear cs
  let (month, rest) ← loose 2 (← mark '-' rest)
  let (day, rest) ← loose 2 (← mark '-' rest)
  some (⟨year, month, day⟩, rest)

/-- Read a time of day up to the end and join it to a date. -/
def looseTime (date : Date) (cs : List Char) : Option Instant := do
  let (hour, rest) ← loose 2 cs
  let (minute, rest) ← loose 2 (← mark ':' rest)
  let (second, rest) ← loose 2 (← mark ':' rest)
  let (nanos, rest) ← fraction rest
  if rest ≠ [] then none
  instant? date hour minute second nanos 0

/-- Read date and time with a `T` between them. -/
def markedForm? (cs : List Char) : Option Instant := do
  let (date, rest) ← looseDate cs
  looseTime date (← mark 'T' rest)

/-- Read date and time with blanks, or nothing, between them. -/
def blankForm? (cs : List Char) : Option Instant := do
  let (date, rest) ← looseDate cs
  looseTime date (Text.trimStart rest)

/-- Read a date alone. -/
def dateForm? (cs : List Char) : Option Instant := do
  let (date, rest) ← looseDate cs
  if rest ≠ [] then none
  instant? date 0 0 0 0 0

/-- Read a timestamp in the first form that fits; blanks at the ends do not
count. -/
def read? (text : String) : Option Instant :=
  let cs := Text.trimmed text.toList
  strict? cs <|> markedForm? cs <|> blankForm? cs <|> dateForm? cs

end Time
end RowGate
