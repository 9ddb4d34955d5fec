import RowGate.Decimal.Shortest

namespace RowGate
namespace Json

/-!
# Number texts

A JSON number keeps its text: the digits before the point, those behind it and
the exponent as they were written, so that `1.50` and `1.5` are two numbers.
Only the spelling of the exponent is settled, to a small letter and an explicit
sign.  Two numbers are equal exactly when their texts are; the decimal that a
number denotes and its nearest binary number are views of it.
-/

/-- The exponent of a number text. -/
structure Exponent where
  negative : Bool
  digits : List Digit
  digits_ne_nil : digits ≠ []
deriving DecidableEq, Repr

namespace Exponent

/-- The exponent as an integer. -/
def value (e : Exponent) : Int :=
  if e.negative then -(Digits.value e.digits : Int) else Digits.value e.digits

/-- The exponent as it is written. -/
def chars (e : Exponent) : List Char :=
  'e' :: (if e.negative then '-' else '+') :: Digits.chars e.digits

end Exponent

/-- A number text.  The whole part has no leading zero, and an empty fraction
means that no point is written. -/
structure Number where
  negative : Bool
  whole : List Digit
  fraction : List Digit
  exponent : Option Exponent
  whole_plain : Digits.Plain whole
deriving DecidableEq, Repr

namespace Number

/-- The characters of a number text. -/
def chars (n : Number) : List Char :=
  (if n.negative then ['-'] else []) ++ Digits.chars n.whole ++
    (if n.fraction = [] then [] else '.' :: Digits.chars n.fraction) ++
    (n.exponent.map Exponent.chars).getD []

/-- The text of a number. -/
def text (n : Number) : String :=
  String.ofList n.chars

/-- The decimal that a number denotes, with every digit. -/
def decimal (n : Number) : Decimal where
  negative := n.negative
  coefficient := Digits.value (n.whole ++ n.fraction)
  exponent := (n.exponent.map Exponent.value).getD 0 - n.fraction.length

/-- The nearest finite binary number. -/
def binary? (n : Number) : Option Binary64 :=
  Binary64.ofDecimal? n.decimal

/-- The integer that is written without point and exponent. -/
def plainInt? (n : Number) : Option Int :=
  if n.fraction = [] ∧ n.exponent = none then
    some (if n.negative then -(Digits.value n.whole : Int) else Digits.value n.whole)
  else none

/-- The number that writes an integer. -/
def ofInt (i : Int) : Number where
  negative := decide (i < 0)
  whole := Digits.ofNat i.natAbs
  fraction := []
  exponent := none
  whole_plain := Digits.plain_ofNat _

/-- The number that writes a natural number. -/
def ofNat (n : Nat) : Number :=
  ofInt n

/-- Make a number of a whole part that may have leading zeros. -/
def ofDigits (negative : Bool) (whole fraction : List Digit) (exponent : Option Exponent) :
    Number where
  negative := negative
  whole := Digits.ofNat (Digits.value whole)
  fraction := fraction
  exponent := exponent
  whole_plain := Digits.plain_ofNat _

/-- Where a binary number is written with a point alone: from the fifth place
behind the point to the sixteenth before it. -/
def positional (place : Int) : Bool :=
  -5 ≤ place && place ≤ 15

/-- The shortest number text that reads back as a binary number.  It is
positional with at least one digit behind the point, or has one digit before
the point and an exponent. -/
def ofBinary (b : Binary64) : Number :=
  let shortest := b.shortest
  let digits := Digits.ofNat shortest.coefficient
  let place : Int := (digits.length : Int) - 1 + shortest.exponent
  if shortest.coefficient = 0 then ofDigits b.negative (Digits.zeros 1) (Digits.zeros 1) none
  else if positional place then
    if 0 ≤ shortest.exponent then
      ofDigits b.negative (digits ++ Digits.zeros shortest.exponent.toNat) (Digits.zeros 1) none
    else if 0 ≤ place then
      ofDigits b.negative (digits.take (place.toNat + 1)) (digits.drop (place.toNat + 1)) none
    else
      ofDigits b.negative (Digits.zeros 1) (Digits.zeros (-place - 1).toNat ++ digits) none
  else
    ofDigits b.negative (digits.take 1) (digits.drop 1)
      (some ⟨decide (place < 0), Digits.ofNat place.natAbs, Digits.ofNat_ne_nil _⟩)

/-! ## Reading -/

/-- The part behind a point: at least one digit, or nothing without a point. -/
def scanFraction : List Char → Option (List Digit × List Char)
  | '.' :: rest =>
      match Digits.span rest with
      | ([], _) => none
      | (ds, tail) => some (ds, tail)
  | cs => some ([], cs)

/-- The sign of an exponent. -/
def scanSign : List Char → Bool × List Char
  | '+' :: rest => (false, rest)
  | '-' :: rest => (true, rest)
  | cs => (false, cs)

/-- The exponent after its letter. -/
def scanExponentTail (cs : List Char) : Option (Option Exponent × List Char) :=
  let signed := scanSign cs
  match Digits.span signed.2 with
  | ([], _) => none
  | (d :: ds, tail) => some (some ⟨signed.1, d :: ds, List.cons_ne_nil _ _⟩, tail)

/-- The exponent, if a letter announces one. -/
def scanExponent : List Char → Option (Option Exponent × List Char)
  | 'e' :: rest => scanExponentTail rest
  | 'E' :: rest => scanExponentTail rest
  | cs => some (none, cs)

/-- Read the unsigned part of a number.  A run with a superfluous zero in front
is no number. -/
def scanUnsigned (negative : Bool) (cs : List Char) : Option (Number × List Char) :=
  let run := Digits.span cs
  if plain : Digits.Plain run.1 then do
    let fraction ← scanFraction run.2
    let exponent ← scanExponent fraction.2
    some (⟨negative, run.1, fraction.1, exponent.1, plain⟩, exponent.2)
  else none

/-- Read the longest number in front. -/
def scan : List Char → Option (Number × List Char)
  | '-' :: rest => scanUnsigned true rest
  | cs => scanUnsigned false cs

/-- Read a whole text as a number. -/
def read? (s : String) : Option Number :=
  match scan s.toList with
  | some (n, []) => some n
  | _ => none

/-! ## A wider decimal syntax

Text columns and query strings may bring decimals that JSON does not write: a
plus sign, leading zeros, a point with digits on one side only. -/

/-- Read sign, digits, point, digits and exponent, where one digit suffices. -/
def scanDecimal (cs : List Char) : Option (Decimal × List Char) := do
  let signed := scanSign cs
  let run := Digits.span signed.2
  let behind : List Digit × List Char :=
    match run.2 with
    | '.' :: rest => Digits.span rest
    | other => ([], other)
  if run.1 = [] ∧ behind.1 = [] then none
  let exponent ← scanExponent behind.2
  some (⟨signed.1, Digits.value (run.1 ++ behind.1),
    (exponent.1.map Exponent.value).getD 0 - behind.1.length⟩, exponent.2)

/-- Read a whole text as a decimal in the wider syntax. -/
def decimal? (s : String) : Option Decimal :=
  match scanDecimal s.toList with
  | some (d, []) => some d
  | _ => none

end Number
end Json
end RowGate
