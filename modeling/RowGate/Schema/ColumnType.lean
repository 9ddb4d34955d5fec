import RowGate.Decimal.Bounded
import RowGate.Json.Writer
import RowGate.Time.Reading
import RowGate.Uuid

namespace RowGate

/-!
# Column types

A column type decides which JSON values a column accepts and the one form in
which each of them is stored.  Null fits every type.  Query strings bring every
value as a text, so each type also reads texts.  A decimal text that is a JSON
number keeps every digit; another spelling, as one with a plus sign, is read as the
nearest binary number and may lose digits.
-/

/-- The type of a column. -/
inductive ColumnType where
  | text
  | integer
  | numeric
  | boolean
  | uuid
  | timestamp
  | json
deriving DecidableEq, Repr

namespace ColumnType

/-- The name of a type. -/
def name : ColumnType → String
  | text => "text"
  | integer => "integer"
  | numeric => "numeric"
  | boolean => "boolean"
  | uuid => "uuid"
  | timestamp => "timestamp"
  | json => "json"

/-- All types. -/
def all : List ColumnType :=
  [text, integer, numeric, boolean, uuid, timestamp, json]

/-- The type of a name. -/
def ofName? (name : String) : Option ColumnType :=
  all.find? fun type => type.name == name

/-- The type that stands for a type of the database.  What is not listed is
treated as text. -/
def ofDatabase (name : String) : ColumnType :=
  if name ∈ ["smallint", "integer", "bigint"] then integer
  else if name ∈ ["numeric", "real", "double precision", "decimal"] then numeric
  else if name = "boolean" then boolean
  else if name = "uuid" then uuid
  else if name ∈ ["date", "timestamp with time zone", "timestamp without time zone"] then timestamp
  else if name ∈ ["json", "jsonb"] then json
  else text

/-! ## Integers -/

/-- The integers of 64 bits. -/
def inRange (i : Int) : Bool :=
  Bounded.minInt64 ≤ i && i ≤ Bounded.maxInt64

/-- The 64-bit integer of a number: the one that is written out, or else the
nearest binary number if that is an integer of smaller magnitude than 2 to the
power 63. -/
def integerOfNumber? (n : Json.Number) : Option Int :=
  match n.plainInt?.filter inRange with
  | some i => some i
  | none =>
      (n.binary?.bind Binary64.toInt?).filter fun i => i.natAbs < 9223372036854775808

/-- The 64-bit integer of a text: a sign or none, and digits. -/
def integerOfText? (s : String) : Option Int :=
  Bounded.signed? Bounded.minInt64 Bounded.maxInt64 (Text.trimmed s.toList)

/-! ## Decimals -/

/-- The number of a decimal text: the text itself if it is a JSON number, or
else the shortest text of its nearest binary number. -/
def numberOfText? (s : String) : Option Json.Number :=
  let trimmed := Text.trim s
  match Json.Number.read? trimmed with
  | some n => some n
  | none =>
      ((Json.Number.decimal? trimmed).bind Binary64.ofDecimal?).map Json.Number.ofBinary

/-! ## Coercion -/

/-- The truth value of a text. -/
def boolOfText? (s : String) : Option Bool :=
  if s = "true" ∨ s = "t" then some true
  else if s = "false" ∨ s = "f" then some false
  else none

/-- The form in which a column stores a value; none if the value does not fit. -/
def coerce? : ColumnType → Json → Option Json
  | _, .null => some .null
  | json, value => some value
  | text, .string s => some (.string s)
  | text, .number n => some (.string n.text)
  | text, .bool b => some (.string (if b then "true" else "false"))
  | integer, .number n => (integerOfNumber? n).map Json.ofInt
  | integer, .string s => (integerOfText? s).map Json.ofInt
  | numeric, .number n => some (.number n)
  | numeric, .string s => (numberOfText? s).map .number
  | boolean, .bool b => some (.bool b)
  | boolean, .string s => (boolOfText? s).map .bool
  | uuid, .string s => (Uuid.read? (Text.trim s)).map fun id => .string id.text
  | timestamp, .string s => (Time.read? s).map fun instant => .string instant.text
  | _, _ => none

/-- What is said of a value that does not fit. -/
def mismatch (type : ColumnType) (value : Json) : String :=
  "expected " ++ type.name ++ ", got " ++ value.render

end ColumnType
end RowGate
