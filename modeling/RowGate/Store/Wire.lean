import RowGate.Query.Statement
import RowGate.Random
import RowGate.Schema.Stamps
import RowGate.Text.Utf8

namespace RowGate
namespace Wire

/-!
# Values on the wire

A database takes the values of a statement apart from its text, in a binary
format that depends on their types: texts are bytes of UTF-8, numbers and times
are eight bytes with the most significant one first, and a time counts
microseconds from the year 2000.  A decimal is sent as text, which the statement
casts, so that no digit is lost on the way.  Null is sent as the absence of
bytes, but it has a type like any other value.
-/

/-- The types that values are sent as. -/
inductive Kind where
  | text
  | int8
  | bool
  | uuid
  | timestamptz
  | jsonb
deriving DecidableEq, Repr

namespace Kind

/-- The name of a type. -/
def name : Kind → String
  | text => "text"
  | int8 => "int8"
  | bool => "bool"
  | uuid => "uuid"
  | timestamptz => "timestamptz"
  | jsonb => "jsonb"

/-- The type that the values of a column type are sent as. -/
def ofColumn : ColumnType → Kind
  | .text | .numeric => text
  | .integer => int8
  | .boolean => bool
  | .uuid => uuid
  | .timestamp => timestamptz
  | .json => jsonb

end Kind

/-- A value of one of the types; a document is sent as its text. -/
inductive Value where
  | text (content : String)
  | int8 (number : Int)
  | bool (truth : Bool)
  | uuid (id : Uuid)
  | timestamptz (instant : Time.Instant)
  | jsonb (document : String)
deriving DecidableEq

/-! ## Binary format -/

/-- The eight bytes of an integer in two's complement. -/
def int64Bytes (i : Int) : List UInt8 :=
  (List.range 8).map fun place =>
    UInt8.ofNat ((BitVec.ofInt 64 i).toNat >>> (8 * (7 - place)))

/-- The number that bytes write. -/
def natOfBytes (bytes : List UInt8) : Nat :=
  bytes.foldl (fun value byte => value * 256 + byte.toNat) 0

/-- The second in which the year 2000 begins. -/
def epochSeconds : Int := 946684800

/-- The microseconds of an instant from the year 2000, rounded towards it.  A
leap second counts as the second behind it. -/
def micros (t : Time.Instant) : Int :=
  ((t.seconds - epochSeconds) * 1000000000 + t.nanos).tdiv 1000

namespace Value

/-- The bytes of a value.  A document has the version of its format in front. -/
def bytes : Value → List UInt8
  | text content => Text.Utf8.encode content.toList
  | int8 number => int64Bytes number
  | bool truth => [if truth then 1 else 0]
  | uuid id => Random.bytes id.bits
  | timestamptz instant => int64Bytes (micros instant)
  | jsonb document => 1 :: Text.Utf8.encode document.toList

end Value

/-! ## What the database reads -/

/-- The integer of bytes in two's complement. -/
def intOfBytes (bytes : List UInt8) : Int :=
  (BitVec.ofNat 64 (natOfBytes bytes)).toInt

/-- The instant of a number of microseconds from the year 2000. -/
def instantOfMicros (count : Int) : Time.Instant where
  seconds := count / 1000000 + epochSeconds
  nanos := (count % 1000000).toNat * 1000
  nanos_lt := by omega
  leap_last := by omega

namespace Value

/-- The text of bytes; those that are none are replaced. -/
def textOfBytes (bytes : List UInt8) : String :=
  String.ofList (Text.Utf8.decodeLossy bytes)

/-- The value that bytes are read as.  They need not have been written as that
type, but their number has to be right. -/
def ofBytes? (kind : Kind) (bytes : List UInt8) : Option Value :=
  match kind, bytes with
  | .text, bytes => some (text (textOfBytes bytes))
  | .bool, byte :: _ => some (bool (byte != 0))
  | .jsonb, _ :: document => some (jsonb (textOfBytes document))
  | .int8, bytes => if bytes.length = 8 then some (int8 (intOfBytes bytes)) else none
  | .timestamptz, bytes =>
      if bytes.length = 8 then some (timestamptz (instantOfMicros (intOfBytes bytes))) else none
  | .uuid, bytes =>
      if bytes.length = 16 then some (uuid ⟨BitVec.ofNat 128 (natOfBytes bytes)⟩) else none
  | .bool, [] | .jsonb, [] => none

/-- A value as text. -/
def shown : Value → String
  | text content => content
  | int8 number => String.ofList (Json.Number.ofInt number).chars
  | bool truth => if truth then "true" else "false"
  | uuid id => id.text
  | timestamptz instant => instant.text
  | jsonb document => document

end Value

/-! ## Binding -/

/-- The value of a parameter that is not null, if it fits its type.  A text
column takes any value, as its text; the other types take the form in which
their columns store values. -/
def value? (param : Param) : Option Value :=
  match param.type, param.value with
  | .text, .string s => some (.text s)
  | .text, other => some (.text other.render)
  | .integer, value => (value.asInt?.filter ColumnType.inRange).map .int8
  | .numeric, .number n => some (.text n.text)
  | .numeric, _ => none
  | .boolean, value => value.asBool?.map .bool
  | .uuid, value => (value.asString?.bind Uuid.read?).map .uuid
  | .timestamp, value => value.instant?.map .timestamptz
  | .json, value => some (.jsonb value.render)

/-- A parameter as it is sent: its type, and bytes unless it is null. -/
structure Argument where
  kind : Kind
  bytes : Option (List UInt8)
deriving DecidableEq, Repr

namespace Argument

/-- What a database reads in an argument; none is null. -/
def read (argument : Argument) : Option Value :=
  argument.bytes.bind (Value.ofBytes? argument.kind)

/-- Whether a database can read an argument. -/
def isReadable (argument : Argument) : Bool :=
  argument.bytes.all fun bytes => (Value.ofBytes? argument.kind bytes).isSome

end Argument

/-- Bind a parameter. -/
def bind? (param : Param) : Option Argument :=
  if param.value.isNull then some ⟨.ofColumn param.type, none⟩
  else (value? param).map fun value => ⟨.ofColumn param.type, some value.bytes⟩

end Wire
end RowGate
