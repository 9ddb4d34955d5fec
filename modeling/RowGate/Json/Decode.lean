import RowGate.Json.Reader

namespace RowGate
namespace Json
namespace Decode

/-!
# Records from JSON

Settings, sessions and catalogs are records with named fields.  A record is
made of an object, whose other members do not count and whose fields may occur
once only, or of an array that lists the fields in order.  Both forms give the
named values that are present.  The shape of a record says which fields there
are, so that the reader passes over everything else.
-/

/-- The named values of an object; none if a known name occurs twice. -/
def ofMembers? (names : List String) (members : List (String × Json)) :
    Option (List (String × Json)) :=
  let known := members.filter fun entry => names.contains entry.1
  if (known.map Prod.fst).Nodup then some known else none

/-- The named values of a record; none if a list has more items than the shape
has fields. -/
def fields? (shape : Shape) : Json → Option (List (String × Json))
  | .object members => ofMembers? shape.names members
  | .array items =>
      if items.length ≤ shape.names.length then some (shape.names.zip items) else none
  | _ => none

variable {α : Type}

/-- A field that has to be present. -/
def required (values : List (String × Json)) (name : String) (decode : Json → Option α) :
    Option α :=
  (Entries.find? name values).bind decode

/-- A field with a value for its absence. -/
def withDefault (values : List (String × Json)) (name : String) (decode : Json → Option α)
    (default : α) : Option α :=
  match Entries.find? name values with
  | none => some default
  | some value => decode value

/-- A value, or null for none. -/
def nullable (decode : Json → Option α) : Json → Option (Option α)
  | .null => some none
  | value => (decode value).map some

/-- An array of values. -/
def list (decode : Json → Option α) : Json → Option (List α)
  | .array items => items.mapM decode
  | _ => none

/-- An integer between two bounds, written without point, exponent or minus
zero. -/
def intBetween (low high : Int) : Json → Option Int
  | .number n =>
      match n.plainInt? with
      | some i => if low ≤ i ∧ i ≤ high ∧ ¬ (n.negative ∧ i = 0) then some i else none
      | none => none
  | _ => none

/-- A natural number up to a bound. -/
def natUpTo (high : Nat) (value : Json) : Option Nat :=
  (intBetween 0 high value).map Int.toNat

end Decode

/-- Read a document of a shape and decode it.  A value that is no such record is
a fault at the end of the text. -/
def decode {α : Type} (shape : Shape) (make : Json → Option α) (text : String) :
    Except Fault α :=
  (readShape shape text).bind fun value =>
    match make value with
    | some result => .ok result
    | none => .error (.after .badShape text.toList)

end Json
end RowGate
