import RowGate.Text.Hex
import RowGate.Text.Split
import RowGate.Text.Utf8

namespace RowGate
namespace Text
namespace Percent

/-!
# Percent signs in paths and queries

In the parts of an address a percent sign and two hexadecimal digits stand for
a byte.  A query is a list of pairs between ampersands, in which a plus sign
stands for a blank and bytes that are no text are replaced.
-/

/-- The bytes of a text with its percent signs resolved.  One that is not
followed by two digits stands for itself. -/
def decode : List Char → List UInt8
  | [] => []
  | '%' :: high :: low :: rest =>
      match Hex.read [high, low] with
      | some byte => UInt8.ofNat byte :: decode rest
      | none => Utf8.encode ['%'] ++ decode (high :: low :: rest)
  | c :: rest => Utf8.encode [c] ++ decode rest

/-- The text of a text with its percent signs resolved. -/
def read (cs : List Char) : Except Utf8.Flaw String :=
  (Utf8.read (decode cs)).map String.ofList

/-- A key or a value of a query. -/
def part (cs : List Char) : String :=
  let spaced := cs.map fun c => if c = '+' then ' ' else c
  String.ofList (Utf8.decodeLossy (decode spaced))

/-- A pair of a query; without an equals sign the value is empty. -/
def pair (cs : List Char) : String × String :=
  match cutFirst '=' cs with
  | some (key, value) => (part key, part value)
  | none => (part cs, "")

/-- The pairs of a query, in order. -/
def pairs (query : List Char) : List (String × String) :=
  ((pieces '&' query).filter (· ≠ [])).map pair

end Percent
end Text
end RowGate
