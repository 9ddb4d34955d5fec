import RowGate.Text.Hex
import RowGate.Text.Split

namespace RowGate
namespace Unicode

/-!
# Tables of code points

Properties of characters are tables of closed ranges of code points in
increasing order.  A table is written as words between blanks and line breaks:
the hexadecimal number of a code point, or those of the two ends of a range with
a hyphen between them.
-/

/-- The number of a code point that is written in hexadecimal digits. -/
def codePoint (digits : List Char) : Nat :=
  (Text.Hex.read digits).getD 0

/-- The words of a table. -/
def words (table : String) : List (List Char) :=
  (Text.pieces ' ' (table.toList.map fun c => if c = '\n' then ' ' else c)).filter (· ≠ [])

/-- A closed range of code points. -/
structure CodeRange where
  first : Nat
  last : Nat
deriving DecidableEq, Repr

namespace CodeRange

/-- The range that a word stands for. -/
def ofWord (word : List Char) : CodeRange :=
  match Text.cutFirst '-' word with
  | some (first, last) => ⟨codePoint first, codePoint last⟩
  | none => ⟨codePoint word, codePoint word⟩

/-- The ranges of a table. -/
def table (text : String) : Array CodeRange :=
  ((words text).map ofWord).toArray

/-- Whether a range ends before another one begins. -/
def isBefore (a b : CodeRange) : Bool :=
  a.last < b.first

end CodeRange

/-- Whether a character is in one of the ranges of a table. -/
def isAmong (table : Array CodeRange) (c : Char) : Bool :=
  (table.binSearch ⟨c.toNat, c.toNat⟩ CodeRange.isBefore).isSome

end Unicode
end RowGate
