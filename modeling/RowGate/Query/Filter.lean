import RowGate.Json.Basic
import RowGate.Text.Word

namespace RowGate

/-!
# Filters

The value of a filter is an operator, a dot and an operand, or an operand
alone, which is tested for equality.  The operator is a run of word characters;
the operand keeps later dots and line breaks.  Four comparisons and their
negations are recognized, and a predicate with another operator is dropped when
a request is planned.
-/

/-- A comparison of a cell with an operand. -/
inductive Comparison where
  | eq
  | neq
  | lte
  | gte
deriving DecidableEq, Repr

namespace Comparison

/-- The word for a comparison in a filter. -/
def word : Comparison → String
  | eq => "eq"
  | neq => "neq"
  | lte => "lte"
  | gte => "gte"

/-- The comparison of a word. -/
def ofWord? : String → Option Comparison
  | "eq" => some eq
  | "neq" => some neq
  | "lte" => some lte
  | "gte" => some gte
  | _ => none

/-- The sign for a comparison in SQL. -/
def sign : Comparison → String
  | eq => "="
  | neq => "!="
  | lte => "<="
  | gte => ">="

end Comparison

/-- A comparison, negated or not. -/
structure Operator where
  comparison : Comparison
  negated : Bool
deriving DecidableEq, Repr

namespace Operator

/-- The token of an operator. -/
def token (operator : Operator) : String :=
  if operator.negated then "not_" ++ operator.comparison.word else operator.comparison.word

/-- The operator of a token.  What stands behind `not_` has to be a comparison
itself, so no operator is negated twice. -/
def ofToken? (token : String) : Option Operator :=
  match "not_".toList.isPrefixOf? token.toList with
  | some word => (Comparison.ofWord? (String.ofList word)).map (⟨·, true⟩)
  | none => (Comparison.ofWord? token).map (⟨·, false⟩)

end Operator

/-- A condition as a caller states it. -/
structure Predicate where
  column : String
  operator : String
  value : Json
deriving DecidableEq

namespace Filter

/-- Split a text into the word before its first dot and what follows the dot.
Nothing else may stand before the dot. -/
def split? (cs : List Char) : Option (List Char × List Char) :=
  match cs.takeWhile Text.isWord, cs.dropWhile Text.isWord with
  | c :: word, '.' :: operand => some (c :: word, operand)
  | _, _ => none

/-- Operator and operand of the value of a filter. -/
def read : Json → String × Json
  | .string s =>
      match split? s.toList with
      | some (word, operand) => (String.ofList word, .string (String.ofList operand))
      | none => (Comparison.eq.word, .string s)
  | value => (Comparison.eq.word, value)

end Filter

namespace Predicate

/-- The predicate of a column and the value of a filter. -/
def ofFilter (column : String) (value : Json) : Predicate :=
  let parts := Filter.read value
  ⟨column, parts.1, parts.2⟩

/-- The predicate of a pair in a query string. -/
def ofPair (column raw : String) : Predicate :=
  ofFilter column (.string raw)

/-- The operator, if it is recognized. -/
def operator? (predicate : Predicate) : Option Operator :=
  Operator.ofToken? predicate.operator

end Predicate
end RowGate
