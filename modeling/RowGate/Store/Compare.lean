import RowGate.Json.Writer
import RowGate.Query.Statement

namespace RowGate

/-!
# Comparing cells

Two cells compare only when they are of one kind and neither is null; otherwise
a comparison is unknown, and so is its negation.  A row satisfies conditions
when none of them is false or unknown.  Numbers of different texts are compared
after rounding to binary64.  For sorting, missing cells and nulls come behind
all values.
-/

namespace Json

/-- False comes before true. -/
def compareBools : Bool → Bool → Ordering
  | false, true => .lt
  | true, false => .gt
  | _, _ => .eq

/-- Compare two numbers; none if one of them has no finite binary value. -/
def compareNumbers? (a b : Number) : Option Ordering :=
  if a = b then some .eq
  else
    match a.binary?, b.binary? with
    | some x, some y => some (x.compare y)
    | _, _ => none

/-- Compare two values of one kind; containers are compared by their texts. -/
def compare? : Json → Json → Option Ordering
  | .number a, .number b => compareNumbers? a b
  | .string a, .string b => some (compare a b)
  | .bool a, .bool b => some (compareBools a b)
  | .array a, .array b => some (compare (render (.array a)) (render (.array b)))
  | .object a, .object b => some (compare (render (.object a)) (render (.object b)))
  | _, _ => none

/-- The order of cells in a sorted read. -/
def compareKeys (a b : Option Json) : Ordering :=
  match a.filter (fun value => !value.isNull), b.filter (fun value => !value.isNull) with
  | some a, some b => (a.compare? b).getD .eq
  | some _, none => .lt
  | none, some _ => .gt
  | none, none => .eq

end Json

namespace Comparison

/-- Whether a comparison holds for an order. -/
def holds : Comparison → Ordering → Bool
  | eq, order => order == .eq
  | neq, order => order != .eq
  | lte, order => order != .gt
  | gte, order => order != .lt

end Comparison

namespace Condition

/-- The truth value of a condition on a row; none is unknown. -/
def evaluate (condition : Condition) (row : Row) : Option Bool := do
  let cell ← row.get? condition.column
  let order ← cell.compare? condition.param.value
  some (condition.operator.comparison.holds order != condition.operator.negated)

end Condition

namespace Row

/-- Whether every condition is true of a row. -/
def satisfies (row : Row) (conditions : List Condition) : Bool :=
  conditions.all fun condition => condition.evaluate row == some true

end Row
end RowGate
