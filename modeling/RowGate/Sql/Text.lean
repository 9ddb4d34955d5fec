import RowGate.Query.Statement
import RowGate.Text.Split

namespace RowGate
namespace Sql

/-!
# SQL text

A statement is written as SQL with numbered placeholders for its values, which
never become part of the text.  Names do, in double quotes with quotes doubled.
The values are numbered from left to right: those of an insert, or of the
assignments, the touch and the conditions.
-/

/-- SQL text and the values of its placeholders. -/
structure Compiled where
  text : List Char
  params : List Param
deriving DecidableEq

namespace Compiled

/-- The text as a string. -/
def sql (compiled : Compiled) : String :=
  String.ofList compiled.text

end Compiled

/-- The characters of a name, quotes doubled. -/
def doubled : List Char → List Char
  | [] => []
  | c :: rest => if c = '"' then '"' :: '"' :: doubled rest else c :: doubled rest

/-- A name in quotes. -/
def quoted (name : String) : List Char :=
  '"' :: doubled name.toList ++ ['"']

/-- The characters of a number. -/
def number (n : Nat) : List Char :=
  Digits.chars (Digits.ofNat n)

/-- The placeholder of a value.  Decimals are bound as text and cast. -/
def placeholder (param : Param) (index : Nat) : List Char :=
  '$' :: number index ++ (if param.type = .numeric then "::numeric".toList else [])

/-- The separator of names and values. -/
def comma : List Char := [',', ' ']

/-! ## Clauses -/

/-- A condition; `index` is the number of its value. -/
def condition (condition : Condition) (index : Nat) : List Char :=
  let comparison := quoted condition.column ++ ' ' :: condition.operator.comparison.sign.toList ++
    ' ' :: placeholder condition.param index
  if condition.operator.negated then "NOT (".toList ++ comparison ++ [')'] else comparison

/-- Conditions whose values are numbered from `index` on. -/
def conditionList : List Condition → Nat → List (List Char)
  | [], _ => []
  | first :: rest, index => condition first index :: conditionList rest (index + 1)

/-- The test of rows, joined by `AND`; none without conditions.  `bound` values
stand before it. -/
def test? (conditions : List Condition) (bound : Nat) : Option (List Char) :=
  if conditions = [] then none
  else some (Text.joined " AND ".toList (conditionList conditions (bound + 1)))

/-- The clause that restricts a statement to its rows. -/
def whereClause (conditions : List Condition) (bound : Nat) : List Char :=
  match test? conditions bound with
  | none => []
  | some test => " WHERE ".toList ++ test

/-- Placeholders numbered from `index` on. -/
def placeholders : List Param → Nat → List (List Char)
  | [], _ => []
  | param :: rest, index => placeholder param index :: placeholders rest (index + 1)

/-- Assignments whose values are numbered from `index` on. -/
def assignmentList : List (String × Param) → Nat → List (List Char)
  | [], _ => []
  | (column, param) :: rest, index =>
      (quoted column ++ " = ".toList ++ placeholder param index) :: assignmentList rest (index + 1)

/-- A touch as an assignment. -/
def touchAssignment (touch : Touch) (index : Nat) : List Char :=
  quoted touch.column ++ " = GREATEST(".toList ++ placeholder touch.param index ++ comma ++
    quoted touch.floor ++ [')']

/-- What a read returns. -/
def columnClause (selection : Selection) : List Char :=
  if selection.counting then "count(*) AS count".toList
  else
    match selection.projection with
    | .all => ['*']
    | .columns names => Text.joined comma (names.map quoted)

/-- Order and limit of a read. -/
def orderClause (selection : Selection) : List Char :=
  if selection.counting then []
  else
    (match selection.order with
    | none => []
    | some order =>
        " ORDER BY ".toList ++ quoted order.column ++
          (if order.ascending then " ASC".toList else " DESC".toList)) ++
      (match selection.limit with
      | none => []
      | some limit => " LIMIT ".toList ++ number limit)

/-- The end of a write: the rows it touched are returned. -/
def returning : List Char := " RETURNING *".toList

/-! ## Statements -/

/-- The values of conditions, in order. -/
def conditionParams (conditions : List Condition) : List Param :=
  conditions.map Condition.param

/-- The values that an update assigns. -/
def assignedParams (assignments : List (String × Param)) (touch : Option Touch) : List Param :=
  assignments.map Prod.snd ++ (touch.map Touch.param).toList

/-- A statement as SQL. -/
def compile : Statement → Compiled
  | .select selection =>
      { text := "SELECT ".toList ++ columnClause selection ++ " FROM ".toList ++
          quoted selection.table ++ whereClause selection.conditions 0 ++ orderClause selection
        params := conditionParams selection.conditions }
  | .insert table values =>
      { text := "INSERT INTO ".toList ++ quoted table ++
          (if values = [] then " DEFAULT VALUES".toList
          else
            " (".toList ++ Text.joined comma (values.map fun value => quoted value.1) ++
              ") VALUES (".toList ++ Text.joined comma (placeholders (values.map Prod.snd) 1) ++
              [')']) ++ returning
        params := values.map Prod.snd }
  | .update table assignments touch conditions =>
      let assigned := assignedParams assignments touch
      { text := "UPDATE ".toList ++ quoted table ++ " SET ".toList ++
          Text.joined comma (assignmentList assignments 1 ++
            (touch.map fun touch => touchAssignment touch (assignments.length + 1)).toList) ++
          whereClause conditions assigned.length ++ returning
        params := assigned ++ conditionParams conditions }
  | .delete table conditions =>
      { text := "DELETE FROM ".toList ++ quoted table ++ whereClause conditions 0 ++ returning
        params := conditionParams conditions }

end Sql
end RowGate
