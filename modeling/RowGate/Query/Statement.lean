import RowGate.Query.Filter
import RowGate.Schema.ColumnType

namespace RowGate

/-!
# Statements

A statement is what a store executes: a read, an insert, an update or a delete
with the columns it names and the values it binds.  Statements that come from
the planner name declared columns only and bind values in the form of their
column; a store does not rely on that.
-/

/-- A value and the type it is bound as. -/
structure Param where
  value : Json
  type : ColumnType
deriving DecidableEq

/-- A comparison of a column with a bound value. -/
structure Condition where
  column : String
  operator : Operator
  param : Param
deriving DecidableEq

/-- The columns that a read returns. -/
inductive Projection where
  | all
  | columns (names : List String)
deriving DecidableEq, Repr

/-- The column that a read is sorted by, and the direction. -/
structure SortOrder where
  column : String
  ascending : Bool
deriving DecidableEq, Repr

/-- A read.  A counting read returns the number of its rows instead of them. -/
structure Selection where
  table : String
  projection : Projection
  conditions : List Condition
  order : Option SortOrder
  limit : Option Nat
  counting : Bool
deriving DecidableEq

/-- A stamp on the rows of an update: the later of the bound instant and the
instant that the row has in the column `floor`. -/
structure Touch where
  column : String
  param : Param
  floor : String
deriving DecidableEq

/-- A statement. -/
inductive Statement where
  | select (selection : Selection)
  | insert (table : String) (values : List (String × Param))
  | update (table : String) (assignments : List (String × Param)) (touch : Option Touch)
      (conditions : List Condition)
  | delete (table : String) (conditions : List Condition)
deriving DecidableEq

namespace Statement

/-- The table of a statement. -/
def table : Statement → String
  | select selection => selection.table
  | insert table _ => table
  | update table _ _ _ => table
  | delete table _ => table

/-- The kind of a statement. -/
def kind : Statement → String
  | select selection => if selection.counting then "count" else "select"
  | insert _ _ => "insert"
  | update _ _ _ _ => "update"
  | delete _ _ => "delete"

end Statement
end RowGate
