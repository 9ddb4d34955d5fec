import RowGate.Schema.Catalog
import RowGate.Schema.Stamps
import RowGate.Store.Basic
import RowGate.Store.Compare

namespace RowGate

/-!
# The store in memory

Each table is the list of its rows in the order of their insertion.  A
statement either is executed as a whole or changes nothing.  Columns that are
not nullable hold no null, and the `id` that a row is written with differs from
those of the other rows as they were before the statement.
-/

/-- The state of the store. -/
structure Memory where
  catalog : Catalog
  tables : Keyed (List Row)
  executed : Nat
  closed : Bool

namespace Memory

/-- The store with an empty table for each table of a catalog. -/
def ofCatalog (catalog : Catalog) : Memory where
  catalog := catalog
  tables := .ofList (catalog.tableNames.map fun name => (name, []))
  executed := 0
  closed := false

/-- The rows of a table. -/
def rows (memory : Memory) (table : String) : List Row :=
  (memory.tables.get? table).getD []

/-- Replace the rows of a table. -/
def setRows (memory : Memory) (table : String) (rows : List Row) : Memory :=
  { memory with tables := memory.tables.insert table rows }

/-! ## Constraints -/

/-- The row leaves a column without a value that needs one. -/
def violatesNotNull (row : Row) (column : Column) : Bool :=
  !column.nullable && row.isAbsent column.name

/-- Refuse a row without a value in a column that is not nullable. -/
def checkRow (name : String) (table : Table) (row : Row) : Except StoreError Unit :=
  match table.columns.find? (violatesNotNull row) with
  | none => .ok ()
  | some column =>
      .error (.execution ("null value in column \"" ++ column.name ++ "\" of relation \"" ++ name ++
        "\" violates not-null constraint"))

/-- Refuse a row whose primary key another row has. -/
def checkKey (name : String) (others : List Row) (row : Row) : Except StoreError Unit :=
  if row.isAbsent SystemColumn.id then .ok ()
  else if others.any fun other => other.get? SystemColumn.id == row.get? SystemColumn.id then
    .error (.execution ("duplicate key value violates unique constraint \"" ++ name ++ "_pkey\""))
  else .ok ()

/-! ## Reads -/

/-- The columns of a row that a read returns. -/
def project (projection : Projection) (row : Row) : Row :=
  match projection with
  | .all => row
  | .columns names => .ofList (names.map fun name => (name, (row.get? name).getD .null))

/-- The row comes before the other, or at the same place, in an order. -/
def precedes (order : SortOrder) (first second : Row) : Bool :=
  let comparison := Json.compareKeys (first.get? order.column) (second.get? order.column)
  if order.ascending then comparison != .gt else comparison != .lt

/-- Sort rows; rows at the same place keep their order.  Where two cells do not compare,
`precedes` need not be an order, and what comes of the sort is then left open: the rows
are put as this merge sort puts them, and another stable sort may put them otherwise. -/
def sorted (order : Option SortOrder) (rows : List Row) : List Row :=
  match order with
  | none => rows
  | some order => rows.mergeSort (precedes order)

/-- Keep the first rows up to a limit. -/
def limited (limit : Option Nat) (rows : List Row) : List Row :=
  match limit with
  | none => rows
  | some limit => rows.take limit

/-- The row that a counting read returns. -/
def countRow (count : Nat) : Row :=
  Keyed.empty.insert "count" (Json.ofNat count)

/-- The rows that a read returns. -/
def selectRows (rows : List Row) (selection : Selection) : List Row :=
  let matching := rows.filter fun row => row.satisfies selection.conditions
  if selection.counting then [countRow matching.length]
  else
    (limited selection.limit (sorted selection.order matching)).map (project selection.projection)

/-! ## Writes -/

/-- The row of an insert: every declared column, null where no value is given. -/
def insertedRow (table : Table) (values : List (String × Param)) : Row :=
  (Keyed.ofList (table.columns.map fun column => (column.name, Json.null))).insertAll
    (values.map fun value => (value.1, value.2.value))

/-- The stamp that a touch puts on a row: the later of the bound instant and
the one in the floor column. -/
def stampFor (touch : Touch) (row : Row) : Json :=
  match touch.param.value.instant?, row.instant? touch.floor with
  | some stamp, some floor => if stamp.before floor then .string floor.text else touch.param.value
  | _, _ => touch.param.value

/-- The row that an update makes of a row. -/
def updatedRow (assignments : List (String × Param)) (touch : Option Touch) (row : Row) : Row :=
  let assigned := row.insertAll (assignments.map fun value => (value.1, value.2.value))
  match touch with
  | none => assigned
  | some touch => assigned.insert touch.column (stampFor touch row)

/-- What an update makes of the row at a place: nothing if it does not satisfy
the conditions. -/
def revise (name : String) (table : Table) (rows : List Row)
    (assignments : List (String × Param)) (touch : Option Touch) (conditions : List Condition)
    (place : Row × Nat) : Except StoreError (Option Row) :=
  if ¬ place.1.satisfies conditions then .ok none
  else do
    let row := updatedRow assignments touch place.1
    checkRow name table row
    checkKey name (rows.eraseIdx place.2) row
    .ok (some row)

/-- Execute a statement on the rows of its table: the answer and the rows
afterwards. -/
def run (table : Table) (rows : List Row) : Statement → Except StoreError (List Row × List Row)
  | .select selection => .ok (selectRows rows selection, rows)
  | .insert name values => do
      let row := insertedRow table values
      checkRow name table row
      checkKey name rows row
      .ok ([row], rows ++ [row])
  | .update name assignments touch conditions => do
      let revised ← rows.zipIdx.mapM (revise name table rows assignments touch conditions)
      .ok (revised.filterMap id, rows.zipWith (fun row new => new.getD row) revised)
  | .delete _ conditions =>
      .ok (rows.filter (·.satisfies conditions), rows.filter fun row => !row.satisfies conditions)

/-! ## The store -/

/-- Execute a statement.  A failed statement counts as executed but changes no
table. -/
def execute (memory : Memory) (statement : Statement) :
    Except StoreError (List Row) × Memory :=
  if memory.closed then (.error .closed, memory)
  else
    let counted := { memory with executed := memory.executed + 1 }
    match memory.catalog.tables.get? statement.table with
    | none =>
        (.error (.execution ("relation \"" ++ statement.table ++ "\" does not exist")), counted)
    | some table =>
        match run table (memory.rows statement.table) statement with
        | .error error => (.error error, counted)
        | .ok (answer, rows) => (.ok answer, counted.setRows statement.table rows)

/-- Close the store. -/
def close (memory : Memory) : Memory :=
  { memory with closed := true }

/-- Start counting statements anew. -/
def resetCount (memory : Memory) : Memory :=
  { memory with executed := 0 }

instance : Store Memory where
  name := "memory"
  execute := execute
  close memory := ([], memory.close)

end Memory
end RowGate
