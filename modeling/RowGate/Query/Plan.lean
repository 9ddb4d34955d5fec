import RowGate.Query.ReadRequest
import RowGate.Schema.Catalog
import RowGate.Schema.Stamps
import RowGate.Text.Split

namespace RowGate
namespace Plan

/-!
# Planning

The planner turns a request into a statement, or into the first failure that it
meets.  Every table and column is looked up in the catalog and every value is
brought into the form of its column.  Predicates whose operator is not
recognized are dropped, and an update or a delete that is left without a
condition is refused, so that no write is planned for a whole table.
-/

/-! ## Parts of a statement -/

/-- The table that a request names, without blanks at its ends. -/
def table (catalog : Catalog) (name : String) : Except Failure String :=
  let trimmed := Text.trim name
  if trimmed = "" then .error .missingTable
  else (catalog.table trimmed).map fun _ => trimmed

/-- The declaration of the table that a request names. -/
def declaration (catalog : Catalog) (name : String) : Except Failure Table :=
  (table catalog name).bind catalog.table

/-- The names in a list of columns, without blanks and empty names. -/
def columnNames (select : String) : List String :=
  let names := (Text.pieces ',' select.toList).map fun piece => String.ofList (Text.trimmed piece)
  names.filter (· ≠ "")

/-- The columns that a read returns.  No name at all, or a star among the
names, means all of them. -/
def projection (catalog : Catalog) (table select : String) : Except Failure Projection :=
  let names := columnNames select
  if names = [] ∨ "*" ∈ names then .ok .all
  else (names.mapM fun name => (catalog.column table name).map fun _ => name).map .columns

/-- The conditions of the recognized predicates. -/
def conditions (catalog : Catalog) (table : String) :
    List Predicate → Except Failure (List Condition)
  | [] => .ok []
  | predicate :: rest =>
      match predicate.operator? with
      | none => conditions catalog table rest
      | some operator =>
          (catalog.coerce table predicate.column predicate.value).bind fun bound =>
            (conditions catalog table rest).map fun others =>
              ⟨predicate.column, operator, ⟨bound.1, bound.2⟩⟩ :: others

/-- The predicates that are passed over before the first failure. -/
def dropped (catalog : Catalog) (table : String) : List Predicate → List Predicate
  | [] => []
  | predicate :: rest =>
      match predicate.operator? with
      | none => predicate :: dropped catalog table rest
      | some _ =>
          match catalog.coerce table predicate.column predicate.value with
          | .error _ => []
          | .ok _ => dropped catalog table rest

/-- The conditions of a write, of which there must be one. -/
def scope (catalog : Catalog) (table operation : String) (predicates : List Predicate) :
    Except Failure (List Condition) :=
  (conditions catalog table predicates).bind fun bound =>
    if bound = [] then .error (.missingFilter operation) else .ok bound

/-- The cells of a row as bound values, in the order of their columns. -/
def assignments (catalog : Catalog) (table : String) (row : Row) :
    Except Failure (List (String × Param)) :=
  row.entries.mapM fun cell =>
    (catalog.coerce table cell.1 cell.2).map fun bound => (cell.1, ⟨bound.1, bound.2⟩)

/-- The order of a read. -/
def sortOrder (catalog : Catalog) (table : String) : Option SortOrder →
    Except Failure (Option SortOrder)
  | none => .ok none
  | some order => (catalog.column table order.column).map fun _ => some order

/-! ## Statements -/

/-- Plan a read. -/
def select (catalog : Catalog) (request : ReadRequest) : Except Failure Statement := do
  let name ← table catalog request.table
  let projection ← projection catalog name request.select
  let conditions ← conditions catalog name request.predicates
  let order ← sortOrder catalog name request.order
  .ok (.select
    { table := name
      projection := projection
      conditions := conditions
      order := order
      limit := request.limit
      counting := request.counting })

/-- Plan the insert of a row. -/
def insert (catalog : Catalog) (name : String) (row : Row) : Except Failure Statement := do
  let name ← table catalog name
  let values ← assignments catalog name row.clampUpdated
  .ok (.insert name values)

/-- What the stamp of an update makes of its patch. -/
structure Stamped where
  patch : Row
  touch : Option Touch

/-- Apply the stamp of an update.  If the time of creation is stored and not
patched, only the store knows it, and the stamp becomes a touch; otherwise the
stamp is a cell of the patch like any other. -/
def stamped (catalog : Catalog) (name : String) (table : Table) (patch : Row)
    (stamp : Option String) : Except Failure Stamped :=
  match stamp with
  | none => .ok ⟨patch, none⟩
  | some stamp =>
      if ¬ table.declares SystemColumn.updatedAt then .ok ⟨patch, none⟩
      else if table.declares SystemColumn.createdAt ∧ ¬ patch.contains SystemColumn.createdAt then
        (catalog.coerce name SystemColumn.updatedAt (.string stamp)).map fun bound =>
          { patch := patch.erase SystemColumn.updatedAt
            touch := some
              { column := SystemColumn.updatedAt
                param := ⟨bound.1, bound.2⟩
                floor := SystemColumn.createdAt } }
      else .ok ⟨patch.insert SystemColumn.updatedAt (.string stamp), none⟩

/-- Plan an update.  A missing condition is reported before an empty patch. -/
def update (catalog : Catalog) (name : String) (predicates : List Predicate) (patch : Row)
    (stamp : Option String) : Except Failure Statement := do
  let name ← table catalog name
  let conditions ← scope catalog name "update" predicates
  if patch.isEmpty then .error (.missingBody "update")
  let declared ← catalog.table name
  let stamped ← stamped catalog name declared patch stamp
  let values ← assignments catalog name stamped.patch.clampUpdated
  .ok (.update name values stamped.touch conditions)

/-- Plan a delete. -/
def delete (catalog : Catalog) (name : String) (predicates : List Predicate) :
    Except Failure Statement := do
  let name ← table catalog name
  let conditions ← scope catalog name "delete" predicates
  .ok (.delete name conditions)

end Plan
end RowGate
