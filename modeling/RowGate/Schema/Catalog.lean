import RowGate.Failure
import RowGate.Json.Decode
import RowGate.Schema.ColumnType

namespace RowGate

/-!
# The catalog

The catalog lists the tables that requests may name, with their columns and
types.  It is the allow-list for every identifier that reaches SQL, and values
are brought into the form of their column before they are bound.
-/

/-- A column of a table. -/
structure Column where
  name : String
  type : ColumnType
  nullable : Bool
deriving DecidableEq, Repr

/-- A table: its columns, in order. -/
structure Table where
  columns : List Column
deriving DecidableEq, Repr

/-- The tables by name. -/
structure Catalog where
  tables : Keyed Table

namespace Table

/-- The first column of a name. -/
def column? (table : Table) (name : String) : Option Column :=
  table.columns.find? fun column => column.name == name

/-- Whether a name is declared. -/
def declares (table : Table) (name : String) : Bool :=
  (table.column? name).isSome

end Table

namespace Catalog

/-- The catalog without tables. -/
def empty : Catalog :=
  ⟨.empty⟩

/-- Declare a table, replacing one of the same name. -/
def insertTable (catalog : Catalog) (name : String) (table : Table) : Catalog :=
  ⟨catalog.tables.insert name table⟩

/-- Add a column at the end of a table, which is made if it is not there. -/
def pushColumn (catalog : Catalog) (table : String) (column : Column) : Catalog :=
  let columns := ((catalog.tables.get? table).map Table.columns).getD []
  catalog.insertTable table ⟨columns ++ [column]⟩

/-- The table of a name. -/
def table (catalog : Catalog) (name : String) : Except Failure Table :=
  match catalog.tables.get? name with
  | some table => .ok table
  | none => .error (.unknownTable name)

/-- The column of a table. -/
def column (catalog : Catalog) (table column : String) : Except Failure Column :=
  (catalog.table table).bind fun found =>
    match found.column? column with
    | some column => .ok column
    | none => .error (.unknownColumn table column)

/-- Bring a value into the form of a column; the type comes with it. -/
def coerce (catalog : Catalog) (table column : String) (value : Json) :
    Except Failure (Json × ColumnType) :=
  (catalog.column table column).bind fun found =>
    match found.type.coerce? value with
    | some stored => .ok (stored, found.type)
    | none =>
        .error (.typeMismatch ("column " ++ column ++ ": " ++ found.type.mismatch value))

/-- The names of the tables, in order. -/
def tableNames (catalog : Catalog) : List String :=
  catalog.tables.keys

/-- Whether no table is listed. -/
def isEmpty (catalog : Catalog) : Bool :=
  catalog.tables.isEmpty

end Catalog

/-! ## The catalog as a document -/

namespace ColumnType

/-- A type is its name, alone or as the one member of an object with null. -/
def ofJson? : Json → Option ColumnType
  | .string name => ofName? name
  | .object [(name, .null)] => ofName? name
  | _ => none

end ColumnType

namespace Column

/-- The fields. -/
def shape : Json.Shape :=
  .record [("name", .plain), ("type", .plain), ("nullable", .plain)]

/-- Read a column; without a word on it a column is nullable. -/
def ofJson? (value : Json) : Option Column := do
  let values ← Json.Decode.fields? shape value
  let name ← Json.Decode.required values "name" Json.asString?
  let type ← Json.Decode.required values "type" ColumnType.ofJson?
  let nullable ← Json.Decode.withDefault values "nullable" Json.asBool? true
  some ⟨name, type, nullable⟩

/-- Write a column. -/
def toJson (column : Column) : Json :=
  .object [("name", .string column.name), ("type", .string column.type.name),
    ("nullable", .bool column.nullable)]

end Column

namespace Table

/-- The field. -/
def shape : Json.Shape :=
  .record [("columns", .list Column.shape)]

/-- Read a table. -/
def ofJson? (value : Json) : Option Table := do
  let values ← Json.Decode.fields? shape value
  let columns ← Json.Decode.required values "columns" (Json.Decode.list Column.ofJson?)
  some ⟨columns⟩

/-- Write a table. -/
def toJson (table : Table) : Json :=
  .object [("columns", .array (table.columns.map Column.toJson))]

end Table

namespace Catalog

/-- The tables, under any names. -/
def shape : Json.Shape :=
  .map Table.shape

/-- Read a catalog; of two tables with one name the last is kept. -/
def ofJson? : Json → Option Catalog
  | .object members => do
      let tables ← members.mapM fun entry =>
        (Table.ofJson? entry.2).map fun table => (entry.1, table)
      some ⟨.ofList tables⟩
  | _ => none

/-- Write a catalog. -/
def toJson (catalog : Catalog) : Json :=
  .object (catalog.tables.entries.map fun entry => (entry.1, entry.2.toJson))

end Catalog
end RowGate
