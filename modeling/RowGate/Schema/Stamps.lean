import RowGate.Json.Basic
import RowGate.Time.Reading

namespace RowGate

/-!
# System columns

Three columns have a meaning of their own where a table declares them: `id`,
`created_at` and `updated_at`.  A row whose time of change lies before its time
of creation is given the time of creation as its time of change.
-/

namespace SystemColumn

/-- The primary key. -/
def id : String := "id"

/-- The time of creation. -/
def createdAt : String := "created_at"

/-- The time of the last change. -/
def updatedAt : String := "updated_at"

end SystemColumn

namespace Json

/-- The instant of a text value. -/
def instant? (value : Json) : Option Time.Instant :=
  value.asString?.bind Time.read?

end Json

namespace Row

/-- The instant in a column. -/
def instant? (row : Row) (column : String) : Option Time.Instant :=
  (row.get? column).bind Json.instant?

/-- Raise the time of change to the time of creation if it lies before it. -/
def clampUpdated (row : Row) : Row :=
  match row.instant? SystemColumn.createdAt, row.instant? SystemColumn.updatedAt with
  | some created, some updated =>
      if updated.before created then row.insert SystemColumn.updatedAt (.string created.text)
      else row
  | _, _ => row

end Row
end RowGate
