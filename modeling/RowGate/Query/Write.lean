import RowGate.Query.Deferred

namespace RowGate

/-!
# Writes

Rows of a batch are inserted one after the other, each with a statement of its
own.  The first row that fails ends the batch: the rows before it stay, those
after it are not tried.  Updates and deletes need a condition.
-/

namespace Rows

/-- The failure of content that is neither a row nor a list of rows. -/
def shapeFailure : Failure :=
  .invalidBody "expected an object or an array of objects"

/-- The rows of a list of values, the first of which stands at `index`. -/
def ofItems (index : Nat) : List Json → Except Failure (List Row)
  | [] => .ok []
  | item :: rest =>
      match Row.ofJson? item with
      | none => .error (.invalidBody ("row " ++ Nat.repr index ++ " is not an object"))
      | some row => (ofItems (index + 1) rest).map (row :: ·)

/-- The rows of the content of an insert: an object is one row. -/
def ofJson : Json → Except Failure (List Row)
  | .null => .error (.missingBody "insert")
  | .array [] => .error (.missingBody "insert")
  | .array items => ofItems 0 items
  | value =>
      match Row.ofJson? value with
      | some row => .ok [row]
      | none => .error shapeFailure

end Rows

namespace Service

variable {σ : Type}

/-- The types of a primary key that is generated. -/
def generatesKey (table : Table) : Bool :=
  match table.column? SystemColumn.id with
  | some column => column.type == .uuid || column.type == .text
  | none => false

/-- Put an instant into a column that is declared and has no value. -/
def stampAbsent (table : Table) (column : String) (now : Time.Instant) (row : Row) : Row :=
  if table.declares column ∧ row.isAbsent column then row.insert column (.string now.text) else row

/-- Put the clock reading into the times that a row leaves out, and keep the
time of change from lying before the time of creation. -/
def stampTimes (table : Table) (now : Time.Instant) (row : Row) : Row :=
  (stampAbsent table SystemColumn.updatedAt now
    (stampAbsent table SystemColumn.createdAt now row)).clampUpdated

/-- Give a row an identifier if it has none and its table generates them. -/
def fillKey (service : Service σ) (table : Table) (row : Row) : Row × Service σ :=
  if generatesKey table ∧ row.isAbsent SystemColumn.id then
    let drawn := service.newId
    (row.insert SystemColumn.id (.string drawn.1.text), drawn.2)
  else (row, service)

/-- Fill the system columns of a row. -/
def complete (service : Service σ) (table : Table) (now : Time.Instant) (row : Row) :
    Row × Service σ :=
  let keyed := service.fillKey table row
  (stampTimes table now keyed.1, keyed.2)

variable [Store σ]

/-- Insert one row. -/
def insertRow (service : Service σ) (name : String) (table : Table) (now : Time.Instant)
    (row : Row) : Except Failure (List Row) × Service σ :=
  let completed := service.complete table now row
  completed.2.executePlan (Plan.insert service.catalog name completed.1)

/-- The event of a row that failed. -/
def rowFailedEvent (name : String) (committed index : Nat) (failure : Failure) : Event where
  severity := .error
  name := "INSERT_ROW_FAILED"
  fields := [("committed", Nat.repr committed), ("error", failure.message),
    ("index", Nat.repr index), ("table", name)]

/-- Insert rows one after the other; `inserted` are the rows so far and the
next one stands at `index`. -/
def insertFrom (name : String) (table : Table) (now : Time.Instant) (batch : Bool) :
    (rows : List Row) → (index : Nat) → (inserted : List Row) → Service σ → Answer × Service σ
  | [], _, inserted, service => (.ofRows inserted, service)
  | row :: rest, index, inserted, service =>
      let result := service.insertRow name table now row
      match result.1 with
      | .ok returned =>
          insertFrom name table now batch rest (index + 1) (inserted ++ returned) result.2
      | .error failure =>
          (.stopped inserted (if batch then .rowFailed index failure else failure),
            result.2.record (rowFailedEvent name inserted.length index failure))

/-- Insert rows into a table. -/
def insert (service : Service σ) (now : Time.Instant) (name : String) (rows : List Row) :
    Answer × Service σ :=
  match Plan.declaration service.catalog name with
  | .error failure => (.failed failure, service)
  | .ok table =>
      if rows = [] then (.failed (.missingBody "insert"), service)
      else insertFrom name table now (decide (1 < rows.length)) rows 0 [] service

/-- Insert the content of a request. -/
def insertJson (service : Service σ) (now : Time.Instant) (name : String) (content : Json) :
    Answer × Service σ :=
  match Rows.ofJson content with
  | .error failure => (.failed failure, service)
  | .ok rows => service.insert now name rows

/-- The patch of the content of an update.  Content of another shape counts as
no patch, and is what an otherwise sound request is refused for. -/
def patchOf : Json → Row × Option Failure
  | .object members => (.ofList members, none)
  | .null => (.empty, none)
  | _ => (.empty, some (.invalidBody "update body must be an object"))

/-- Report content of the wrong shape where an empty patch is reported. -/
def reportShape (malformed : Option Failure) (plan : Except Failure Statement) :
    Except Failure Statement :=
  match plan, malformed with
  | .error (.missingBody _), some failure => .error failure
  | other, _ => other

/-- Plan the update of a service. -/
def planUpdate (catalog : Catalog) (now : Time.Instant) (name : String)
    (predicates : List Predicate) (content : Json) : Except Failure Statement :=
  let patch := patchOf content
  reportShape patch.2 (Plan.update catalog name predicates patch.1 (some now.text))

/-- Update the rows that satisfy the predicates. -/
def update (service : Service σ) (now : Time.Instant) (name : String)
    (predicates : List Predicate) (content : Json) : Answer × Service σ :=
  let planned := service.recordAll (writeEvents service.catalog name predicates)
  let executed := planned.executePlan (planUpdate service.catalog now name predicates content)
  (.ofResult executed.1, executed.2)

/-- Delete the rows that satisfy the predicates. -/
def delete (service : Service σ) (name : String) (predicates : List Predicate) :
    Answer × Service σ :=
  let planned := service.recordAll (writeEvents service.catalog name predicates)
  let executed := planned.executePlan (Plan.delete service.catalog name predicates)
  (.ofResult executed.1, executed.2)

end Service
end RowGate
