import RowGate.Query.Write

namespace RowGate

/-!
# Procedures

One procedure exists: it records an event in the audit table and answers with
the identifier of the new row.
-/

namespace Procedure

/-- The name of the procedure that records an event. -/
def logAuditEvent : String := "log_audit_event"

/-- The parameters of an audit event and the columns that take them. -/
def auditColumns : List (String × String) :=
  [("p_user_id", "user_id"), ("p_action", "action"), ("p_table_name", "table_name"),
   ("p_record_id", "record_id"), ("p_changes", "changes")]

/-- The row of an audit event.  A missing parameter is null. -/
def auditRow (table : Table) (id : Uuid) (now : Time.Instant) (params : Json) : Row :=
  let given := (Keyed.empty.insert SystemColumn.id (.string id.text)).insertAll
    (auditColumns.map fun column => (column.2, (params.member? column.1).getD .null))
  if table.declares SystemColumn.createdAt then
    given.insert SystemColumn.createdAt (.string now.text)
  else given

end Procedure

namespace Service

variable {σ : Type} [Store σ]

/-- Record an audit event. -/
def logAuditEvent (service : Service σ) (now : Time.Instant) (params : Json) :
    Except Failure Json × Service σ :=
  match Plan.declaration service.catalog service.auditTable with
  | .error failure => (.error failure, service)
  | .ok table =>
      let drawn := service.newId
      let row := Procedure.auditRow table drawn.1 now params
      let executed := drawn.2.executePlan (Plan.insert service.catalog service.auditTable row)
      (executed.1.map fun _ => .string drawn.1.text, executed.2)

/-- Call a procedure. -/
def call (service : Service σ) (now : Time.Instant) (name : String) (params : Json) :
    Answer × Service σ :=
  if name = Procedure.logAuditEvent then
    let result := service.logAuditEvent now params
    match result.1 with
    | .ok id => (.ofValue id 1, result.2)
    | .error failure => (.failed failure, result.2)
  else (.failed (.unknownProcedure name), service)

end Service
end RowGate
