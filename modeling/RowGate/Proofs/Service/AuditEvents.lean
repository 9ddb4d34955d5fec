import RowGate.Proofs.Plan.Acceptance
import RowGate.Proofs.Schema.StoredKeys
import RowGate.Proofs.Service.InsertedRow

namespace RowGate

/-!
# Audit events

A call that records an event stores one row or changes no table.  The answer of a
call that succeeds is the identifier that was drawn for the event, before the row was
planned.  It is also what is stored as the key of the row: a column that takes the
text of an identifier stores it as it is, whatever its type.  The parameters are
stored in the form of their columns.

Nothing is assumed of the audit table.  If it is not listed, lacks one of the columns
or cannot store a value, the call fails, and so it does if the store refuses the row.
-/

/-! ## The row of an event -/

namespace Procedure

variable (table : Table) (id : Uuid) (now : Time.Instant) (params : Json)

/-- The cells of an event, but for the time of its creation. -/
theorem get?_auditRow {key : String} (other : key ≠ SystemColumn.createdAt) :
    (auditRow table id now params).get? key =
      ((Keyed.empty.insert SystemColumn.id (.string id.text)).insertAll
        (auditColumns.map fun column => (column.2, (params.member? column.1).getD .null))).get?
          key := by
  unfold auditRow
  dsimp only
  split
  · rw [Keyed.get?_insert, if_neg other]
  · rfl

theorem id_auditRow :
    (auditRow table id now params).get? SystemColumn.id = some (.string id.text) := by
  rw [get?_auditRow table id now params (by decide)]
  simp [Keyed.insertAll, auditColumns, Keyed.get?_insert, SystemColumn.id]

theorem updatedAt_auditRow :
    (auditRow table id now params).get? SystemColumn.updatedAt = none := by
  rw [get?_auditRow table id now params (by decide)]
  simp [Keyed.insertAll, auditColumns, Keyed.get?_insert, Keyed.get?_empty, SystemColumn.id,
    SystemColumn.updatedAt]

/-- Every parameter stands in its column, null where it is missing. -/
theorem param_auditRow {param column : String} (mapped : (param, column) ∈ auditColumns) :
    (auditRow table id now params).get? column = some ((params.member? param).getD .null) := by
  have other : column ≠ SystemColumn.createdAt := by
    rintro rfl
    simp [auditColumns, SystemColumn.createdAt] at mapped
  rw [get?_auditRow table id now params other]
  simp only [auditColumns, List.mem_cons, Prod.mk.injEq, List.not_mem_nil, or_false] at mapped
  rcases mapped with ⟨rfl, rfl⟩ | ⟨rfl, rfl⟩ | ⟨rfl, rfl⟩ | ⟨rfl, rfl⟩ | ⟨rfl, rfl⟩ <;>
    simp [Keyed.insertAll, auditColumns, Keyed.get?_insert]

/-- An event has no time of change that could be raised. -/
theorem clampUpdated_auditRow :
    (auditRow table id now params).clampUpdated = auditRow table id now params := by
  apply Row.clampUpdated_eq_self
  intro created updated _ changed
  rw [Row.instant?, updatedAt_auditRow] at changed
  cases changed

end Procedure

/-! ## Calls -/

namespace Service

variable {service : Service Memory} {now : Time.Instant} {params : Json}

/-- A cell of a planned row, in the form of its column, is in the row that is stored. -/
theorem stored_cell (stocked : Table) {catalog : Catalog} {target key : String} {table : Table}
    {row : Row} {values : List (String × Param)} {value : Json}
    (listed : catalog.table target = .ok table)
    (assigned : Plan.assignments catalog target row = .ok values)
    (given : row.get? key = some value) :
    ∃ column stored, table.column? key = some column ∧ column.type.coerce? value = some stored ∧
      (Memory.insertedRow stocked values).get? key = some stored := by
  have present : row.contains key = true := by
    rw [Keyed.contains, given, Option.isSome_some]
  rcases Option.isSome_iff_exists.mp (Plan.declares_of_contains listed assigned present) with
    ⟨column, found⟩
  rcases Plan.exists_written listed found assigned given with ⟨stored, coerced, written⟩
  refine ⟨column, stored, found, coerced, ?_⟩
  rw [Memory.insertedRow, Memory.get?_insertAll_written, written, Option.some_or]

/-- What is stored of an event that is recorded. -/
theorem logAuditEvent_eq_ok {data : Json}
    (logged : (service.logAuditEvent now params).1 = .ok data) :
    ∃ table stored, Plan.declaration service.catalog service.auditTable = .ok table ∧
      (service.logAuditEvent now params).2.store =
        service.store.addRow (Text.trim service.auditTable) stored ∧
      data = .string service.newId.1.text ∧ stored.get? SystemColumn.id = some data ∧
      ∀ param column, (param, column) ∈ Procedure.auditColumns →
        ∃ declared value, table.column? column = some declared ∧
          declared.type.coerce? ((params.member? param).getD .null) = some value ∧
          stored.get? column = some value := by
  unfold logAuditEvent at logged ⊢
  cases known : Plan.declaration service.catalog service.auditTable with
  | error failure =>
      rw [known] at logged
      cases logged
  | ok table =>
      rw [known] at logged
      dsimp only at logged ⊢
      rcases Fallible.map_eq_ok.mp logged with ⟨rows, executed, rfl⟩
      rcases executePlan_insert_eq_ok executed with
        ⟨target, declared, stocked, values, named, _, listed, assigned, _, _, _, _, changed⟩
      rcases Plan.table_of_declaration known with ⟨_, again⟩
      rw [named, listed] at again
      cases again
      rw [Procedure.clampUpdated_auditRow] at assigned
      rcases stored_cell stocked listed assigned (Procedure.id_auditRow _ _ _ _) with
        ⟨key, kept, _, coerced, cell⟩
      rw [ColumnType.coerce?_identifier] at coerced
      rcases Option.ite_none_right_eq_some.mp coerced with ⟨_, ⟨⟩⟩
      refine ⟨table, _, rfl, named ▸ changed, rfl, cell, ?_⟩
      intro param column mapped
      exact stored_cell stocked listed assigned (Procedure.param_auditRow _ _ _ _ mapped)

theorem logAuditEvent_eq_error {failure : Failure}
    (failed : (service.logAuditEvent now params).1 = .error failure) :
    (service.logAuditEvent now params).2.store.tables = service.store.tables := by
  unfold logAuditEvent at failed ⊢
  split at failed
  · rfl
  · dsimp only at failed ⊢
    cases executed : (service.newId.2.executePlan _).1 with
    | ok rows =>
        rw [executed] at failed
        cases failed
    | error other => exact tables_executePlan_of_error executed

end Service

/-! ## The main statement -/

/-- A call that succeeds has recorded an event: it has added one row to the audit table
and none to any other, it answers with the key of that row, and the row has each
parameter in the form of its column, null where it is missing.  A call that fails has
changed no table and answers without data. -/
theorem audit_call_all_or_nothing (service : Service Memory) (now : Time.Instant) (name : String)
    (params : Json) :
    let result := service.call now name params
    (result.1.succeeded = true → name = Procedure.logAuditEvent ∧
      ∃ table stored, Plan.declaration service.catalog service.auditTable = .ok table ∧
        (∀ other, result.2.store.rows other = service.store.rows other ++
          if other = Text.trim service.auditTable then [stored] else []) ∧
        stored.get? SystemColumn.id = some result.1.data ∧
        ∀ param column, (param, column) ∈ Procedure.auditColumns →
          ∃ declared value, table.column? column = some declared ∧
            declared.type.coerce? ((params.member? param).getD .null) = some value ∧
            stored.get? column = some value) ∧
    (result.1.succeeded = false →
      result.2.store.tables = service.store.tables ∧ result.1.data = .null ∧
        result.1.count = 0) := by
  by_cases named : name = Procedure.logAuditEvent
  · cases outcome : (service.logAuditEvent now params).1 with
    | ok data =>
        have answered : service.call now name params =
            (.ofValue data 1, (service.logAuditEvent now params).2) := by
          simp only [Service.call, if_pos named, outcome]
        rw [answered]
        rcases Service.logAuditEvent_eq_ok outcome with
          ⟨table, stored, known, changed, _, key, cells⟩
        constructor
        · intro _
          refine ⟨named, table, stored, known, ?_, key, cells⟩
          intro other
          rw [changed, Memory.rows_addRow]
        · intro failed
          cases failed
    | error failure =>
        have answered : service.call now name params =
            (.failed failure, (service.logAuditEvent now params).2) := by
          simp only [Service.call, if_pos named, outcome]
        rw [answered]
        dsimp only
        constructor
        · intro succeeded
          cases succeeded
        · intro _
          exact ⟨Service.logAuditEvent_eq_error outcome, rfl, rfl⟩
  · have answered : service.call now name params = (.failed (.unknownProcedure name), service) := by
      rw [Service.call, if_neg named]
    rw [answered]
    constructor
    · intro succeeded
      cases succeeded
    · intro _
      exact ⟨rfl, rfl, rfl⟩

/-- A table that records events. -/
def Table.events : Table :=
  ⟨[⟨"id", .uuid, false⟩, ⟨"user_id", .text, true⟩, ⟨"action", .text, false⟩,
    ⟨"table_name", .text, true⟩, ⟨"record_id", .integer, true⟩, ⟨"changes", .json, true⟩,
    ⟨"created_at", .timestamp, true⟩]⟩

/-- An event without a user, about a record that has a number for a key. -/
theorem numbered_event_recorded :
    let catalog := Catalog.empty.insertTable "audit_logs" .events
    let service : Service Memory := .start (.ofCatalog catalog) catalog " audit_logs " .empty
      ⟨fun _ => 0, 0⟩
    let params : Json := .object [("p_action", .string "UPDATE"), ("p_record_id", .string " 7")]
    let result := service.call (.ofMillis 0) "log_audit_event" params
    result.1.succeeded = true ∧
      ∃ stored, result.2.store.rows "audit_logs" = [stored] ∧
        stored.get? "id" = some result.1.data ∧ stored.get? "user_id" = some .null ∧
        stored.get? "record_id" = some (.ofNat 7) := by
  intro catalog service params result
  have succeeded : result.1.succeeded = true := by decide +kernel
  have listed : Plan.declaration catalog " audit_logs " = .ok .events := rfl
  have user : Table.events.column? "user_id" = some ⟨"user_id", .text, true⟩ := rfl
  have record : Table.events.column? "record_id" = some ⟨"record_id", .integer, true⟩ := rfl
  have recorded := (audit_call_all_or_nothing service (.ofMillis 0) "log_audit_event" params).1
  have called : service.call (.ofMillis 0) "log_audit_event" params = result := rfl
  rw [called] at recorded
  rcases recorded succeeded with ⟨_, table, stored, known, rows, key, cells⟩
  cases listed.symm.trans known
  refine ⟨succeeded, stored, ?_, key, ?_, ?_⟩
  · have empty : service.store.rows "audit_logs" = [] := by decide +kernel
    have named : "audit_logs" = Text.trim service.auditTable := by decide +kernel
    rw [rows, empty, if_pos named, List.nil_append]
  · rcases cells "p_user_id" "user_id" (by decide) with ⟨column, value, declared, coerced, cell⟩
    cases user.symm.trans declared
    have stores : ColumnType.text.coerce? ((params.member? "p_user_id").getD .null) =
        some .null := by
      decide +kernel
    cases stores.symm.trans coerced
    exact cell
  · rcases cells "p_record_id" "record_id" (by decide) with ⟨column, value, declared, coerced, cell⟩
    cases record.symm.trans declared
    have stores : ColumnType.integer.coerce? ((params.member? "p_record_id").getD .null) =
        some (.ofNat 7) := by
      decide +kernel
    cases stores.symm.trans coerced
    exact cell

end RowGate
