import RowGate.Proofs.Plan.Stamps
import RowGate.Proofs.Query.Grammar
import RowGate.Proofs.Schema.Forms
import RowGate.Proofs.Service.Batch
import RowGate.Proofs.Service.Completion
import RowGate.Proofs.Service.Reads
import RowGate.Proofs.Store.Keys

namespace RowGate

/-!
# Reading back by key

A row that is inserted is found again by its key, and nothing else is.  The key is
brought into the form of its column once, when the row is planned, and that form
is brought into itself when it comes back as the operand of a filter.  On the way
it stands behind `eq.` as it is, so dots, words that look like operators and line
breaks in a key are part of the operand.

The key was checked against all rows that stood in the table before, so the
filter finds no other row.
-/

/-! ## Filters by equality -/

/-- The operand of a filter by equality is all that stands behind the first dot. -/
theorem Predicate.ofPair_eq (column operand : String) :
    Predicate.ofPair column ("eq." ++ operand) =
      ⟨column, Comparison.eq.word, .string operand⟩ :=
  Predicate.ofPair_token column operand ⟨.eq, false⟩

/-! ## Keys -/

/-- A column of texts or identifiers stores a value as a text that it stores as it
is. -/
theorem ColumnType.exists_string_of_coerce? {type : ColumnType} {value stored : Json}
    (keyed : type = .text ∨ type = .uuid) (present : value.isNull = false)
    (coerced : type.coerce? value = some stored) :
    ∃ key, stored = .string key ∧ type.coerce? (.string key) = some (.string key) := by
  rcases keyed with rfl | rfl
  · cases value with
    | string s =>
        cases coerced
        exact ⟨s, rfl, rfl⟩
    | number n =>
        cases coerced
        exact ⟨n.text, rfl, rfl⟩
    | bool b =>
        cases coerced
        exact ⟨_, rfl, rfl⟩
    | null => cases present
    | array items => cases coerced
    | object members => cases coerced
  · cases value with
    | string s =>
        rw [coerce?] at coerced
        rcases Option.map_eq_some_iff.mp coerced with ⟨id, _, rfl⟩
        exact ⟨id.text, rfl, ColumnType.coerce?_uuid id⟩
    | null => cases present
    | number n => cases coerced
    | bool b => cases coerced
    | array items => cases coerced
    | object members => cases coerced

namespace Plan

variable {catalog : Catalog} {name : String} {declared : Table} {column : Column}

/-- The key of a planned row is a text, which is planned as it is. -/
theorem exists_key_of_assignments {row : Row} {values : List (String × Param)}
    (listed : catalog.table name = .ok declared)
    (found : declared.column? SystemColumn.id = some column)
    (keyed : column.type = .text ∨ column.type = .uuid)
    (present : row.isAbsent SystemColumn.id = false)
    (assigned : assignments catalog name row.clampUpdated = .ok values) :
    ∃ key, (written values).get? SystemColumn.id = some (.string key) ∧
      catalog.coerce name SystemColumn.id (.string key) = .ok (.string key, column.type) := by
  cases cell : row.get? SystemColumn.id with
  | none => simp [Row.isAbsent, cell] at present
  | some value =>
      have given : value.isNull = false := by simpa [Row.isAbsent, cell] using present
      have cells := get?_written listed found assigned
      have kept := contains_written assigned SystemColumn.id
      unfold Keyed.contains at kept
      rw [Row.id_clampUpdated, cell] at cells kept
      rcases Option.isSome_iff_exists.mp kept with ⟨stored, here⟩
      rcases ColumnType.exists_string_of_coerce? keyed given (cells.symm.trans here) with
        ⟨key, rfl, again⟩
      refine ⟨key, here, ?_⟩
      simp [Catalog.coerce, Catalog.column, listed, found, again, Except.bind]

/-- A filter by equality is planned with its operand in the form of the column. -/
theorem select_ofPair {table sought operand : String} {bound : Json × ColumnType}
    (named : Plan.table catalog name = .ok table)
    (coerced : catalog.coerce table sought (.string operand) = .ok bound) :
    Plan.select catalog
        ((ReadRequest.ofTable name).filter (.ofPair sought ("eq." ++ operand))) =
      .ok (.select (equalSelection table sought bound none)) := by
  have request : (ReadRequest.ofTable name).filter (.ofPair sought ("eq." ++ operand)) =
      equalRequest name sought (.string operand) none := by
    rw [Predicate.ofPair_eq]
    rfl
  rw [request, select_equal, named]
  simp only [Except.bind, coerced, Except.map]

end Plan

namespace Memory

variable {memory : Memory} {name : String}

/-- The key of an inserted row is that of no other row. -/
theorem execute_insert_key {values : List (String × Param)} {answer : List Row} {key : String}
    (given : (Plan.written values).get? SystemColumn.id = some (.string key))
    (done : (memory.execute (.insert name values)).1 = .ok answer) :
    ∃ stored table, answer = [stored] ∧ stored.get? SystemColumn.id = some (.string key) ∧
      (memory.execute (.insert name values)).2.closed = false ∧
      (memory.execute (.insert name values)).2.catalog.tables.get? name = some table ∧
      ((memory.execute (.insert name values)).2.rows name).filter
        (fun row => row.get? SystemColumn.id == some (.string key)) = [stored] := by
  rcases execute_eq_ok done with ⟨table, after, opened, listed, executed, changed⟩
  rcases Fallible.bind_eq_ok.mp executed with ⟨_, _, executed⟩
  rcases Fallible.bind_eq_ok.mp executed with ⟨_, checked, executed⟩
  cases executed
  have stored : (insertedRow table values).get? SystemColumn.id = some (.string key) := by
    unfold insertedRow
    rw [Keyed.get?_insertAll]
    change ((Plan.written values).get? SystemColumn.id).or _ = _
    rw [given, Option.some_or]
  have present : (insertedRow table values).isAbsent SystemColumn.id = false := by
    simp [Row.isAbsent, stored, Json.isNull]
  -- The row was stored, so the check found no row with its key in the table.
  have others : (memory.rows name).filter
      (fun row => row.get? SystemColumn.id == some (.string key)) = [] := by
    apply List.filter_eq_nil_iff.mpr
    intro other member same
    apply checkKey_eq_ok.mp checked other member
    exact ⟨present, by simpa [stored] using same⟩
  refine ⟨insertedRow table values, table, rfl, stored, ?_, ?_, ?_⟩
  · rw [changed]
    exact opened
  · rw [changed]
    exact listed
  · rw [changed, Statement.table, rows_setRows, if_pos rfl, List.filter_append]
    rw [others]
    simp [stored]

/-- A read by equality with a text returns the rows whose cell is that text. -/
theorem execute_equalSelection {table : Table} (opened : memory.closed = false)
    (listed : memory.catalog.tables.get? name = some table) (sought text : String)
    (type : ColumnType) :
    (memory.execute (.select (Plan.equalSelection name sought (.string text, type) none))).1 =
      .ok ((memory.rows name).filter fun row => row.get? sought == some (.string text)) := by
  have whole : project .all = fun row => row := rfl
  rw [execute_select, opened, if_neg Bool.false_ne_true]
  simp only [Plan.equalSelection, listed, Option.elim_some, selectRows, Row.satisfies_text, limited,
    sorted, whole, List.map_id_fun', id_eq, Bool.false_eq_true, if_false]

end Memory

/-! ## The main statement -/

namespace Service

variable {service : Service Memory} {now : Time.Instant} {name : String} {table : Table}
  {column : Column} {row : Row}

theorem insertRow_recalled (declared : Plan.declaration service.catalog name = .ok table)
    (found : table.column? SystemColumn.id = some column)
    (keyed : column.type = .text ∨ column.type = .uuid)
    {returned : List Row} (inserted : (service.insertRow name table now row).1 = .ok returned) :
    ∃ stored key, returned = [stored] ∧ stored.get? SystemColumn.id = some (.string key) ∧
      ((service.insertRow name table now row).2.readNow name
        [.filter (.ofPair SystemColumn.id ("eq." ++ key))]).1 = .ofRows [stored] := by
  have generates : generatesKey table = true := by
    rcases keyed with type | type <;> simp [generatesKey, found, type]
  have present := service.isAbsent_complete generates now row
  simp only [insertRow] at inserted ⊢
  cases plan : Plan.insert service.catalog name (service.complete table now row).1 with
  | error failure =>
      rw [plan] at inserted
      cases inserted
  | ok statement =>
      rw [plan] at inserted
      rcases Fallible.bind_eq_ok.mp plan with ⟨target, named, plan⟩
      rcases Fallible.bind_eq_ok.mp plan with ⟨values, assigned, plan⟩
      cases plan
      rcases Fallible.bind_eq_ok.mp declared with ⟨_, same, listed⟩
      cases named.symm.trans same
      rcases Plan.exists_key_of_assignments listed found keyed present assigned with
        ⟨key, given, coerced⟩
      have executed := execute_eq_ok inserted
      rcases Memory.execute_insert_key given executed with
        ⟨stored, stocked, rfl, cell, opened, known, alone⟩
      refine ⟨stored, key, rfl, cell, ?_⟩
      rw [executePlan]
      apply readNow_filter
      · rw [catalog_execute, catalog_complete]
        exact Plan.select_ofPair named coerced
      · rw [store_execute]
        exact (Memory.execute_equalSelection opened known SystemColumn.id key column.type).trans
          (congrArg Except.ok alone)

end Service

/-- Where the key of a table is a text or an identifier, a row that has been
inserted is what a read by its key finds, and all that it finds, whatever stood in
the table and in the slots before, and however the key was given or whether it was
drawn. -/
theorem inserted_row_found_by_key (service : Service Memory) (now : Time.Instant) (name : String)
    (content : Json) (row : Row) (table : Table) (column : Column)
    (single : Rows.ofJson content = .ok [row])
    (declared : Plan.declaration service.catalog name = .ok table)
    (found : table.column? SystemColumn.id = some column)
    (keyed : column.type = .text ∨ column.type = .uuid)
    (inserted : (service.insertJson now name content).1.succeeded = true) :
    ∃ stored key, (service.insertJson now name content).1 = .ofRows [stored] ∧
      stored.get? SystemColumn.id = some (.string key) ∧
      ((service.insertJson now name content).2.readNow name
        [.filter (.ofPair SystemColumn.id ("eq." ++ key))]).1 = .ofRows [stored] := by
  have lone : service.insertJson now name content = service.insert now name [row] := by
    simp only [Service.insertJson, single]
  rw [lone] at inserted ⊢
  cases outcome : (service.insertRow name table now row).1 with
  | error failure =>
      have reported := (Service.insert_singleton_error declared outcome).1
      simp [Answer.succeeded, reported] at inserted
  | ok returned =>
      rcases Service.insertRow_recalled declared found keyed outcome with
        ⟨stored, key, rfl, cell, read⟩
      rw [Service.insert_singleton_ok declared outcome]
      exact ⟨stored, key, rfl, cell, read⟩

/-- A key that begins like a filter and goes on over a line break. -/
theorem filter_like_key_recalled :
    let content : Json := .array [.object [("id", .string "neq.a\n.b"), ("rank", .ofNat 1)]]
    let result := Service.ofItems.insertJson (.ofMillis 0) " items " content
    ∃ stored, result.1 = .ofRows [stored] ∧ stored.get? "id" = some (.string "neq.a\n.b") ∧
      (result.2.readNow " items " [.filter (.ofPair "id" "eq.neq.a\n.b")]).1 =
        .ofRows [stored] := by
  intro content result
  have succeeded : result.1.succeeded = true := by decide +kernel
  have keys : result.1.records.map (fun row => row.get? "id") =
      [some (.string "neq.a\n.b")] := by decide +kernel
  have declared : ∃ table, Plan.declaration Service.ofItems.catalog " items " = .ok table ∧
      ∃ column, table.column? SystemColumn.id = some column ∧ column.type = .text :=
    ⟨_, rfl, _, rfl, rfl⟩
  rcases declared with ⟨table, declared, column, found, type⟩
  rcases inserted_row_found_by_key Service.ofItems (.ofMillis 0) " items " content _ table column
    rfl declared found (.inl type) succeeded with ⟨stored, key, answer, cell, read⟩
  have stored_key : stored.get? "id" = some (.string "neq.a\n.b") := by
    simp only [result, answer, Service.records_ofRows] at keys
    simpa using keys
  cases cell.symm.trans stored_key
  exact ⟨stored, answer, cell, read⟩

end RowGate
