import RowGate.Proofs.Service.Batch
import RowGate.Proofs.Service.ChangeTime
import RowGate.Proofs.Service.Completion
import RowGate.Proofs.Service.WellTyped

namespace RowGate

/-!
# What an insert stores

Between the row that a caller gives and the row that is stored stand four steps:
the empty system columns are filled, the time of change is raised, every value is
brought into the form of its column, and the columns that are left get null.  The
result can be said of each column by itself, and of the time of change together
with the time of creation.

A filled time is the text of the clock reading and is read back to the
millisecond, while the times of the caller are compared to the nanosecond.  The
text that is stored ends at the millisecond, so it is that of the later of the two
instants themselves.
-/

/-! ## Drawn identifiers -/

/-- The identifier says that it is of version four in the common layout. -/
structure Uuid.IsVersionFour (id : Uuid) : Prop where
  version : id.bits.extractLsb' 76 4 = 4#4
  layout : id.bits.extractLsb' 62 2 = 2#2

theorem Uuid.isVersionFour_ofRandom (bits : BitVec 128) : (Uuid.ofRandom bits).IsVersionFour := by
  constructor
  · simp [ofRandom, BitVec.extractLsb'_or, BitVec.extractLsb'_and]
  · simp [ofRandom, BitVec.extractLsb'_or, BitVec.extractLsb'_and]

/-! ## Times of a given row -/

/-- The instant that a row brings for a column: the one in its value, or the reading
of the clock if it has no value. -/
inductive Row.Supplies (row : Row) (now : Time.Instant) (column : String) : Time.Instant → Prop where
  | value {t : Time.Instant} (given : row.instant? column = some t) : row.Supplies now column t
  | clock (absent : row.isAbsent column = true) : row.Supplies now column now

/-- What the insert of a row stores in a column, at a reading of the clock and with
an identifier drawn for the row. -/
inductive Inserted (table : Table) (now : Time.Instant) (id : Uuid) (row : Row)
    (column : Column) : Json → Prop where
  | given {value stored : Json} (other : column.name ≠ SystemColumn.updatedAt)
      (found : row.get? column.name = some value) (filled : value.isNull = false)
      (coerced : column.type.coerce? value = some stored) :
      Inserted table now id row column stored
  | key (named : column.name = SystemColumn.id) (keyed : column.type = .uuid ∨ column.type = .text)
      (absent : row.isAbsent column.name = true) (drawn : id.IsVersionFour) :
      Inserted table now id row column (.string id.text)
  | creation (named : column.name = SystemColumn.createdAt)
      (absent : row.isAbsent column.name = true) :
      Inserted table now id row column (.string now.text)
  | change {created changed : Time.Instant} (named : column.name = SystemColumn.updatedAt)
      (declared : table.declares SystemColumn.createdAt = true)
      (first : row.Supplies now SystemColumn.createdAt created)
      (second : row.Supplies now SystemColumn.updatedAt changed) :
      Inserted table now id row column (.string (changed.later created).text)
  | changeAlone {changed : Time.Instant} (named : column.name = SystemColumn.updatedAt)
      (undeclared : table.declares SystemColumn.createdAt = false)
      (second : row.Supplies now SystemColumn.updatedAt changed) :
      Inserted table now id row column (.string changed.text)
  | empty (other : column.name ≠ SystemColumn.createdAt ∧ column.name ≠ SystemColumn.updatedAt)
      (keyless : ¬ (column.name = SystemColumn.id ∧ (column.type = .uuid ∨ column.type = .text)))
      (absent : row.isAbsent column.name = true) :
      Inserted table now id row column .null

/-! ## Times that are stored -/

/-- A column of times stores the text of the instant in a value. -/
theorem ColumnType.exists_instant_of_coerce? {value stored : Json} (filled : value.isNull = false)
    (coerced : timestamp.coerce? value = some stored) :
    ∃ t, value.instant? = some t ∧ stored = .string t.text := by
  cases value with
  | string s =>
      rw [coerce?] at coerced
      rcases Option.map_eq_some_iff.mp coerced with ⟨t, read, rfl⟩
      exact ⟨t, read, rfl⟩
  | null => cases filled
  | bool b | number n | array items | object members => cases coerced

theorem Table.name_of_column? {table : Table} {name : String} {column : Column}
    (found : table.column? name = some column) : column.name = name := by
  simpa using List.find?_some found

namespace Row

/-- The time of change that is stored of a row whose times were compared: its own, or
that of creation if it lies later. -/
theorem exists_raised_of_clampUpdated {row : Row} {stored : Json}
    (present : row.isAbsent SystemColumn.updatedAt = false)
    (kept : (row.clampUpdated.get? SystemColumn.updatedAt).bind ColumnType.timestamp.coerce? =
      some stored) :
    ∃ t, row.instant? SystemColumn.updatedAt = some t ∧ stored = .string (row.raised t).text := by
  rcases exists_of_not_isAbsent present with ⟨value, found, filled⟩
  have own : ∀ written, ColumnType.timestamp.coerce? value = some written →
      ∃ t, row.instant? SystemColumn.updatedAt = some t ∧ written = .string t.text := by
    intro written coerced
    rcases ColumnType.exists_instant_of_coerce? filled coerced with ⟨t, read, text⟩
    exact ⟨t, by rw [instant?, found, Option.bind_some, read], text⟩
  by_cases inOrder : row.InOrder
  · rw [clampUpdated_eq_self inOrder, found, Option.bind_some] at kept
    rcases own stored kept with ⟨t, read, rfl⟩
    refine ⟨t, read, ?_⟩
    unfold raised
    cases begun : row.instant? SystemColumn.createdAt with
    | none => rfl
    | some start =>
        rw [Option.elim_some, Time.Instant.later, inOrder start t begun read,
          if_neg Bool.false_ne_true]
  · simp only [InOrder, not_forall, Bool.not_eq_false] at inOrder
    rcases inOrder with ⟨start, change, begun, read, earlier⟩
    refine ⟨change, read, ?_⟩
    simp only [clampUpdated, begun, read, earlier, if_true, Keyed.get?_insert,
      Option.bind_some] at kept
    rw [(ColumnType.of_coerce?_text kept).2, raised, begun, Option.elim_some, Time.Instant.later,
      if_pos earlier]

end Row

namespace Service

variable {σ : Type} {service : Service σ} {table : Table} {now : Time.Instant} {row : Row}

/-- A time of a filled row is the one that the given row supplies, to the
millisecond. -/
theorem exists_supplies_of_filled {key : String} {t : Time.Instant}
    (timed : key = SystemColumn.createdAt ∨ key = SystemColumn.updatedAt)
    (read : (service.filled table now row).instant? key = some t) :
    ∃ supplied, row.Supplies now key supplied ∧ t.truncated = supplied.truncated := by
  cases absent : row.isAbsent key with
  | true =>
      refine ⟨now, .clock absent, ?_⟩
      rw [eq_truncated_of_filled service table now row timed absent read, now.truncated_truncated]
  | false =>
      have same := Row.instant?_of_get? (service.get?_filled_of_present table now row absent)
      exact ⟨t, .value (same.symm.trans read), rfl⟩

end Service

/-! ## Cells that are stored -/

theorem Plan.exists_written {catalog : Catalog} {name key : String} {declared : Table}
    {column : Column} {row : Row} {values : List (String × Param)} {value : Json}
    (listed : catalog.table name = .ok declared) (found : declared.column? key = some column)
    (assigned : assignments catalog name row = .ok values) (here : row.get? key = some value) :
    ∃ stored, column.type.coerce? value = some stored ∧
      (written values).get? key = some stored := by
  have cell := get?_written listed found assigned
  have present : (written values).contains key = true := by
    rw [contains_written assigned, Keyed.contains, here, Option.isSome_some]
  rw [here, Option.bind_some] at cell
  rcases Option.isSome_iff_exists.mp present with ⟨stored, kept⟩
  exact ⟨stored, cell.symm.trans kept, kept⟩

/-- A declared column that an insert does not assign gets null. -/
theorem Memory.get?_insertedRow {table : Table} {values : List (String × Param)} {key : String}
    (declared : table.declares key = true) :
    (insertedRow table values).get? key = some (((Plan.written values).get? key).getD .null) := by
  unfold insertedRow
  rw [get?_insertAll_written]
  cases (Plan.written values).get? key with
  | some value => rfl
  | none =>
      rw [← (table.fits_blank).keys key] at declared
      rcases Option.isSome_iff_exists.mp declared with ⟨value, found⟩
      rcases List.mem_map.mp (Keyed.mem_of_get?_ofList found) with ⟨_, _, same⟩
      have null : value = .null := (Prod.mk.inj same).2.symm
      rw [found, null]
      rfl

namespace Service

variable {σ : Type} {service : Service σ} {table : Table} {now : Time.Instant} {row : Row}
  {catalog : Catalog} {name : String} {column : Column} {values : List (String × Param)}

/-- The time of creation that a planned row supplies, if its table declares one. -/
theorem exists_creation_of_assignments
    (created : ∀ column, table.column? SystemColumn.createdAt = some column →
      column.type = .timestamp)
    (listed : catalog.table name = .ok table)
    (assigned : Plan.assignments catalog name (service.filled table now row).clampUpdated =
      .ok values) (declared : table.declares SystemColumn.createdAt = true) :
    ∃ t supplied, (service.filled table now row).instant? SystemColumn.createdAt = some t ∧
      row.Supplies now SystemColumn.createdAt supplied ∧ t.truncated = supplied.truncated := by
  rcases Option.isSome_iff_exists.mp declared with ⟨start, found⟩
  have given := generated_time service table now (.inl rfl) declared
  have present := service.isAbsent_filled table now row rfl given
  rcases Row.exists_of_not_isAbsent present with ⟨value, cell, filled⟩
  have here : (service.filled table now row).clampUpdated.get? SystemColumn.createdAt =
      some value := by
    rw [Row.createdAt_clampUpdated, cell]
  rcases Plan.exists_written listed found assigned here with ⟨_, coerced, _⟩
  rw [created start found] at coerced
  rcases ColumnType.exists_instant_of_coerce? filled coerced with ⟨t, read, _⟩
  have begun : (service.filled table now row).instant? SystemColumn.createdAt = some t := by
    rw [Row.instant?, cell, Option.bind_some, read]
  rcases exists_supplies_of_filled (.inl rfl) begun with ⟨supplied, supplies, same⟩
  exact ⟨t, supplied, begun, supplies, same⟩

/-- The time of change that is written of a planned row. -/
theorem exists_inserted_change (found : table.column? SystemColumn.updatedAt = some column)
    (timed : column.type = .timestamp)
    (created : ∀ column, table.column? SystemColumn.createdAt = some column →
      column.type = .timestamp)
    (listed : catalog.table name = .ok table)
    (assigned : Plan.assignments catalog name (service.filled table now row).clampUpdated =
      .ok values) :
    ∃ cell, (Plan.written values).get? SystemColumn.updatedAt = some cell ∧
      Inserted table now service.newId.1 row column cell := by
  have named := Table.name_of_column? found
  have declared : table.declares SystemColumn.updatedAt = true := by
    rw [Table.declares, found, Option.isSome_some]
  have given := generated_time service table now (.inr rfl) declared
  have present := service.isAbsent_filled table now row rfl given
  have contained : (Plan.written values).contains SystemColumn.updatedAt = true := by
    rcases Row.exists_of_not_isAbsent present with ⟨value, cell, _⟩
    rw [Plan.contains_written assigned, Plan.contains_clampUpdated, Keyed.contains, cell,
      Option.isSome_some]
  rcases Option.isSome_iff_exists.mp contained with ⟨cell, kept⟩
  refine ⟨cell, kept, ?_⟩
  have coerced := Plan.get?_written listed found assigned
  rw [timed, kept] at coerced
  rcases Row.exists_raised_of_clampUpdated present coerced.symm with ⟨t, read, rfl⟩
  rcases exists_supplies_of_filled (.inr rfl) read with ⟨changed, supplies, same⟩
  cases begins : table.declares SystemColumn.createdAt with
  | true =>
      rcases exists_creation_of_assignments created listed assigned begins with
        ⟨start, supplied, begun, first, begunSame⟩
      have text : ((service.filled table now row).raised t).text = (changed.later supplied).text := by
        rw [Row.raised, begun, Option.elim_some]
        exact Time.Instant.text_later_congr same begunSame
      rw [text]
      exact .change named begins first supplies
  | false =>
      have undeclared : (service.filled table now row).contains SystemColumn.createdAt = false := by
        apply Bool.eq_false_iff.mpr
        intro inside
        rw [← Plan.contains_clampUpdated] at inside
        rw [Plan.declares_of_contains listed assigned inside] at begins
        cases begins
      rw [Row.raised_of_absent undeclared, ← Time.Instant.text_truncated, same,
        Time.Instant.text_truncated]
      exact .changeAlone named begins supplies

section

variable (other : column.name ≠ SystemColumn.updatedAt)
  (found : table.column? column.name = some column) (listed : catalog.table name = .ok table)
  (assigned : Plan.assignments catalog name (service.filled table now row).clampUpdated =
    .ok values)

include other found listed assigned

/-- A column other than that of the time of change is written as it is filled. -/
theorem exists_written_of_filled {value : Json}
    (here : (service.filled table now row).get? column.name = some value) :
    ∃ stored, column.type.coerce? value = some stored ∧
      (Plan.written values).get? column.name = some stored := by
  rw [← Row.get?_clampUpdated _ other] at here
  exact Plan.exists_written listed found assigned here

theorem inserted_of_present (present : row.isAbsent column.name = false) :
    ∃ cell, (Plan.written values).get? column.name = some cell ∧
      Inserted table now service.newId.1 row column cell := by
  rcases Row.exists_of_not_isAbsent present with ⟨value, given, filled⟩
  rcases exists_written_of_filled other found listed assigned
    ((service.get?_filled_of_present table now row present).trans given) with
    ⟨stored, coerced, written⟩
  exact ⟨stored, written, .given other given filled coerced⟩

theorem inserted_creation (named : column.name = SystemColumn.createdAt)
    (timed : column.type = .timestamp) (absent : row.isAbsent column.name = true) :
    ∃ cell, (Plan.written values).get? column.name = some cell ∧
      Inserted table now service.newId.1 row column cell := by
  have declared : table.declares column.name = true := by
    rw [Table.declares, found, Option.isSome_some]
  have given := generated_time service table now (.inl named) declared
  rcases exists_written_of_filled other found listed assigned
    (service.get?_filled_of_absent table now row absent given) with ⟨stored, coerced, written⟩
  rw [timed] at coerced
  rw [(ColumnType.of_coerce?_text coerced).2] at written
  exact ⟨_, written, .creation named absent⟩

theorem inserted_key (named : column.name = SystemColumn.id)
    (keyed : column.type = .uuid ∨ column.type = .text)
    (absent : row.isAbsent column.name = true) :
    ∃ cell, (Plan.written values).get? column.name = some cell ∧
      Inserted table now service.newId.1 row column cell := by
  have generates : generatesKey table = true := (generatesKey_iff (named ▸ found)).mpr keyed
  have given : service.generated table now column.name =
      some (.string service.newId.1.text) := by
    rw [named, generated_id, if_pos generates]
  rcases exists_written_of_filled other found listed assigned
    (service.get?_filled_of_absent table now row absent given) with ⟨stored, coerced, written⟩
  have same : stored = .string service.newId.1.text := by
    rcases keyed with type | type
    · rw [type, ColumnType.coerce?_uuid] at coerced
      exact (Option.some.inj coerced).symm
    · rw [type] at coerced
      exact (Option.some.inj coerced).symm
  rw [same] at written
  exact ⟨_, written, .key named keyed absent (Uuid.isVersionFour_ofRandom _)⟩

/-- A column without a value that none is generated for is left to null. -/
theorem getD_written_of_ungenerated (absent : row.isAbsent column.name = true)
    (ungenerated : service.generated table now column.name = none) :
    ((Plan.written values).get? column.name).getD .null = .null := by
  have kept : (service.filled table now row).clampUpdated.get? column.name =
      row.get? column.name := by
    rw [Row.get?_clampUpdated _ other, get?_filled, if_pos absent, ungenerated, Option.none_or]
  have cell := Plan.get?_written listed found assigned
  rw [kept] at cell
  cases given : row.get? column.name with
  | none =>
      rw [given, Option.bind_none] at cell
      rw [cell, Option.getD_none]
  | some value =>
      rw [given, Row.eq_null_of_isAbsent absent given, Option.bind_some,
        ColumnType.coerce?_null] at cell
      rw [cell, Option.getD_some]

theorem inserted_of_ne
    (created : column.name = SystemColumn.createdAt → column.type = .timestamp) :
    Inserted table now service.newId.1 row column
      (((Plan.written values).get? column.name).getD .null) := by
  have known : (∃ cell, (Plan.written values).get? column.name = some cell ∧
      Inserted table now service.newId.1 row column cell) →
      Inserted table now service.newId.1 row column
        (((Plan.written values).get? column.name).getD .null) := by
    rintro ⟨cell, written, inserted⟩
    rw [written]
    exact inserted
  cases absent : row.isAbsent column.name with
  | false => exact known (inserted_of_present other found listed assigned absent)
  | true =>
      by_cases creation : column.name = SystemColumn.createdAt
      · exact known (inserted_creation other found listed assigned creation (created creation)
          absent)
      · by_cases keyed : column.name = SystemColumn.id ∧
            (column.type = .uuid ∨ column.type = .text)
        · exact known (inserted_key other found listed assigned keyed.1 keyed.2 absent)
        · have ungenerated : service.generated table now column.name = none := by
            by_cases named : column.name = SystemColumn.id
            · rw [named, generated_id, if_neg]
              intro generates
              exact keyed ⟨named, (generatesKey_iff (named ▸ found)).mp generates⟩
            · simp [generated, named, creation, other]
          rw [getD_written_of_ungenerated other found listed assigned absent ungenerated]
          exact .empty ⟨creation, other⟩ keyed absent

end

/-- What an insert stores in each declared column. -/
theorem inserted_insertedRow {key : String} (found : table.column? key = some column)
    (timed : ∀ key column, key = SystemColumn.createdAt ∨ key = SystemColumn.updatedAt →
      table.column? key = some column → column.type = .timestamp)
    (listed : catalog.table name = .ok table)
    (assigned : Plan.assignments catalog name (service.complete table now row).1.clampUpdated =
      .ok values) :
    ∃ cell, (Memory.insertedRow table values).get? key = some cell ∧
      Inserted table now service.newId.1 row column cell := by
  rw [complete_eq, Row.clampUpdated_clampUpdated] at assigned
  have declared : table.declares key = true := by
    rw [Table.declares, found, Option.isSome_some]
  refine ⟨_, Memory.get?_insertedRow declared, ?_⟩
  have named := Table.name_of_column? found
  by_cases change : key = SystemColumn.updatedAt
  · subst change
    rcases exists_inserted_change found (timed _ column (.inr rfl) found)
      (fun start => timed _ start (.inl rfl)) listed assigned with ⟨cell, written, inserted⟩
    rw [written]
    exact inserted
  · subst named
    exact inserted_of_ne change found listed assigned fun creation =>
      timed _ column (.inl creation) found

/-- No column of a row is lost when it is completed and planned. -/
theorem contains_filled {key : String} (present : row.contains key = true) :
    (service.filled table now row).contains key = true := by
  unfold Keyed.contains at present ⊢
  rw [get?_filled]
  split
  · simp [present]
  · exact present

/-- The row that an insert stores, and what it was planned from. -/
theorem insertRow_eq_insertedRow {service : Service Memory} {name : String} {returned : List Row}
    (shared : service.store.catalog = service.catalog)
    (known : Plan.declaration service.catalog name = .ok table)
    (inserted : (service.insertRow name table now row).1 = .ok returned) :
    ∃ target values, service.catalog.table target = .ok table ∧
      Plan.assignments service.catalog target
        (service.complete table now row).1.clampUpdated = .ok values ∧
      returned = [Memory.insertedRow table values] := by
  simp only [insertRow] at inserted
  rcases executePlan_insert_eq_ok inserted with
    ⟨target, declared, stocked, values, _, named, listed, assigned, _, stock, answer, _, _⟩
  rcases Fallible.bind_eq_ok.mp known with ⟨_, same, again⟩
  cases named.symm.trans same
  cases listed.symm.trans again
  rw [store_complete, shared, Catalog.table_eq_ok.mp listed] at stock
  cases stock
  exact ⟨target, values, listed, assigned, answer⟩

end Service

/-! ## The main statement -/

/-- An insert of one row that succeeds adds exactly one row to its table and none to
any other.  The row has the declared columns and no others, none of the given
columns is lost, and each of its cells is determined by the given row, the reading
of the clock and the identifier drawn for it. -/
theorem insert_stores_completed_row (service : Service Memory) (now : Time.Instant)
    (name : String) (content : Json) (row : Row) (table : Table)
    (single : Rows.ofJson content = .ok [row])
    (shared : service.store.catalog = service.catalog)
    (known : Plan.declaration service.catalog name = .ok table)
    (timed : ∀ key column, key = SystemColumn.createdAt ∨ key = SystemColumn.updatedAt →
      table.column? key = some column → column.type = .timestamp)
    (inserted : (service.insertJson now name content).1.succeeded = true) :
    let result := service.insertJson now name content
    ∃ stored, result.1 = .ofRows [stored] ∧
      (∀ other, result.2.store.rows other =
        service.store.rows other ++ if other = Text.trim name then [stored] else []) ∧
      (∀ key column, table.column? key = some column → ∃ cell, stored.get? key = some cell ∧
        Inserted table now service.newId.1 row column cell) ∧
      (∀ key, stored.contains key = table.declares key) ∧
      ∀ key, row.contains key = true → stored.contains key = true := by
  intro result
  have lone : result = service.insert now name [row] := by
    simp only [result, Service.insertJson, single]
  change result.1.succeeded = true at inserted
  rw [lone] at inserted ⊢
  cases outcome : (service.insertRow name table now row).1 with
  | error failure =>
      have reported := (Service.insert_singleton_error known outcome).1
      simp [Answer.succeeded, reported] at inserted
  | ok returned =>
      rcases Service.insertRow_eq_insertedRow shared known outcome with
        ⟨target, values, listed, assigned, rfl⟩
      rcases Service.insertRow_eq_ok outcome with ⟨_, _, stored, same, after⟩
      cases same
      rw [Service.insert_singleton_ok known outcome]
      have fits := Memory.fits_insertedRow (Plan.admits_assignments listed assigned)
      refine ⟨_, rfl, ?_, ?_, fits.keys, ?_⟩
      · intro other
        rw [after, Memory.rows_addRow]
      · intro key column found
        exact Service.inserted_insertedRow found timed listed assigned
      · intro key present
        rw [fits.keys]
        apply Plan.declares_of_contains listed assigned
        rw [Service.complete_eq, Plan.contains_clampUpdated, Plan.contains_clampUpdated]
        exact Service.contains_filled present

/-- A row without a key was created an hour after the clock reading, and not on a whole
millisecond.  It gets a key, and the millisecond of its creation as its time of
change. -/
theorem late_row_stored :
    let content : Json := .array [.object [("rank", .string " 7"),
      ("created_at", .string "2024-05-01T03:00:00.0009+02:00"), ("updated_at", .null)]]
    let result := Service.ofItems.insertJson (.ofMillis 1714521600000) " items " content
    let expected : Row := .ofList [("created_at", .string "2024-05-01T01:00:00.000Z"),
      ("id", .string "00000000-0000-4000-8000-000000000000"), ("rank", .ofNat 7),
      ("updated_at", .string "2024-05-01T01:00:00.000Z")]
    result.1 = .ofRows [expected] ∧ result.2.store.rows "items" = [expected] ∧
      ∃ id : Uuid, id.IsVersionFour ∧ expected.get? "id" = some (.string id.text) := by
  intro content result expected
  have listed : ∃ table, Plan.declaration Service.ofItems.catalog " items " = .ok table ∧
      table.column? "id" = some ⟨"id", .text, false⟩ ∧
      ∀ key column, key = SystemColumn.createdAt ∨ key = SystemColumn.updatedAt →
        table.column? key = some column → column.type = .timestamp := by
    refine ⟨_, rfl, rfl, ?_⟩
    rintro _ column (rfl | rfl) ⟨⟩ <;> rfl
  rcases listed with ⟨table, known, found, timed⟩
  have succeeded : result.1.succeeded = true := by decide +kernel
  have records : result.1.records = [expected] := by decide +kernel
  rcases insert_stores_completed_row Service.ofItems (.ofMillis 1714521600000) " items " content _
    table rfl rfl known timed succeeded with ⟨stored, answer, rows, cells, _, _⟩
  change result.1 = _ at answer
  have same : stored = expected := by
    rw [answer, Service.records_ofRows] at records
    exact (List.cons.inj records).1
  subst same
  refine ⟨answer, (rows "items").trans rfl, ?_⟩
  rcases cells "id" _ found with ⟨cell, here, inserted⟩
  cases inserted with
  | key _ _ _ drawn => exact ⟨_, drawn, here⟩
  | given _ given => cases given
  | creation named => exact absurd named (by decide)
  | change named => exact absurd named (by decide)
  | changeAlone named => exact absurd named (by decide)
  | empty _ keyless => exact absurd ⟨rfl, .inr rfl⟩ keyless

end RowGate
