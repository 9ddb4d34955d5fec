import RowGate.Proofs.Keyed
import RowGate.Proofs.Plan.Soundness
import RowGate.Proofs.Time.Reading

namespace RowGate

/-!
# Times in planned rows

The planner compares the two times of a row as they are given, to the
nanosecond, and its table stores them to the millisecond.  What is written has
its times in order all the same: dropping what is behind the millisecond keeps
the order, and a time of change that was raised to the time of creation is
stored as the same millisecond.  For the same reason it does no harm that the
times of an inserted row are compared twice.
-/

/-- The table declares both times, and as times. -/
structure Table.KeepsTimes (table : Table) : Prop where
  created : ∃ column, table.column? SystemColumn.createdAt = some column ∧ column.type = .timestamp
  updated : ∃ column, table.column? SystemColumn.updatedAt = some column ∧ column.type = .timestamp

namespace Row

/-! ## Times of a row -/

/-- Where both times of a row can be read, the time of change does not lie
before the time of creation. -/
def InOrder (row : Row) : Prop :=
  ∀ created updated, row.instant? SystemColumn.createdAt = some created →
    row.instant? SystemColumn.updatedAt = some updated → updated.before created = false

/-- The times are in order, and the time of creation is a whole number of
milliseconds.  An update that leaves the time of creation alone relies on the
latter. -/
structure Settled (row : Row) : Prop where
  whole : ∀ created, row.instant? SystemColumn.createdAt = some created →
    created.truncated = created
  inOrder : row.InOrder

theorem instant?_of_get? {row other : Row} {key : String} (same : row.get? key = other.get? key) :
    row.instant? key = other.instant? key := by
  unfold instant?
  rw [same]

theorem settled_of_instant? {row other : Row} (settled : other.Settled)
    (created : row.instant? SystemColumn.createdAt = other.instant? SystemColumn.createdAt)
    (updated : row.instant? SystemColumn.updatedAt = other.instant? SystemColumn.updatedAt) :
    row.Settled := by
  constructor
  · rw [created]
    exact settled.whole
  · unfold InOrder
    rw [created, updated]
    exact settled.inOrder

theorem get?_clampUpdated (row : Row) {column : String} (other : column ≠ SystemColumn.updatedAt) :
    row.clampUpdated.get? column = row.get? column := by
  unfold clampUpdated
  split
  · split
    · rw [Keyed.get?_insert, if_neg other]
    · rfl
  · rfl

theorem createdAt_clampUpdated (row : Row) :
    row.clampUpdated.get? SystemColumn.createdAt = row.get? SystemColumn.createdAt :=
  row.get?_clampUpdated (by decide)

theorem clampUpdated_eq_self {row : Row} (inOrder : row.InOrder) : row.clampUpdated = row := by
  unfold clampUpdated
  split
  · next created updated first second =>
    rw [inOrder created updated first second, if_neg Bool.false_ne_true]
  · rfl

/-- A row whose times are out of order has both, and is raised to the first. -/
theorem clampUpdated_of_not_inOrder {row : Row} (unordered : ¬ row.InOrder) :
    ∃ start change, row.instant? SystemColumn.createdAt = some start ∧
      row.instant? SystemColumn.updatedAt = some change ∧
      row.clampUpdated = row.insert SystemColumn.updatedAt (.string start.text) := by
  simp only [InOrder, not_forall, Bool.not_eq_false] at unordered
  rcases unordered with ⟨start, change, first, second, earlier⟩
  refine ⟨start, change, first, second, ?_⟩
  simp only [clampUpdated, first, second, earlier, if_true]

/-- A row whose times were compared stays as it is, or is raised to the same text
once more. -/
theorem clampUpdated_clampUpdated (row : Row) :
    row.clampUpdated.clampUpdated = row.clampUpdated := by
  by_cases inOrder : row.InOrder
  · rw [clampUpdated_eq_self inOrder, clampUpdated_eq_self inOrder]
  · by_cases again : row.clampUpdated.InOrder
    · exact clampUpdated_eq_self again
    · rcases clampUpdated_of_not_inOrder inOrder with ⟨start, _, first, _, raised⟩
      rcases clampUpdated_of_not_inOrder again with ⟨other, _, second, _, twice⟩
      rw [instant?_of_get? row.createdAt_clampUpdated, first] at second
      cases second
      rw [twice, raised]
      apply Keyed.eq_of_get?_eq
      intro key
      simp only [Keyed.get?_insert]
      split <;> rfl

/-- A clamped row has its times in order once both are cut to the
millisecond. -/
theorem not_before_of_clampUpdated {row : Row} {created updated : Time.Instant}
    (first : row.clampUpdated.instant? SystemColumn.createdAt = some created)
    (second : row.clampUpdated.instant? SystemColumn.updatedAt = some updated) :
    updated.truncated.before created.truncated = false := by
  rw [instant?_of_get? row.createdAt_clampUpdated] at first
  unfold clampUpdated at second
  rw [first] at second
  cases given : row.instant? SystemColumn.updatedAt with
  | none =>
      rw [given] at second
      dsimp only at second
      cases given.symm.trans second
  | some change =>
      rw [given] at second
      dsimp only at second
      cases earlier : change.before created with
      | true =>
          rw [earlier, if_pos rfl, instant?, Keyed.get?_insert, if_pos rfl] at second
          rw [Time.eq_truncated_of_read? second, Time.Instant.truncated_truncated]
          exact Time.Instant.not_before_self _
      | false =>
          rw [earlier, if_neg Bool.false_ne_true] at second
          cases given.symm.trans second
          cases stored : updated.truncated.before created.truncated with
          | false => rfl
          | true => exact (Time.Instant.before_of_truncated stored).symm.trans earlier

end Row

/-! ## Cells that are written -/

theorem ColumnType.coerce?_null (type : ColumnType) : type.coerce? .null = some .null := by
  cases type <;> rfl

/-- A column of times stores what it can read, and stores it to the
millisecond. -/
theorem ColumnType.bind_coerce?_timestamp (value : Json) :
    (ColumnType.timestamp.coerce? value).bind Json.instant? =
      value.instant?.bind fun t => Time.read? t.text := by
  cases value with
  | string s =>
      change ((Time.read? s).map _).bind _ = (Time.read? s).bind _
      rw [Option.bind_map]
      rfl
  | null | bool b | number n | array items | object members => rfl

/-- What a column of times stores of a time in a row is its last millisecond. -/
theorem Row.instant?_of_coerced {row : Row} {key : String} {stored : Json} {t : Time.Instant}
    (coerced : (row.get? key).bind ColumnType.timestamp.coerce? = some stored)
    (reads : stored.instant? = some t) :
    ∃ given, row.instant? key = some given ∧ t = given.truncated := by
  rcases Option.bind_eq_some_iff.mp coerced with ⟨cell, found, kept⟩
  have again := ColumnType.bind_coerce?_timestamp cell
  rw [kept, Option.bind_some, reads] at again
  rcases Option.bind_eq_some_iff.mp again.symm with ⟨given, has, read⟩
  exact ⟨given, Option.bind_eq_some_iff.mpr ⟨cell, found, has⟩, Time.eq_truncated_of_read? read⟩

namespace Plan

variable {catalog : Catalog} {name : String} {declared : Table}

/-- The cells that assignments write. -/
def written (values : List (String × Param)) : Row :=
  Keyed.empty.insertAll (values.map fun value => (value.1, value.2.value))

theorem coerce?_of_coerce {key : String} {column : Column} {value : Json}
    {bound : Json × ColumnType} (listed : catalog.table name = .ok declared)
    (found : declared.column? key = some column)
    (coerced : catalog.coerce name key value = .ok bound) :
    column.type.coerce? value = some bound.1 := by
  rcases Fallible.bind_eq_ok.mp coerced with ⟨other, read, coerced⟩
  cases found.symm.trans (Catalog.column_eq_ok listed read)
  cases stored : column.type.coerce? value with
  | none => simp [stored] at coerced
  | some kept =>
      simp only [stored, Except.ok.injEq] at coerced
      rw [← coerced]

/-- Every cell of a planned row is written in the form of its column. -/
theorem get?_written {key : String} {column : Column} {row : Row}
    {values : List (String × Param)} (listed : catalog.table name = .ok declared)
    (found : declared.column? key = some column)
    (assigned : assignments catalog name row = .ok values) :
    (written values).get? key = (row.get? key).bind column.type.coerce? := by
  have related := Fallible.mapM_eq_ok.mp assigned
  have sorted := row.sorted
  change _ = (Entries.find? key row.entries).bind _
  generalize row.entries = cells at related sorted ⊢
  clear assigned
  induction related with
  | nil => rfl
  | @cons cell value rest others here _ inductionHypothesis =>
      rcases cell with ⟨other, given⟩
      rcases List.pairwise_cons.mp sorted with ⟨below, later⟩
      rcases Fallible.map_eq_ok.mp here with ⟨bound, coerced, rfl⟩
      have tail := inductionHypothesis later
      unfold written at tail ⊢
      change ((Keyed.empty.insert other bound.1).insertAll _).get? key = _
      rw [Keyed.get?_insertAll, tail, Keyed.get?_insert, Keyed.get?_empty]
      by_cases same : other = key
      · subst same
        rw [Entries.find?_of_before below]
        simp [Entries.find?, coerce?_of_coerce listed found coerced]
      · have different : ¬ key = other := fun equal => same equal.symm
        simp [Entries.find?, same, different]

/-- What is written has the columns of the planned row. -/
theorem contains_written {row : Row} {values : List (String × Param)}
    (assigned : assignments catalog name row = .ok values) (key : String) :
    (written values).contains key = row.contains key := by
  have kept : row.contains key = true ↔ key ∈ values.map Prod.fst := by
    rw [columns_assignments assigned, Keyed.mem_keys_iff]
  apply Bool.eq_iff_iff.mpr
  rw [kept, written, Keyed.contains_insertAll]
  simp [Keyed.contains, Keyed.get?_empty]

/-- A planned row has declared columns only. -/
theorem declares_of_contains {key : String} {row : Row} {values : List (String × Param)}
    (listed : catalog.table name = .ok declared)
    (assigned : assignments catalog name row = .ok values) (present : row.contains key = true) :
    declared.declares key = true := by
  rw [← Keyed.mem_keys_iff, ← columns_assignments assigned] at present
  rcases List.mem_map.mp present with ⟨value, member, rfl⟩
  rcases admits_assignments listed assigned value member with ⟨column, found, _⟩
  simp [Table.declares, found]

section

variable {row : Row} {values : List (String × Param)}

theorem instant?_written {key : String} {column : Column}
    (listed : catalog.table name = .ok declared) (found : declared.column? key = some column)
    (timed : column.type = .timestamp) (assigned : assignments catalog name row = .ok values) :
    (written values).instant? key =
      (row.instant? key).bind fun t => Time.read? t.text := by
  unfold Row.instant?
  rw [get?_written listed found assigned, timed]
  cases row.get? key with
  | none => rfl
  | some value => exact ColumnType.bind_coerce?_timestamp value

/-- What is written of a clamped row has its times in order. -/
theorem settled_written (keeps : declared.KeepsTimes) (listed : catalog.table name = .ok declared)
    (assigned : assignments catalog name row.clampUpdated = .ok values) :
    (written values).Settled := by
  rcases keeps with ⟨⟨first, foundFirst, timedFirst⟩, ⟨second, foundSecond, timedSecond⟩⟩
  have created := instant?_written listed foundFirst timedFirst assigned
  have updated := instant?_written listed foundSecond timedSecond assigned
  constructor
  · intro stored read
    rw [created] at read
    rcases Option.bind_eq_some_iff.mp read with ⟨given, _, read⟩
    rw [Time.eq_truncated_of_read? read, Time.Instant.truncated_truncated]
  · intro start change readStart readChange
    rw [created] at readStart
    rw [updated] at readChange
    rcases Option.bind_eq_some_iff.mp readStart with ⟨givenStart, hasStart, readStart⟩
    rcases Option.bind_eq_some_iff.mp readChange with ⟨givenChange, hasChange, readChange⟩
    rw [Time.eq_truncated_of_read? readStart, Time.eq_truncated_of_read? readChange]
    exact Row.not_before_of_clampUpdated hasStart hasChange

theorem stamped_touch {patch : Row} (changes : declared.declares SystemColumn.updatedAt = true)
    (stored : declared.declares SystemColumn.createdAt = true)
    (leaves : patch.contains SystemColumn.createdAt = false) (stamp : String) :
    stamped catalog name declared patch (some stamp) =
      (catalog.coerce name SystemColumn.updatedAt (.string stamp)).map fun bound =>
        ⟨patch.erase SystemColumn.updatedAt,
          some ⟨SystemColumn.updatedAt, ⟨bound.1, bound.2⟩, SystemColumn.createdAt⟩⟩ := by
  simp [stamped, changes, stored, leaves]

theorem stamped_cell {patch : Row} (changes : declared.declares SystemColumn.updatedAt = true)
    (given : declared.declares SystemColumn.createdAt = true →
      patch.contains SystemColumn.createdAt = true) (stamp : String) :
    stamped catalog name declared patch (some stamp) =
      .ok ⟨patch.insert SystemColumn.updatedAt (.string stamp), none⟩ := by
  have unstored : ¬ (declared.declares SystemColumn.createdAt = true ∧
      ¬ patch.contains SystemColumn.createdAt = true) := by
    rintro ⟨stored, leaves⟩
    exact leaves (given stored)
  simp only [stamped, changes, not_true_eq_false, if_false, if_neg unstored]

/-- A stamp is a touch where a time of creation is stored that the patch leaves
alone, and a cell of the patch otherwise. -/
theorem stamped_eq_ok {patch : Row} {stamp : String} {result : Stamped}
    (changes : declared.declares SystemColumn.updatedAt = true)
    (planned : stamped catalog name declared patch (some stamp) = .ok result) :
    ((declared.declares SystemColumn.createdAt = true →
          patch.contains SystemColumn.createdAt = true) ∧
        result = ⟨patch.insert SystemColumn.updatedAt (.string stamp), none⟩) ∨
      (declared.declares SystemColumn.createdAt = true ∧
        patch.contains SystemColumn.createdAt = false ∧ ∃ bound,
          catalog.coerce name SystemColumn.updatedAt (.string stamp) = .ok bound ∧
          result = ⟨patch.erase SystemColumn.updatedAt,
            some ⟨SystemColumn.updatedAt, ⟨bound.1, bound.2⟩, SystemColumn.createdAt⟩⟩) := by
  by_cases given : declared.declares SystemColumn.createdAt = true →
      patch.contains SystemColumn.createdAt = true
  · rw [stamped_cell changes given] at planned
    cases planned
    exact .inl ⟨given, rfl⟩
  · rcases Classical.not_imp.mp given with ⟨stored, leaves⟩
    rw [Bool.not_eq_true] at leaves
    rw [stamped_touch changes stored leaves] at planned
    rcases Fallible.map_eq_ok.mp planned with ⟨bound, coerced, rfl⟩
    exact .inr ⟨stored, leaves, bound, coerced, rfl⟩

theorem stamped_cases {patch : Row} {stamp : String} {result : Stamped}
    (keeps : declared.KeepsTimes)
    (planned : stamped catalog name declared patch (some stamp) = .ok result) :
    (patch.contains SystemColumn.createdAt = true ∧
        result = ⟨patch.insert SystemColumn.updatedAt (.string stamp), none⟩) ∨
      (patch.contains SystemColumn.createdAt = false ∧ ∃ bound,
        catalog.coerce name SystemColumn.updatedAt (.string stamp) = .ok bound ∧
        result = ⟨patch.erase SystemColumn.updatedAt,
          some ⟨SystemColumn.updatedAt, ⟨bound.1, bound.2⟩, SystemColumn.createdAt⟩⟩) := by
  rcases keeps with ⟨⟨first, foundFirst, _⟩, ⟨second, foundSecond, _⟩⟩
  have created : declared.declares SystemColumn.createdAt = true := by
    simp [Table.declares, foundFirst]
  have updated : declared.declares SystemColumn.updatedAt = true := by
    simp [Table.declares, foundSecond]
  rcases stamped_eq_ok updated planned with ⟨given, same⟩ | ⟨_, leaves, touched⟩
  · exact .inl ⟨given created, same⟩
  · exact .inr ⟨leaves, touched⟩

end

end Plan

/-! ## The main statement -/

/-- Comparing the times of a row raises the time of change to the time of creation, or
changes nothing if they are in order; all other cells stay.  Doing it again changes
nothing.  If both times are then stored as times that can be read, the time of change is
not the earlier one. -/
theorem clamped_once_for_all (row : Row) :
    (row.InOrder ∧ row.clampUpdated = row ∨
        ¬ row.InOrder ∧ ∃ start, row.instant? SystemColumn.createdAt = some start ∧
          row.clampUpdated = row.insert SystemColumn.updatedAt (.string start.text)) ∧
      (∀ column, row.clampUpdated.contains column = row.contains column) ∧
      (∀ column, column ≠ SystemColumn.updatedAt →
        row.clampUpdated.get? column = row.get? column) ∧
      row.clampUpdated.clampUpdated = row.clampUpdated ∧
      ∀ created updated start change,
        (row.clampUpdated.get? SystemColumn.createdAt).bind ColumnType.timestamp.coerce? =
            some created →
          (row.clampUpdated.get? SystemColumn.updatedAt).bind ColumnType.timestamp.coerce? =
              some updated →
            created.instant? = some start → updated.instant? = some change →
              change.before start = false := by
  refine ⟨?_, Plan.contains_clampUpdated row, fun _ other => row.get?_clampUpdated other,
    row.clampUpdated_clampUpdated, ?_⟩
  · by_cases inOrder : row.InOrder
    · exact .inl ⟨inOrder, Row.clampUpdated_eq_self inOrder⟩
    · rcases Row.clampUpdated_of_not_inOrder inOrder with ⟨start, _, created, _, raised⟩
      exact .inr ⟨inOrder, start, created, raised⟩
  · intro created updated start change storedStart storedChange readStart readChange
    rcases Row.instant?_of_coerced storedStart readStart with ⟨first, hasFirst, rfl⟩
    rcases Row.instant?_of_coerced storedChange readChange with ⟨second, hasSecond, rfl⟩
    exact Row.not_before_of_clampUpdated hasFirst hasSecond

/-- A time of change that lies before the time of creation, but in the same
millisecond, is raised to the beginning of that millisecond.  It still lies before the
time of creation as that is given, but not before the one that is stored. -/
theorem clamped_within_millisecond :
    let row : Row := .ofList [("created_at", .string "2024-05-01T00:00:00.0009Z"),
      ("rank", .ofNat 1), ("updated_at", .string "2024-05-01 00:00:00.0008")]
    let midnight : Json := .string "2024-05-01T00:00:00.000Z"
    let stored : Time.Instant := .ofMillis 1714521600000
    (∃ start, row.clampUpdated.instant? "created_at" = some start ∧
        row.clampUpdated.instant? "updated_at" = some stored ∧ stored.before start = true) ∧
      row.clampUpdated.get? "rank" = row.get? "rank" ∧
      row.clampUpdated.clampUpdated = row.clampUpdated ∧
      ((row.clampUpdated.get? "created_at").bind ColumnType.timestamp.coerce? = some midnight ∧
        (row.clampUpdated.get? "updated_at").bind ColumnType.timestamp.coerce? = some midnight ∧
        midnight.instant? = some stored) ∧
      stored.before stored = false := by
  intro row midnight stored
  have created : (row.clampUpdated.get? "created_at").bind ColumnType.timestamp.coerce? =
      some midnight := by decide +kernel
  have updated : (row.clampUpdated.get? "updated_at").bind ColumnType.timestamp.coerce? =
      some midnight := by decide +kernel
  have read : midnight.instant? = some stored := by decide +kernel
  rcases clamped_once_for_all row with ⟨_, _, others, again, ordered⟩
  refine ⟨⟨⟨1714521600, 900000, by decide, by decide⟩, ?_, ?_, ?_⟩, others "rank" (by decide),
    again, ⟨created, updated, read⟩, ordered _ _ _ _ created updated read read⟩
  · decide +kernel
  · decide +kernel
  · decide +kernel

end RowGate
