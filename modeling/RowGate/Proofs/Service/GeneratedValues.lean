import RowGate.Proofs.Plan.Acceptance
import RowGate.Proofs.Schema.StoredTimes
import RowGate.Proofs.Service.Completion

namespace RowGate

/-!
# Generated values and the types of their columns

A key is generated only for columns of identifiers and of texts, which store it.
The two times are put into every column of their name, whatever its type.  So a row
that leaves its times out is completed to one that the planner accepts if and only
if it accepts the row itself and the columns of both times store the reading of
the clock; for the stamp of an update the same holds of the time of change.  A
column of integers, numbers, truth values or identifiers never does.
-/

open SystemColumn

/-! ## Times that a table takes -/

namespace Table

variable {table : Table} {key : String} {t : Time.Instant}

/-- The column stores the text of the instant, if the table declares it. -/
def TakesTime (table : Table) (key : String) (t : Time.Instant) : Prop :=
  ∀ column, table.column? key = some column → column.type.StoresTime t

theorem takesTime_of_not_declares (undeclared : table.declares key = false) :
    table.TakesTime key t := by
  intro column found
  simp [declares, found] at undeclared

theorem takes_text_iff (declared : table.declares key = true) :
    table.Takes key (.string t.text) ↔ table.TakesTime key t := by
  rcases Option.isSome_iff_exists.mp declared with ⟨column, found⟩
  simp [Takes, TakesTime, found, ColumnType.coerce?_text]

end Table

/-! ## Rows that are completed -/

namespace Service

variable {σ : Type} {service : Service σ} {table : Table} {now : Time.Instant} {row : Row}
  {key : String} {value : Json}

/-- Two times that are filled are the same, and the time of change is not raised. -/
theorem clampUpdated_filled (created : row.isAbsent createdAt = true)
    (updated : row.isAbsent updatedAt = true) :
    (service.filled table now row).clampUpdated = service.filled table now row := by
  apply Row.clampUpdated_eq_self
  intro start change first second
  rw [eq_truncated_of_filled service table now row (.inl rfl) created first,
    eq_truncated_of_filled service table now row (.inr rfl) updated second]
  exact Time.Instant.not_before_self _

theorem declares_of_generated (given : service.generated table now key = some value) :
    table.declares key = true := by
  unfold generated at given
  split at given
  · next same =>
    rcases Option.ite_none_right_eq_some.mp given with ⟨generates, _⟩
    subst same
    unfold generatesKey at generates
    unfold Table.declares
    split at generates
    · next found => rw [found]; rfl
    · cases generates
  · split at given
    · exact (Option.ite_none_right_eq_some.mp given).1
    · cases given

/-- A key is generated for columns that store it, so only a time that is generated
may be refused. -/
theorem takes_generated (created : table.TakesTime createdAt now)
    (updated : table.TakesTime updatedAt now)
    (given : service.generated table now key = some value) : table.Takes key value := by
  have declared := declares_of_generated given
  unfold generated at given
  split at given
  · next same =>
    subst same
    rcases Option.ite_none_right_eq_some.mp given with ⟨generates, ⟨⟩⟩
    rcases Option.isSome_iff_exists.mp declared with ⟨column, found⟩
    refine ⟨column, found, .string service.newId.1.text, ?_⟩
    rcases (generatesKey_iff found).mp generates with type | type
    · rw [type, ColumnType.coerce?_uuid]
    · rw [type, ColumnType.coerce?]
  · split at given
    · next timed =>
      cases given
      rw [Table.takes_text_iff declared]
      rcases timed with rfl | rfl
      · exact created
      · exact updated
    · cases given

theorem takesTime_of_takesRow_filled (timed : key = createdAt ∨ key = updatedAt)
    (absent : row.isAbsent key = true) (taken : table.TakesRow (service.filled table now row)) :
    table.TakesTime key now := by
  cases declared : table.declares key with
  | false => exact Table.takesTime_of_not_declares declared
  | true =>
      have given := generated_time service table now timed declared
      rw [← Table.takes_text_iff declared]
      exact taken key _ (service.get?_filled_of_absent table now row absent given)

/-- A row without times is completed to one that its table takes if and only if the
table takes the row and, in both columns, the reading of the clock. -/
theorem takesRow_filled_iff (created : row.isAbsent createdAt = true)
    (updated : row.isAbsent updatedAt = true) :
    table.TakesRow (service.filled table now row) ↔
      table.TakesRow row ∧ table.TakesTime createdAt now ∧ table.TakesTime updatedAt now := by
  constructor
  · intro taken
    refine ⟨?_, takesTime_of_takesRow_filled (.inl rfl) created taken,
      takesTime_of_takesRow_filled (.inr rfl) updated taken⟩
    intro key value found
    cases absent : row.isAbsent key with
    | false =>
        apply taken key value
        rw [service.get?_filled_of_present table now row absent, found]
    | true =>
        cases given : service.generated table now key with
        | none =>
            apply taken key value
            rw [get?_filled, if_pos absent, given, Option.none_or, found]
        | some filling =>
            -- What is filled was null before, which every declared column takes.
            rw [Row.eq_null_of_isAbsent absent found]
            exact Table.takes_null (declares_of_generated given)
  · rintro ⟨taken, creation, change⟩ key value found
    rw [get?_filled] at found
    split at found
    · cases given : service.generated table now key with
      | none =>
          rw [given, Option.none_or] at found
          exact taken key value found
      | some filling =>
          rw [given, Option.some_or] at found
          cases found
          exact takes_generated creation change given
    · exact taken key value found

end Service

/-! ## Patches that are stamped -/

namespace Plan

variable {catalog : Catalog} {name : String} {table : Table} {now : Time.Instant} {patch : Row}

/-- A stamp that becomes a touch is bound by the planner itself, and one that becomes
a cell of the patch is bound with the other cells. -/
theorem takes_stamped_iff (listed : catalog.table name = .ok table)
    (created : patch.contains createdAt = false) (updated : patch.contains updatedAt = false) :
    (∃ result, stamped catalog name table patch (some now.text) = .ok result ∧
        table.TakesRow result.patch.clampUpdated) ↔
      table.TakesRow patch ∧ table.TakesTime updatedAt now := by
  have unraised : patch.clampUpdated = patch :=
    Row.clampUpdated_of_isAbsent (Row.isAbsent_of_not_contains created)
  cases declared : table.declares updatedAt with
  | false =>
      have vacuous : table.TakesTime updatedAt now := Table.takesTime_of_not_declares declared
      simp [stamped, declared, unraised, vacuous]
  | true =>
      rw [← Table.takes_text_iff declared]
      by_cases stored : table.declares createdAt = true
      · simp only [stamped_touch declared stored created, Fallible.map_eq_ok,
          Keyed.erase_of_not_contains updated]
        rw [← Catalog.exists_coerce_iff listed]
        constructor
        · rintro ⟨_, ⟨bound, coerced, rfl⟩, taken⟩
          rw [unraised] at taken
          exact ⟨taken, bound, coerced⟩
        · rintro ⟨taken, bound, coerced⟩
          refine ⟨_, ⟨bound, coerced, rfl⟩, ?_⟩
          rwa [unraised]
      · have absent : (patch.insert updatedAt (.string now.text)).contains createdAt = false := by
          rw [Keyed.contains_insert, created]
          rfl
        simp only [stamped_cell declared fun begins => absurd begins stored, Except.ok.injEq,
          exists_eq_left']
        rw [Row.clampUpdated_of_isAbsent (Row.isAbsent_of_not_contains absent),
          Table.takesRow_insert_iff updated]

end Plan

/-! ## The main statement -/

/-- A catalog with one table, which declares both times with types of choice. -/
def Catalog.itemsTimed (created updated : ColumnType) : Catalog :=
  Catalog.empty.insertTable "items"
    ⟨[⟨"id", .text, false⟩, ⟨"rank", .integer, true⟩, ⟨"created_at", created, true⟩,
      ⟨"updated_at", updated, true⟩]⟩

/-- A row without times that is completed is accepted if and only if the row is, and
the columns of both times, where they are declared, store the reading of the clock.
An update that names no time is accepted with its stamp if and only if it is without
one, and the column of the time of change, if it is declared, stores the stamp. -/
theorem generated_values_accepted_iff {σ : Type} (service : Service σ) (now : Time.Instant)
    (name : String) (table : Table) (known : Plan.declaration service.catalog name = .ok table) :
    (∀ row : Row, row.isAbsent createdAt = true → row.isAbsent updatedAt = true →
      ((∃ statement, Plan.insert service.catalog name (service.complete table now row).1 =
          .ok statement) ↔
        (∃ statement, Plan.insert service.catalog name row = .ok statement) ∧
          table.TakesTime createdAt now ∧ table.TakesTime updatedAt now)) ∧
    ∀ (predicates : List Predicate) (patch : Row),
      patch.contains createdAt = false → patch.contains updatedAt = false →
      ((∃ statement, Plan.update service.catalog name predicates patch (some now.text) =
          .ok statement) ↔
        (∃ statement, Plan.update service.catalog name predicates patch none = .ok statement) ∧
          table.TakesTime updatedAt now) := by
  constructor
  · intro row created updated
    rw [Plan.exists_insert_iff known, Plan.exists_insert_iff known, Service.complete_eq,
      Row.clampUpdated_clampUpdated, Service.clampUpdated_filled created updated,
      Row.clampUpdated_of_isAbsent created, Service.takesRow_filled_iff created updated]
  · intro predicates patch created updated
    rcases Plan.table_of_declaration known with ⟨_, listed⟩
    have unraised : patch.clampUpdated = patch :=
      Row.clampUpdated_of_isAbsent (Row.isAbsent_of_not_contains created)
    rw [Plan.exists_update_iff known, Plan.exists_update_iff known,
      Plan.takes_stamped_iff listed created updated]
    simp only [Plan.stamped, Except.ok.injEq, exists_eq_left', unraised, and_assoc]

/-- Columns of texts and of documents store the times that are generated for a row and
for an update. -/
theorem text_times_accepted :
    let service : Service Unit := .start () (.itemsTimed .text .json)
      Service.defaultAuditTable .empty ⟨fun _ => 0, 0⟩
    let now : Time.Instant := .ofMillis 1714521600000
    let row : Row := .ofList [("rank", .ofNat 1)]
    let predicates : List Predicate := [⟨"rank", "gte", .string "2"⟩]
    ∃ table, Plan.declaration service.catalog "items" = .ok table ∧
      (∃ statement, Plan.insert service.catalog "items" (service.complete table now row).1 =
        .ok statement) ∧
      ∃ statement, Plan.update service.catalog "items" predicates row (some now.text) =
        .ok statement := by
  intro service now row predicates
  refine ⟨_, rfl, ?_⟩
  rcases generated_values_accepted_iff service now "items" _ rfl with ⟨inserts, updates⟩
  constructor
  · refine (inserts row (by decide) (by decide)).mpr ⟨⟨_, rfl⟩, ?_, ?_⟩
    · rintro column ⟨⟩
      decide
    · rintro column ⟨⟩
      decide
  · refine (updates predicates row (by decide) (by decide)).mpr ⟨⟨_, rfl⟩, ?_⟩
    rintro column ⟨⟩
    decide

/-- With a time of change that is an integer, a row and an update that are accepted as
they stand are refused for the values generated for them. -/
theorem integer_times_refused :
    let catalog : Catalog := .itemsTimed .timestamp .integer
    let service : Service Unit := .start () catalog Service.defaultAuditTable .empty
      ⟨fun _ => 0, 0⟩
    let now : Time.Instant := .ofMillis 1714521600000
    let row : Row := .ofList [("rank", .ofNat 1)]
    let predicates : List Predicate := [⟨"rank", "gte", .string "2"⟩]
    let failure : Failure := .typeMismatch
      "column updated_at: expected integer, got \"2024-05-01T00:00:00.000Z\""
    (∃ statement, Plan.insert catalog "items" row = .ok statement) ∧
      (∃ table, Plan.declaration catalog "items" = .ok table ∧
        Plan.insert catalog "items" (service.complete table now row).1 = .error failure) ∧
      (∃ statement, Plan.update catalog "items" predicates row none = .ok statement) ∧
      Plan.update catalog "items" predicates row (some now.text) = .error failure := by
  intro catalog service now row predicates failure
  refine ⟨⟨_, rfl⟩, ⟨_, rfl, ?_⟩, ⟨_, rfl⟩, ?_⟩
  · decide +kernel
  · decide +kernel

end RowGate
