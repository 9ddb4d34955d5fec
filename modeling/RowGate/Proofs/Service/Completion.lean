import RowGate.Proofs.Plan.Stamps
import RowGate.Query.Write

namespace RowGate

/-!
# Completed rows

Before a row is planned its empty system columns are filled: the key with an
identifier drawn for it, where its table generates keys, and both times with the
reading of the clock, where its table declares them.  A column that has a value
keeps it, and no other column is touched.  Only then the times are compared, and
the time of change is raised to the time of creation if it lies before it.

The planner compares the times once more, which changes nothing.
-/

namespace Row

theorem isAbsent_of_get? {row other : Row} {key : String} (same : row.get? key = other.get? key) :
    row.isAbsent key = other.isAbsent key := by
  unfold isAbsent
  rw [same]

theorem isAbsent_of_some {row : Row} {key : String} {value : Json}
    (found : row.get? key = some value) : row.isAbsent key = value.isNull := by
  rw [isAbsent, found, Option.map_some, Option.getD_some]

/-- A column without a value has null, or is not there. -/
theorem eq_null_of_isAbsent {row : Row} {key : String} {value : Json}
    (absent : row.isAbsent key = true) (found : row.get? key = some value) : value = .null := by
  rw [isAbsent_of_some found] at absent
  cases value with
  | null => rfl
  | bool b | number n | string s | array items | object members => cases absent

theorem instant?_of_isAbsent {row : Row} {key : String} (absent : row.isAbsent key = true) :
    row.instant? key = none := by
  unfold instant?
  cases found : row.get? key with
  | none => rfl
  | some value =>
      rw [eq_null_of_isAbsent absent found]
      rfl

theorem isAbsent_of_not_contains {row : Row} {key : String} (omitted : row.contains key = false) :
    row.isAbsent key = true := by
  rw [isAbsent, Keyed.contains_eq_false_iff.mp omitted]
  rfl

theorem exists_of_not_isAbsent {row : Row} {key : String} (present : row.isAbsent key = false) :
    ∃ value, row.get? key = some value ∧ value.isNull = false := by
  cases found : row.get? key with
  | none => simp [isAbsent, found] at present
  | some value => exact ⟨value, rfl, (isAbsent_of_some found).symm.trans present⟩

theorem id_clampUpdated (row : Row) :
    row.clampUpdated.get? SystemColumn.id = row.get? SystemColumn.id :=
  row.get?_clampUpdated (by decide)

/-- Without a time of creation no time of change is raised. -/
theorem clampUpdated_of_isAbsent {row : Row}
    (absent : row.isAbsent SystemColumn.createdAt = true) : row.clampUpdated = row := by
  apply clampUpdated_eq_self
  intro created _ first _
  cases (instant?_of_isAbsent absent).symm.trans first

end Row

namespace Service

variable {σ : Type}

/-- Keys are generated for two types only. -/
theorem generatesKey_iff {table : Table} {column : Column}
    (found : table.column? SystemColumn.id = some column) :
    generatesKey table = true ↔ column.type = .uuid ∨ column.type = .text := by
  simp [generatesKey, found]

theorem get?_stampAbsent (table : Table) {column other : String} (different : other ≠ column)
    (now : Time.Instant) (row : Row) :
    (stampAbsent table column now row).get? other = row.get? other := by
  unfold stampAbsent
  split
  · rw [Keyed.get?_insert, if_neg different]
  · rfl

theorem get?_stampAbsent_self (table : Table) (column : String) (now : Time.Instant) (row : Row) :
    (stampAbsent table column now row).get? column =
      if table.declares column = true ∧ row.isAbsent column = true then some (.string now.text)
      else row.get? column := by
  unfold stampAbsent
  split
  · rw [Keyed.get?_insert, if_pos rfl]
  · rfl

theorem get?_fillKey (service : Service σ) (table : Table) (row : Row) (key : String) :
    (service.fillKey table row).1.get? key =
      if key = SystemColumn.id ∧ generatesKey table = true ∧ row.isAbsent SystemColumn.id = true then
        some (.string service.newId.1.text)
      else row.get? key := by
  unfold fillKey
  by_cases filled : generatesKey table = true ∧ row.isAbsent SystemColumn.id = true
  · rw [if_pos filled, Keyed.get?_insert]
    simp only [filled, and_true]
  · rw [if_neg filled, if_neg fun all => filled all.2]

/-! ## Generated values -/

/-- What a column is filled with if a row has no value for it. -/
def generated (service : Service σ) (table : Table) (now : Time.Instant) (key : String) :
    Option Json :=
  if key = SystemColumn.id then
    if generatesKey table then some (.string service.newId.1.text) else none
  else if key = SystemColumn.createdAt ∨ key = SystemColumn.updatedAt then
    if table.declares key then some (.string now.text) else none
  else none

/-- A row with its empty system columns filled, before its times are compared. -/
def filled (service : Service σ) (table : Table) (now : Time.Instant) (row : Row) : Row :=
  stampAbsent table SystemColumn.updatedAt now
    (stampAbsent table SystemColumn.createdAt now (service.fillKey table row).1)

theorem complete_eq (service : Service σ) (table : Table) (now : Time.Instant) (row : Row) :
    (service.complete table now row).1 = (service.filled table now row).clampUpdated :=
  rfl

section

variable (service : Service σ) (table : Table) (now : Time.Instant) (row : Row)

theorem generated_id :
    service.generated table now SystemColumn.id =
      if generatesKey table then some (.string service.newId.1.text) else none :=
  rfl

theorem generated_of_timed {key : String}
    (timed : key = SystemColumn.createdAt ∨ key = SystemColumn.updatedAt) :
    service.generated table now key =
      if table.declares key then some (.string now.text) else none := by
  rcases timed with rfl | rfl <;> rfl

theorem generated_time {key : String}
    (timed : key = SystemColumn.createdAt ∨ key = SystemColumn.updatedAt)
    (declared : table.declares key = true) :
    service.generated table now key = some (.string now.text) := by
  rw [generated_of_timed service table now timed, if_pos declared]

/-- A column without a value gets the one that is generated for it, if one is. -/
theorem get?_filled (key : String) :
    (service.filled table now row).get? key =
      if row.isAbsent key = true then (service.generated table now key).or (row.get? key)
      else row.get? key := by
  have keyed : ∀ other, other ≠ SystemColumn.id →
      (service.fillKey table row).1.get? other = row.get? other := by
    intro other different
    rw [get?_fillKey, if_neg fun all => different all.1]
  unfold filled
  by_cases change : key = SystemColumn.updatedAt
  · subst change
    have same : (stampAbsent table SystemColumn.createdAt now (service.fillKey table row).1).get?
        SystemColumn.updatedAt = row.get? SystemColumn.updatedAt := by
      rw [get?_stampAbsent table (by decide), keyed _ (by decide)]
    rw [get?_stampAbsent_self, same, Row.isAbsent_of_get? same,
      generated_of_timed service table now (.inr rfl)]
    cases table.declares SystemColumn.updatedAt <;>
      cases row.isAbsent SystemColumn.updatedAt <;> simp
  · rw [get?_stampAbsent table change]
    by_cases creation : key = SystemColumn.createdAt
    · subst creation
      have same := keyed SystemColumn.createdAt (by decide)
      rw [get?_stampAbsent_self, same, Row.isAbsent_of_get? same,
        generated_of_timed service table now (.inl rfl)]
      cases table.declares SystemColumn.createdAt <;>
        cases row.isAbsent SystemColumn.createdAt <;> simp
    · rw [get?_stampAbsent table creation, get?_fillKey]
      by_cases named : key = SystemColumn.id
      · subst named
        rw [generated_id]
        cases generatesKey table <;> cases row.isAbsent SystemColumn.id <;> simp
      · simp [generated, named, creation, change]

theorem get?_filled_of_absent {key : String} {value : Json}
    (absent : row.isAbsent key = true) (given : service.generated table now key = some value) :
    (service.filled table now row).get? key = some value := by
  rw [get?_filled, if_pos absent, given, Option.some_or]

theorem get?_filled_of_present {key : String} (present : row.isAbsent key = false) :
    (service.filled table now row).get? key = row.get? key := by
  rw [get?_filled, present, if_neg Bool.false_ne_true]

/-- A time that is filled is read back to the millisecond. -/
theorem eq_truncated_of_filled {key : String} {t : Time.Instant}
    (timed : key = SystemColumn.createdAt ∨ key = SystemColumn.updatedAt)
    (absent : row.isAbsent key = true)
    (read : (service.filled table now row).instant? key = some t) : t = now.truncated := by
  rw [Row.instant?, get?_filled, if_pos absent, generated_of_timed service table now timed] at read
  split at read
  · exact Time.eq_truncated_of_read? read
  · cases (Row.instant?_of_isAbsent absent).symm.trans read

/-- A column that is filled has a value afterwards, its own or the generated one. -/
theorem isAbsent_filled {key : String} {value : Json} (filling : value.isNull = false)
    (given : service.generated table now key = some value) :
    (service.filled table now row).isAbsent key = false := by
  cases absent : row.isAbsent key with
  | true =>
      rw [Row.isAbsent_of_some (service.get?_filled_of_absent table now row absent given), filling]
  | false => rw [Row.isAbsent_of_get? (service.get?_filled_of_present table now row absent), absent]

end

/-- A row that is completed has a key where its table generates keys. -/
theorem isAbsent_complete (service : Service σ) {table : Table}
    (generates : generatesKey table = true) (now : Time.Instant) (row : Row) :
    (service.complete table now row).1.isAbsent SystemColumn.id = false := by
  have same : (service.complete table now row).1.get? SystemColumn.id =
      (service.filled table now row).get? SystemColumn.id := by
    rw [complete_eq, Row.id_clampUpdated]
  rw [Row.isAbsent_of_get? same]
  have given : service.generated table now SystemColumn.id =
      some (.string service.newId.1.text) := by
    rw [generated_id, if_pos generates]
  exact service.isAbsent_filled table now row rfl given

end Service
end RowGate
