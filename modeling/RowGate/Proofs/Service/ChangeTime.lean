import RowGate.Proofs.Schema.Forms
import RowGate.Proofs.Service.Batch
import RowGate.Proofs.Service.Times
import RowGate.Proofs.Store.Revision

namespace RowGate

/-!
# Who decides the time of change

Two mechanisms give the rows of an update their time of change.  Where the time of
creation is stored and not patched, the planner does not know it, and the store
raises the stamp to it row by row.  Where the patch sets it, or the table declares
none, the stamp becomes a cell of the patch, and the planner raises it there.

Both come to the same: the reading of the clock to the millisecond, or the time of
creation that the row then has, where that is one that can be read and lies later.
The planner compares before the times are cut to the millisecond and the row is
read back afterwards, which makes no difference to the text that is written.

A time of change that the caller gives is taken out of the patch or replaced before
anything looks at it.
-/

/-! ## The later of two instants -/

namespace Time
namespace Instant

/-- The later of two instants. -/
def later (first second : Instant) : Instant :=
  if first.before second then second else first

/-- The later of two instants lies in the later of their milliseconds. -/
theorem truncated_later (first second : Instant) :
    (first.later second).truncated = first.truncated.later second.truncated := by
  unfold later
  by_cases cut : first.truncated.before second.truncated = true
  · rw [if_pos cut, if_pos (before_of_truncated cut)]
  · rw [if_neg cut]
    split
    · next whole =>
      -- Only what is behind the millisecond makes the second the later one.
      rw [before_iff] at cut whole
      simp only [truncated, Instant.mk.injEq] at cut whole ⊢
      omega
    · rfl

/-- What is behind the millisecond does not show in the later of two instants. -/
theorem text_later_congr {first second other another : Instant}
    (left : first.truncated = other.truncated) (right : second.truncated = another.truncated) :
    (first.later second).text = (other.later another).text := by
  rw [← text_truncated, truncated_later, left, right, ← truncated_later, text_truncated]

end Instant
end Time

/-- A time that a column of times stores is stored as it is. -/
theorem ColumnType.of_coerce?_text {t : Time.Instant} {stored : Json}
    (coerced : ColumnType.timestamp.coerce? (.string t.text) = some stored) :
    t.IsPlain ∧ stored = .string t.text := by
  rw [ColumnType.coerce?_timestamp] at coerced
  rcases Option.ite_none_right_eq_some.mp coerced with ⟨plain, ⟨⟩⟩
  exact ⟨plain, rfl⟩

/-! ## Raised stamps -/

namespace Row

variable {row : Row} {now : Time.Instant}

/-- An instant, or the time of creation of a row if it can be read and lies
later. -/
def raised (row : Row) (t : Time.Instant) : Time.Instant :=
  (row.instant? SystemColumn.createdAt).elim t t.later

theorem raised_of_absent (absent : row.contains SystemColumn.createdAt = false)
    (t : Time.Instant) : row.raised t = t := by
  unfold raised instant?
  rw [Keyed.contains_eq_false_iff.mp absent]
  rfl

theorem updatedAt_clampUpdated (plain : now.IsPlain)
    (given : row.get? SystemColumn.updatedAt = some (.string now.text)) :
    row.clampUpdated.get? SystemColumn.updatedAt =
      some (.string (row.raised now.truncated).text) := by
  have updated : row.instant? SystemColumn.updatedAt = some now.truncated := by
    unfold instant?
    rw [given]
    exact Time.read?_text_of_isPlain plain
  unfold clampUpdated raised
  rw [updated]
  cases row.instant? SystemColumn.createdAt with
  | none => rw [given, Option.elim_none, Time.Instant.text_truncated]
  | some created =>
      simp only [Option.elim_some, Time.Instant.later]
      split
      · rw [Keyed.get?_insert, if_pos rfl]
      · rw [given, Time.Instant.text_truncated]

/-- A clamped row whose time of change is the text of a clock reading can be stored
only if the reading and what the clamp makes of it have a plain year. -/
theorem isPlain_of_clampUpdated {stored : Json}
    (given : row.get? SystemColumn.updatedAt = some (.string now.text))
    (kept : (row.clampUpdated.get? SystemColumn.updatedAt).bind ColumnType.timestamp.coerce? =
      some stored) :
    now.IsPlain ∧ (row.raised now.truncated).IsPlain ∧
      stored = .string (row.raised now.truncated).text := by
  -- A stamp that cannot be read is not raised, and then not stored either.
  have plain : now.IsPlain := by
    by_contra signed
    have unread : row.instant? SystemColumn.updatedAt = none := by
      unfold instant?
      rw [given]
      exact Time.read?_text_of_not_isPlain signed
    have same : row.clampUpdated = row := by
      unfold clampUpdated
      rw [unread]
      cases row.instant? SystemColumn.createdAt <;> rfl
    rw [same, given, Option.bind_some] at kept
    exact signed (ColumnType.of_coerce?_text kept).1
  rw [updatedAt_clampUpdated plain given, Option.bind_some] at kept
  exact ⟨plain, ColumnType.of_coerce?_text kept⟩

/-- Raising to a time of creation and raising to what is stored of it give one
text. -/
theorem text_raised {other : Row} (plain : (row.raised now.truncated).IsPlain)
    (stored : other.instant? SystemColumn.createdAt =
      (row.instant? SystemColumn.createdAt).bind fun t => Time.read? t.text) :
    (other.raised now.truncated).text = (row.raised now.truncated).text := by
  unfold raised at plain ⊢
  rw [stored]
  cases given : row.instant? SystemColumn.createdAt with
  | none => rfl
  | some created =>
      rw [given, Option.elim_some] at plain
      rw [Option.bind_some, Option.elim_some]
      by_cases readable : created.IsPlain
      · rw [Time.read?_text_of_isPlain readable, Option.elim_some]
        exact Time.Instant.text_later_congr rfl created.truncated_truncated
      · rw [Time.read?_text_of_not_isPlain readable, Option.elim_none]
        unfold Time.Instant.later at plain ⊢
        split
        · next raises =>
          rw [if_pos raises] at plain
          exact absurd plain readable
        · rfl

end Row

/-- The time of change that an update at a reading of the clock leaves in a row. -/
def Table.changeTime (table : Table) (now : Time.Instant) (row : Row) : Time.Instant :=
  if table.declares SystemColumn.createdAt then row.raised now.truncated else now.truncated

namespace Memory

open SystemColumn

variable {now : Time.Instant} {row : Row}

theorem stampFor_text (plain : now.IsPlain) (type : ColumnType) :
    stampFor ⟨updatedAt, ⟨.string now.text, type⟩, createdAt⟩ row =
      .string (row.raised now.truncated).text := by
  have stamp : (Json.string now.text).instant? = some now.truncated :=
    Time.read?_text_of_isPlain plain
  unfold stampFor Row.raised
  dsimp only
  rw [stamp]
  cases row.instant? createdAt with
  | none => rw [Option.elim_none, Time.Instant.text_truncated]
  | some created =>
      simp only [Option.elim_some, Time.Instant.later]
      split
      · rfl
      · rw [Time.Instant.text_truncated]

/-! ## Rows that an update writes -/

section

variable {catalog : Catalog} {name : String} {declared : Table} {column : Column} {patch : Row}
  {result : Plan.Stamped} {values : List (String × Param)}

/-- What an update does not assign stays, outside the column of its touch. -/
theorem get?_updatedRow_of_absent {touch : Option Touch} {key : String}
    (elsewhere : ∀ stamp ∈ touch, stamp.column ≠ key)
    (absent : (Plan.written values).contains key = false) :
    (updatedRow values touch row).get? key = row.get? key := by
  rw [get?_updatedRow_written elsewhere, Keyed.contains_eq_false_iff.mp absent, Option.none_or]

/-- A stamp that is a cell of the patch is raised by the planner, and what a row
then has is the stamp raised to the time of creation that the row has. -/
theorem updatedAt_of_cell (found : declared.column? updatedAt = some column)
    (timed : column.type = .timestamp)
    (created : ∀ column, declared.column? createdAt = some column → column.type = .timestamp)
    (listed : catalog.table name = .ok declared)
    (given : declared.declares createdAt = true → patch.contains createdAt = true)
    (assigned : Plan.assignments catalog name
      (Row.clampUpdated (patch.insert updatedAt (.string now.text))) = .ok values) :
    (updatedRow values none row).get? updatedAt =
      some (.string (declared.changeTime now (updatedRow values none row)).text) := by
  have stamped : (patch.insert updatedAt (.string now.text)).get? updatedAt =
      some (.string now.text) := by
    rw [Keyed.get?_insert, if_pos rfl]
  have present : ∀ key, patch.contains key = true ∨ key = updatedAt →
      (Plan.written values).contains key = true := by
    intro key inside
    rw [Plan.contains_written assigned, Plan.contains_clampUpdated, Keyed.contains_insert]
    rcases inside with inside | rfl <;> simp [*]
  -- The cell was bound, so the raised stamp can be read again.
  have change := present updatedAt (.inr rfl)
  rcases Option.isSome_iff_exists.mp change with ⟨stored, kept⟩
  have cells := Plan.get?_written listed found assigned
  rw [timed, kept] at cells
  rcases Row.isPlain_of_clampUpdated stamped cells.symm with ⟨_, plain, rfl⟩
  rw [get?_updatedRow_none row change, kept]
  unfold Table.changeTime
  cases declares : declared.declares createdAt with
  | true =>
      rcases Option.isSome_iff_exists.mp declares with ⟨start, foundStart⟩
      have begun := Plan.instant?_written listed foundStart (created start foundStart) assigned
      rw [Row.instant?_of_get? (Row.createdAt_clampUpdated _)] at begun
      have same := Row.instant?_of_get?
        (get?_updatedRow_none row (present createdAt (.inl (given declares))))
      rw [if_pos rfl, Row.text_raised plain (same.trans begun)]
  | false =>
      have absent : (patch.insert updatedAt (.string now.text)).contains createdAt = false := by
        apply Bool.eq_false_iff.mpr
        intro inside
        rw [← Plan.contains_clampUpdated] at inside
        rw [Plan.declares_of_contains listed assigned inside] at declares
        cases declares
      rw [if_neg Bool.false_ne_true, Row.raised_of_absent absent]

/-- An update gives every row that it writes the time of change of the clock, and
leaves its time of creation alone unless the patch names it. -/
theorem times_updatedRow (found : declared.column? updatedAt = some column)
    (timed : column.type = .timestamp)
    (created : ∀ column, declared.column? createdAt = some column → column.type = .timestamp)
    (listed : catalog.table name = .ok declared)
    (stamps : Plan.stamped catalog name declared patch (some now.text) = .ok result)
    (assigned : Plan.assignments catalog name result.patch.clampUpdated = .ok values) :
    let new := updatedRow values result.touch row
    new.get? updatedAt = some (.string (declared.changeTime now new).text) ∧
      (patch.contains createdAt = false → new.get? createdAt = row.get? createdAt) := by
  have changes : declared.declares updatedAt = true := by
    simp [Table.declares, found]
  rcases Plan.stamped_eq_ok changes stamps with
    ⟨given, rfl⟩ | ⟨declares, leaves, bound, coerced, rfl⟩
  · refine ⟨updatedAt_of_cell found timed created listed given assigned, ?_⟩
    intro leaves
    apply get?_updatedRow_of_absent
    · rintro _ ⟨⟩
    · rw [Plan.contains_written assigned, Plan.contains_clampUpdated, Keyed.contains_insert, leaves]
      rfl
  · have stored := Plan.coerce?_of_coerce listed found coerced
    rw [timed] at stored
    rcases ColumnType.of_coerce?_text stored with ⟨plain, same⟩
    have start : (updatedRow values (some ⟨updatedAt, ⟨bound.1, bound.2⟩, createdAt⟩) row).get?
        createdAt = row.get? createdAt := by
      apply get?_updatedRow_of_absent
      · rintro _ ⟨⟩
        exact (by decide : updatedAt ≠ createdAt)
      · rw [Plan.contains_written assigned, Plan.contains_clampUpdated, Keyed.contains_erase,
          leaves, Bool.and_false]
    refine ⟨?_, fun _ => start⟩
    unfold Table.changeTime Row.raised
    rw [if_pos declares, Row.instant?_of_get? start, ← Row.raised,
      ← stampFor_text plain bound.2, ← same]
    exact get?_updatedRow_touch _

end

end Memory

/-! ## Patches that differ in the time of change -/

namespace Plan

open SystemColumn

variable {catalog : Catalog} {name : String} {declared : Table} {patch other : Row}

theorem stamped_of_erase_eq (changes : declared.declares updatedAt = true)
    (same : other.erase updatedAt = patch.erase updatedAt) (stamp : String) :
    stamped catalog name declared other (some stamp) =
      stamped catalog name declared patch (some stamp) := by
  have cells : ∀ key, key ≠ updatedAt → other.get? key = patch.get? key := by
    intro key different
    have outside := congrArg (fun row => Keyed.get? row key) same
    simpa [Keyed.get?_erase, different] using outside
  have created : other.contains createdAt = patch.contains createdAt :=
    congrArg Option.isSome (cells createdAt (by decide))
  have replaced : ∀ value, other.insert updatedAt value = patch.insert updatedAt value := by
    intro value
    apply Keyed.eq_of_get?_eq
    intro key
    rw [Keyed.get?_insert, Keyed.get?_insert]
    split
    · rfl
    · next different => exact cells key different
  simp only [stamped, changes, created, same, replaced, not_true_eq_false, if_false]

/-- The planner does not look at a time of change that the caller gives. -/
theorem update_of_erase_eq (known : declaration catalog name = .ok declared)
    (changes : declared.declares updatedAt = true) (filled : patch.isEmpty = false)
    (otherFilled : other.isEmpty = false) (same : other.erase updatedAt = patch.erase updatedAt)
    (predicates : List Predicate) (stamp : String) :
    Plan.update catalog name predicates other (some stamp) =
      Plan.update catalog name predicates patch (some stamp) := by
  rcases Fallible.bind_eq_ok.mp known with ⟨table, named, listed⟩
  have stamps : stamped catalog table declared other (some stamp) =
      stamped catalog table declared patch (some stamp) := stamped_of_erase_eq changes same stamp
  unfold Plan.update
  simp only [named, listed, filled, otherFilled, stamps, Bind.bind, Except.bind]

end Plan

/-! ## The main statement -/

namespace Service

/-- A patch with a column is an object, and its shape is not at fault. -/
theorem patchOf_snd {content : Json} (filled : (patchOf content).1.isEmpty = false) :
    (patchOf content).2 = none := by
  cases content with
  | object members => rfl
  | null => rfl
  | bool b => cases filled
  | number n => cases filled
  | string s => cases filled
  | array items => cases filled

/-- The steps of an update that succeeds. -/
theorem update_eq_ok {service : Service Memory} {now : Time.Instant} {name : String}
    {predicates : List Predicate} {content : Json}
    (succeeded : (service.update now name predicates content).1.succeeded = true) :
    ∃ statement returned,
      Plan.update service.catalog name predicates (patchOf content).1 (some now.text) =
        .ok statement ∧
      (service.store.execute statement).1 = .ok returned ∧
      (service.update now name predicates content).1 = .ofRows returned := by
  simp only [update] at succeeded ⊢
  cases plan : planUpdate service.catalog now name predicates content with
  | error failure =>
      rw [plan] at succeeded
      cases succeeded
  | ok statement =>
      rw [plan] at succeeded
      rw [executePlan] at succeeded ⊢
      cases executed : ((service.recordAll (writeEvents service.catalog name predicates)).execute
          statement).1 with
      | error failure =>
          rw [executed] at succeeded
          cases succeeded
      | ok returned =>
          have done := execute_eq_ok executed
          exact ⟨statement, returned, reportShape_eq_ok plan, done, rfl⟩

end Service

/-- The clock decides the time of change.  An update that succeeds answers with the
rows that it found, in order; each of them has as its time of change the text of
the reading, to the millisecond, or of the time of creation that it now has, if its
table declares one and it can be read and lies later, and its time of creation is
as before unless the patch names it.  Patches that are not empty and differ in the
time of change alone have one outcome. -/
theorem time_of_change_set_by_clock (service : Service Memory) (now : Time.Instant)
    (name : String) (predicates : List Predicate) (content : Json) (declared : Table)
    (column : Column) (known : Plan.declaration service.catalog name = .ok declared)
    (found : declared.column? SystemColumn.updatedAt = some column)
    (timed : column.type = .timestamp)
    (created : ∀ column, declared.column? SystemColumn.createdAt = some column →
      column.type = .timestamp) :
    let patch := (Service.patchOf content).1
    let result := service.update now name predicates content
    (result.1.succeeded = true → ∃ table bound returned,
      Plan.table service.catalog name = .ok table ∧
      Plan.scope service.catalog table "update" predicates = .ok bound ∧
      result.1 = .ofRows returned ∧
      List.Forall₂ (fun old new : Row =>
          new.get? SystemColumn.updatedAt =
              some (.string (declared.changeTime now new).text) ∧
            (patch.contains SystemColumn.createdAt = false →
              new.get? SystemColumn.createdAt = old.get? SystemColumn.createdAt))
        ((service.store.rows table).filter fun row => row.satisfies bound) returned) ∧
    ∀ other, patch.isEmpty = false → (Service.patchOf other).1.isEmpty = false →
      (Service.patchOf other).1.erase SystemColumn.updatedAt =
        patch.erase SystemColumn.updatedAt →
      service.update now name predicates other = result := by
  intro patch result
  have changes : declared.declares SystemColumn.updatedAt = true := by
    simp [Table.declares, found]
  constructor
  · intro succeeded
    rcases Service.update_eq_ok succeeded with ⟨statement, returned, planned, executed, answer⟩
    rcases Plan.update_eq_ok planned with
      ⟨table, other, bound, stamped, values, named, listed, scope, _, stamps, assigned, rfl⟩
    rcases Fallible.bind_eq_ok.mp known with ⟨_, same, declaration⟩
    cases named.symm.trans same
    cases listed.symm.trans declaration
    rcases Memory.execute_eq_ok executed with ⟨_, after, _, _, done, _⟩
    have rewritten : returned = ((service.store.rows table).filter fun row =>
        row.satisfies bound).map (Memory.updatedRow values stamped.touch) :=
      Memory.answer_run_update done
    refine ⟨table, bound, returned, named, scope, answer, ?_⟩
    rw [rewritten, List.forall₂_map_right_iff, List.forall₂_same]
    intro row _
    exact Memory.times_updatedRow found timed created listed stamps assigned
  · intro other filled otherFilled same
    have plans := Plan.update_of_erase_eq known changes filled otherFilled same predicates now.text
    have shapes : Service.planUpdate service.catalog now name predicates other =
        Service.planUpdate service.catalog now name predicates content := by
      simp only [Service.planUpdate, Service.patchOf_snd filled, Service.patchOf_snd otherFilled]
      exact congrArg _ plans
    simp only [result, Service.update, shapes]

/-- Two rows are changed, of which the first was created at a time that the clock
has not reached.  The time of change in the patch is passed over. -/
theorem late_creation_raises_change :
    let service : Service Memory := { Service.ofItems with store := .rankedItems }
    let now : Time.Instant := .ofMillis 1714521600000
    let predicates : List Predicate := [⟨"rank", "gte", .string "2"⟩]
    let content : Json := .object [("rank", .ofNat 0), ("updated_at", .string "3001-01-01")]
    let plain : Json := .object [("rank", .ofNat 0)]
    let bound : List Condition := [⟨"rank", ⟨.gte, false⟩, ⟨.ofNat 2, .integer⟩⟩]
    (∃ returned, (service.update now "items" predicates content).1 = .ofRows returned ∧
        List.Forall₂ (fun old new : Row => new.get? "created_at" = old.get? "created_at")
          ((service.store.rows "items").filter fun row => row.satisfies bound) returned ∧
        returned.map (fun row => (row.get? "id", row.get? "updated_at")) =
          [(some (.string "b"), some (.string "2999-01-01T00:00:00.000Z")),
            (some (.string "c"), some (.string "2024-05-01T00:00:00.000Z"))]) ∧
      service.update now "items" predicates plain =
        service.update now "items" predicates content := by
  intro service now predicates content plain bound
  have declared : ∃ declared, Plan.declaration service.catalog "items" = .ok declared ∧
      (∃ column, declared.column? SystemColumn.updatedAt = some column ∧
        column.type = .timestamp) ∧
      ∀ column, declared.column? SystemColumn.createdAt = some column →
        column.type = .timestamp := by
    refine ⟨_, rfl, ⟨_, rfl, rfl⟩, ?_⟩
    rintro _ ⟨⟩
    rfl
  rcases declared with ⟨declared, known, ⟨column, found, timed⟩, created⟩
  rcases time_of_change_set_by_clock service now "items" predicates content declared column known
    found timed created with ⟨changed, passed⟩
  have succeeded : (service.update now "items" predicates content).1.succeeded = true := by
    decide +kernel
  have cells : (service.update now "items" predicates content).1.records.map
      (fun row => (row.get? "id", row.get? "updated_at")) =
        [(some (.string "b"), some (.string "2999-01-01T00:00:00.000Z")),
          (some (.string "c"), some (.string "2024-05-01T00:00:00.000Z"))] := by
    decide +kernel
  have named : Plan.table service.catalog "items" = .ok "items" := by decide +kernel
  have scope : Plan.scope service.catalog "items" "update" predicates = .ok bound := by
    decide +kernel
  rcases changed succeeded with ⟨table, conditions, returned, target, planned, answer, rows⟩
  cases named.symm.trans target
  cases scope.symm.trans planned
  refine ⟨⟨returned, answer, ?_, ?_⟩, ?_⟩
  · exact rows.imp fun _ _ times => times.2 (by decide +kernel)
  · rw [answer, Service.records_ofRows] at cells
    exact cells
  · exact passed plain (by decide +kernel) (by decide +kernel) (by decide +kernel)

end RowGate
