import RowGate.Proofs.Plan.Soundness
import RowGate.Proofs.Plan.Stamps
import RowGate.Proofs.Service.WriteScope
import RowGate.Proofs.Store.Keys

namespace RowGate

/-!
# Times in the store

In every state that a service reaches, whatever the clock showed at each call,
no row has a time of change before its time of creation.  An insert, and an
update that sets the time of creation, write both times of a clamped row.  Any
other update stamps the time of change over the stored time of creation, which
is the text of a whole millisecond, so that the stamp is read back as the time
of creation itself where the clock lags behind it.
-/

namespace Memory

open SystemColumn

variable {catalog : Catalog} {name : String} {declared : Table}

/-! ## Rows that are written -/

theorem get?_insertAll_written (row : Row) (values : List (String × Param)) (key : String) :
    (row.insertAll (values.map fun value => (value.1, value.2.value))).get? key =
      ((Plan.written values).get? key).or (row.get? key) :=
  row.get?_insertAll _ key

/-- What an insert does not give is null, which is no time. -/
theorem instant?_insertedRow (table : Table) (values : List (String × Param)) (key : String) :
    (insertedRow table values).instant? key = (Plan.written values).instant? key := by
  unfold Row.instant? insertedRow
  rw [get?_insertAll_written]
  cases (Plan.written values).get? key with
  | some value => rfl
  | none =>
      cases absent : (Keyed.ofList (table.columns.map fun column => (column.name, Json.null))).get?
          key with
      | none => rfl
      | some value =>
          rcases List.mem_map.mp (Keyed.mem_of_get?_ofList absent) with ⟨column, _, same⟩
          cases same
          rfl

theorem settled_insertedRow (table : Table) {values : List (String × Param)}
    (settled : (Plan.written values).Settled) : (insertedRow table values).Settled :=
  Row.settled_of_instant? settled (instant?_insertedRow table values createdAt)
    (instant?_insertedRow table values updatedAt)

section

variable {patch row : Row} {now : Time.Instant} {result : Plan.Stamped}
  {values : List (String × Param)}

/-- The stamp of a touch does not lie before a time of creation that is a whole
millisecond. -/
theorem not_before_stampFor {param : Param} {created updated : Time.Instant}
    (floor : row.instant? createdAt = some created) (whole : created.truncated = created)
    (stamped : (stampFor ⟨updatedAt, param, createdAt⟩ row).instant? = some updated) :
    updated.before created = false := by
  unfold stampFor at stamped
  dsimp only at stamped
  rw [floor] at stamped
  cases bound : param.value.instant? with
  | none =>
      rw [bound] at stamped
      cases bound.symm.trans stamped
  | some stamp =>
      rw [bound] at stamped
      dsimp only at stamped
      cases lags : stamp.before created with
      | true =>
          rw [lags, if_pos rfl] at stamped
          rw [Time.eq_truncated_of_read? stamped, whole]
          exact created.not_before_self
      | false =>
          rw [lags, if_neg Bool.false_ne_true] at stamped
          cases bound.symm.trans stamped
          exact lags

/-- What an update does to a column outside its touch. -/
theorem get?_updatedRow_written {touch : Option Touch} {key : String}
    (elsewhere : ∀ stamp ∈ touch, stamp.column ≠ key) :
    (updatedRow values touch row).get? key = ((Plan.written values).get? key).or (row.get? key) :=
  get?_updatedRow elsewhere row

/-- Without a touch, what an update assigns is what its rows then have. -/
theorem get?_updatedRow_none (row : Row) {key : String}
    (present : (Plan.written values).contains key = true) :
    (updatedRow values none row).get? key = (Plan.written values).get? key := by
  rcases Option.isSome_iff_exists.mp present with ⟨value, found⟩
  rw [get?_updatedRow_written, found, Option.some_or]
  rintro _ ⟨⟩

theorem get?_updatedRow_touch (touch : Touch) :
    (updatedRow values (some touch) row).get? touch.column = some (stampFor touch row) := by
  rw [updatedRow, Keyed.get?_insert, if_pos rfl]

theorem settled_touch {param : Param} (settled : row.Settled)
    (created : (Plan.written values).get? createdAt = none) :
    (updatedRow values (some ⟨updatedAt, param, createdAt⟩) row).Settled := by
  have start : (updatedRow values (some ⟨updatedAt, param, createdAt⟩) row).instant? createdAt =
      row.instant? createdAt := by
    apply Row.instant?_of_get?
    rw [get?_updatedRow_written, created, Option.none_or]
    rintro _ ⟨⟩
    exact (by decide : updatedAt ≠ createdAt)
  have change : (updatedRow values (some ⟨updatedAt, param, createdAt⟩) row).instant? updatedAt =
      (stampFor ⟨updatedAt, param, createdAt⟩ row).instant? := by
    unfold Row.instant?
    rw [get?_updatedRow_touch ⟨updatedAt, param, createdAt⟩, Option.bind_some]
  constructor
  · rw [start]
    exact settled.whole
  · intro first second readFirst readSecond
    rw [start] at readFirst
    rw [change] at readSecond
    exact not_before_stampFor readFirst (settled.whole first readFirst) readSecond

theorem settled_updatedRow (settled : row.Settled) (keeps : declared.KeepsTimes)
    (listed : catalog.table name = .ok declared)
    (stamps : Plan.stamped catalog name declared patch (some now.text) = .ok result)
    (assigned : Plan.assignments catalog name result.patch.clampUpdated = .ok values) :
    (updatedRow values result.touch row).Settled := by
  have writes := Plan.settled_written keeps listed assigned
  rcases Plan.stamped_cases keeps stamps with ⟨sets, rfl⟩ | ⟨leaves, bound, _, rfl⟩
  · rcases keeps with ⟨⟨first, foundFirst, _⟩, ⟨second, foundSecond, _⟩⟩
    have start := Plan.contains_written assigned createdAt
    have change := Plan.contains_written assigned updatedAt
    rw [Plan.contains_clampUpdated, Keyed.contains_insert] at start change
    simp only [sets, Bool.or_true, decide_true, Bool.true_or] at start change
    exact Row.settled_of_instant? writes (Row.instant?_of_get? (get?_updatedRow_none row start))
      (Row.instant?_of_get? (get?_updatedRow_none row change))
  · apply settled_touch settled
    rcases keeps with ⟨⟨first, foundFirst, _⟩, _⟩
    have start := Plan.contains_written assigned createdAt
    rw [Plan.contains_clampUpdated, Keyed.contains_erase, leaves, Bool.and_false] at start
    exact Keyed.contains_eq_false_iff.mp start

end

/-! ## Statements -/

theorem settled_run {statement : Statement} {table : Table} {rows answer after : List Row}
    (issued : Plan.Issues catalog statement)
    (listed : catalog.table statement.table = .ok declared) (keeps : declared.KeepsTimes)
    (settled : ∀ row ∈ rows, row.Settled)
    (done : run table rows statement = .ok (answer, after)) : ∀ row ∈ after, row.Settled := by
  rcases issued with ⟨request, clocked, planned⟩
  cases request with
  | read request =>
      rcases Fallible.bind_eq_ok.mp planned with ⟨_, _, planned⟩
      rcases Fallible.bind_eq_ok.mp planned with ⟨_, _, planned⟩
      rcases Fallible.bind_eq_ok.mp planned with ⟨_, _, planned⟩
      rcases Fallible.bind_eq_ok.mp planned with ⟨_, _, planned⟩
      cases planned
      cases done
      exact settled
  | insert target row =>
      rcases Fallible.bind_eq_ok.mp planned with ⟨_, _, planned⟩
      rcases Fallible.bind_eq_ok.mp planned with ⟨values, assigned, planned⟩
      cases planned
      rcases Fallible.bind_eq_ok.mp done with ⟨_, _, done⟩
      rcases Fallible.bind_eq_ok.mp done with ⟨_, _, done⟩
      cases done
      intro row member
      rcases List.mem_append.mp member with before | added
      · exact settled row before
      · rw [List.mem_singleton.mp added]
        exact settled_insertedRow table (Plan.settled_written keeps listed assigned)
  | update target predicates patch stamp =>
      rcases clocked with ⟨now, rfl⟩
      rcases Plan.update_eq_ok planned with
        ⟨_, other, _, result, values, _, same, _, _, stamps, assigned, rfl⟩
      cases listed.symm.trans same
      rw [(run_update_eq_ok done).1]
      intro row member
      rcases List.mem_map.mp member with ⟨old, before, rfl⟩
      unfold rewritten
      split
      · exact settled_updatedRow (settled old before) keeps listed stamps assigned
      · exact settled old before
  | delete target predicates =>
      rcases Fallible.bind_eq_ok.mp planned with ⟨_, _, planned⟩
      rcases Fallible.bind_eq_ok.mp planned with ⟨_, _, planned⟩
      cases planned
      cases done
      intro row member
      exact settled row (List.mem_filter.mp member).1

/-- All rows of tables that keep both times have them in order. -/
def TimesSettled (catalog : Catalog) (memory : Memory) : Prop :=
  ∀ name declared, catalog.table name = .ok declared → declared.KeepsTimes →
    ∀ row ∈ memory.rows name, row.Settled

theorem timesSettled_execute {memory : Memory} {statement : Statement}
    (settled : memory.TimesSettled catalog) (issued : Plan.Issues catalog statement) :
    (memory.execute statement).2.TimesSettled catalog := by
  intro name declared listed keeps row member
  rcases memory.execute_cases statement with
    ⟨_, _, same⟩ | ⟨table, answer, after, _, done, _, tables⟩
  · unfold Memory.rows at member
    rw [same] at member
    exact settled name declared listed keeps row member
  · unfold Memory.rows at member
    rw [tables, Keyed.get?_insert] at member
    split at member
    · next here =>
      subst here
      exact settled_run issued listed keeps (settled _ declared listed keeps) done row member
    · exact settled name declared listed keeps row member

/-- A store beside itself, as long as the times are settled. -/
theorem simulation_timesSettled (catalog : Catalog) :
    Simulation catalog fun first second : Memory =>
      first = second ∧ first.TimesSettled catalog where
  name := rfl
  execute := by
    rintro first _ statement ⟨rfl, settled⟩ issued
    exact ⟨rfl, rfl, timesSettled_execute settled issued⟩
  close := by
    rintro first _ ⟨rfl, settled⟩
    exact ⟨rfl, rfl, settled⟩

end Memory

/-! ## The main statement -/

variable {κ : Type}

/-- Whatever calls are made, and whatever the clock shows at each of them, a
table that declares both times holds no row whose time of change lies before
its time of creation. -/
theorem times_in_order [Auth.KeyStore κ] (catalog : Catalog) (auditTable : String)
    (journal : Journal) (random : Random) (calls : List (Time.Instant × Call κ)) (name : String)
    (declared : Table) (listed : catalog.tables.get? name = some declared)
    (keeps : declared.KeepsTimes) :
    ∀ row ∈ ((Service.start (Memory.ofCatalog catalog) catalog auditTable journal
        random).serveAll calls).2.store.rows name,
      ∀ created updated, row.instant? SystemColumn.createdAt = some created →
        row.instant? SystemColumn.updatedAt = some updated → updated.before created = false := by
  have fresh : (Memory.ofCatalog catalog).TimesSettled catalog := by
    intro name declared _ _ row member
    rw [Memory.rows_ofCatalog] at member
    exact absurd member List.not_mem_nil
  have linked : Service.Linked catalog
      (fun first second : Memory => first = second ∧ first.TimesSettled catalog)
      (Service.start (Memory.ofCatalog catalog) catalog auditTable journal random)
      (Service.start (Memory.ofCatalog catalog) catalog auditTable journal random) :=
    ⟨⟨rfl, fresh⟩, rfl, rfl, rfl, rfl, rfl, rfl⟩
  have run := linked.serveAll (Memory.simulation_timesSettled catalog) calls
  intro row member
  exact (run.2.store.2 name declared (Catalog.table_eq_ok.mpr listed) keeps row member).inOrder

/-- A row that is given an earlier time of change at first, and is then changed
at a clock that lags behind its time of creation. -/
def Call.lagging : List (Time.Instant × Call Auth.MemoryKeys) :=
  [(.ofMillis 1714521600000, .insert "items" (.object
      [("id", .string "a"), ("created_at", .string "2024-05-01T00:00:00.0009Z"),
        ("updated_at", .string "2001-01-01")])),
    (.ofMillis 0, .update "items" [⟨"id", "eq", .string "a"⟩] (.object [("rank", .null)]))]

/-- Both times of the row are the millisecond of its creation. -/
theorem lagging_clock_keeps_order :
    let after := (Service.ofItems.serveAll Call.lagging).2.store.rows "items"
    (∃ declared, Catalog.items.tables.get? "items" = some declared ∧ declared.KeepsTimes) ∧
      after.map (fun row =>
          (row.get? SystemColumn.createdAt, row.get? SystemColumn.updatedAt)) =
        [(some (.string "2024-05-01T00:00:00.000Z"), some (.string "2024-05-01T00:00:00.000Z"))] ∧
      ∀ row ∈ after, ∀ created updated,
        row.instant? SystemColumn.createdAt = some created →
          row.instant? SystemColumn.updatedAt = some updated → updated.before created = false := by
  have listed : Catalog.items.tables.get? "items" ≠ none := by decide +kernel
  rcases Option.ne_none_iff_exists'.mp listed with ⟨declared, listed⟩
  have keeps : declared.KeepsTimes := by
    cases listed
    exact ⟨⟨_, rfl, rfl⟩, ⟨_, rfl, rfl⟩⟩
  exact ⟨⟨declared, listed, keeps⟩, by decide +kernel,
    times_in_order .items Service.defaultAuditTable .empty ⟨fun _ => 0, 0⟩ Call.lagging "items"
      declared listed keeps⟩

end RowGate
