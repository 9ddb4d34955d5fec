import RowGate.Proofs.Store.Atomicity
import RowGate.Proofs.Store.Numbers

namespace RowGate
namespace Memory

/-!
# The rows that writes touch

An update and a delete find their rows before they change any.  A delete takes
them out and keeps the others in their order, so the same delete finds nothing
afterwards.  An update puts the new version of a row where the old one stood: the
stamp in the column of the touch, the assigned values in theirs, and the old cells
everywhere else.  It may assign the columns that its own conditions look at, and
still no row is found twice or lost.

The stamp is made of the old row, not of the row with its new values.
-/

/-! ## New versions of rows -/

/-- The value that assignments give to a column: that of the last one for it. -/
def lastAssigned? (assignments : List (String × Param)) (column : String) : Option Json :=
  (assignments.reverse.find? fun value => value.1 == column).map fun value => value.2.value

/-- One row is the new version of another. -/
structure Revision (assignments : List (String × Param)) (touch : Option Touch)
    (old new : Row) : Prop where
  stamped : ∀ stamp ∈ touch, new.get? stamp.column = some (stampFor stamp old)
  assigned : ∀ column value, (∀ stamp ∈ touch, stamp.column ≠ column) →
    lastAssigned? assignments column = some value → new.get? column = some value
  kept : ∀ column, (∀ stamp ∈ touch, stamp.column ≠ column) →
    lastAssigned? assignments column = none → new.get? column = old.get? column

section

variable {assignments : List (String × Param)} {touch : Option Touch} {conditions : List Condition}

theorem get?_assigned (assignments : List (String × Param)) (column : String) :
    (assigned assignments).get? column = lastAssigned? assignments column := by
  induction assignments using List.reverseRecOn with
  | nil => rfl
  | append_singleton before last inductionHypothesis =>
      have stepped : assigned (before ++ [last]) =
          (assigned before).insert last.1 last.2.value := by
        simp only [assigned, Keyed.insertAll, List.map_append, List.map_cons, List.map_nil,
          List.foldl_append, List.foldl_cons, List.foldl_nil]
      rw [stepped, Keyed.get?_insert, inductionHypothesis, lastAssigned?, lastAssigned?,
        List.reverse_append, List.reverse_singleton, List.singleton_append, List.find?_cons]
      by_cases here : column = last.1
      · simp [here]
      · have other : (last.1 == column) = false := by simpa using fun same => here same.symm
        simp [here, other]

/-- A row has one new version, and an update writes it. -/
theorem revision_iff {old new : Row} :
    Revision assignments touch old new ↔ new = updatedRow assignments touch old := by
  have cells : Revision assignments touch old (updatedRow assignments touch old) := by
    constructor
    · rintro stamp ⟨⟩
      rw [updatedRow, Keyed.get?_insert, if_pos rfl]
    · intro column value elsewhere given
      rw [get?_updatedRow elsewhere, get?_assigned, given, Option.some_or]
    · intro column elsewhere unassigned
      rw [get?_updatedRow elsewhere, get?_assigned, unassigned, Option.none_or]
  constructor
  · intro revision
    apply Keyed.eq_of_get?_eq
    intro column
    by_cases touched : ∃ stamp ∈ touch, stamp.column = column
    · rcases touched with ⟨stamp, member, rfl⟩
      rw [revision.stamped stamp member, cells.stamped stamp member]
    · have elsewhere : ∀ stamp ∈ touch, stamp.column ≠ column := by
        intro stamp member same
        exact touched ⟨stamp, member, same⟩
      cases given : lastAssigned? assignments column with
      | some value =>
          rw [revision.assigned column value elsewhere given,
            cells.assigned column value elsewhere given]
      | none => rw [revision.kept column elsewhere given, cells.kept column elsewhere given]
  · rintro rfl
    exact cells

/-! ## The rows of a table -/

/-- Place by place, the rows after an update are new versions where the
conditions held, and the old rows where they did not. -/
theorem forall₂_rewritten (rows : List Row) :
    List.Forall₂ (fun old new =>
        (old.satisfies conditions = true → Revision assignments touch old new) ∧
          (old.satisfies conditions = false → new = old))
      rows (rows.map (rewritten assignments touch conditions)) := by
  rw [List.forall₂_map_right_iff, List.forall₂_same]
  intro row _
  constructor
  · intro matching
    exact revision_iff.mpr (rewritten_of_satisfies matching)
  · exact rewritten_of_not_satisfies

/-- The written rows are the new ones at the places of the rows that matched. -/
theorem written_eq (rows : List Row) :
    written assignments touch conditions rows =
      ((rows.zip (rows.map (rewritten assignments touch conditions))).filter
        fun place => place.1.satisfies conditions).map Prod.snd := by
  rw [← List.map_prod_left_eq_zip, List.filter_map, List.map_map]
  apply List.map_congr_left
  intro row member
  exact (rewritten_of_satisfies (List.mem_filter.mp member).2).symm

end

variable {memory : Memory}

/-- An open store executes every delete from a listed table. -/
theorem execute_delete {name : String} {table : Table} (opened : memory.closed = false)
    (listed : memory.catalog.tables.get? name = some table) (conditions : List Condition) :
    memory.execute (.delete name conditions) =
      (.ok ((memory.rows name).filter fun row => row.satisfies conditions),
        { memory with executed := memory.executed + 1 }.setRows name
          ((memory.rows name).filter fun row => !row.satisfies conditions)) := by
  simp only [execute, opened, Statement.table, listed, run, Bool.false_eq_true, if_false]

/-! ## The main statement -/

/-- An executed delete takes out the rows that satisfy its conditions and answers
with them, both in the order of the table, and the same delete then finds no row
and changes no table.  An executed update keeps the number and the order of the
rows; it puts new versions in the places of the rows that satisfied its conditions
before, leaves every other row as it is, and answers with the new versions in
order.  Other tables stay as they are. -/
theorem writes_touch_matching_rows (memory : Memory) (name : String)
    (conditions : List Condition) :
    (∀ answer, (memory.execute (.delete name conditions)).1 = .ok answer →
      let after := (memory.execute (.delete name conditions)).2
      let again := after.execute (.delete name conditions)
      answer = (memory.rows name).filter (fun row => row.satisfies conditions) ∧
        after.rows name = (memory.rows name).filter (fun row => !row.satisfies conditions) ∧
        (∀ other, other ≠ name → after.rows other = memory.rows other) ∧
        again.1 = .ok [] ∧ again.2.tables = after.tables) ∧
    ∀ assignments touch answer,
      (memory.execute (.update name assignments touch conditions)).1 = .ok answer →
      let after := (memory.execute (.update name assignments touch conditions)).2
      List.Forall₂ (fun old new =>
          (old.satisfies conditions = true → Revision assignments touch old new) ∧
            (old.satisfies conditions = false → new = old))
        (memory.rows name) (after.rows name) ∧
        answer = (((memory.rows name).zip (after.rows name)).filter
          fun place => place.1.satisfies conditions).map Prod.snd ∧
        ∀ other, other ≠ name → after.rows other = memory.rows other := by
  constructor
  · intro answer done after again
    rcases execute_eq_ok done with ⟨table, _, opened, listed, executed, _⟩
    have changed : after = { memory with executed := memory.executed + 1 }.setRows name
        ((memory.rows name).filter fun row => !row.satisfies conditions) :=
      congrArg Prod.snd (execute_delete opened listed conditions)
    have left :
        after.rows name = (memory.rows name).filter fun row => !row.satisfies conditions := by
      rw [changed, rows_setRows, if_pos rfl]
    -- The same delete meets only rows that did not satisfy its conditions.
    have nothing : (after.rows name).filter (fun row => row.satisfies conditions) = [] := by
      simp [left, List.filter_filter]
    have everything : (after.rows name).filter (fun row => !row.satisfies conditions) =
        after.rows name := by
      simp [left, List.filter_filter]
    have repeated : again = (.ok [],
        { after with executed := after.executed + 1 }.setRows name (after.rows name)) := by
      have stillOpened : after.closed = false := by
        rw [changed]
        exact opened
      have stillListed : after.catalog.tables.get? name = some table := by
        rw [changed]
        exact listed
      have deleted : again = _ := execute_delete stillOpened stillListed conditions
      rw [deleted, nothing, everything]
    cases executed
    refine ⟨rfl, left, ?_, by rw [repeated], ?_⟩
    · intro other different
      rw [changed, rows_setRows, if_neg different]
      rfl
    · rw [repeated]
      apply tables_setRows_self
      change after.tables.get? name = some (after.rows name)
      rw [left, changed, setRows, Keyed.get?_insert, if_pos rfl]
  · intro assignments touch answer done after
    rcases execute_eq_ok done with ⟨table, rewriting, _, _, executed, changed⟩
    have left : after.rows name = (memory.rows name).map (rewritten assignments touch conditions) :=
      (congrArg (Memory.rows · name) changed).trans
        ((rows_setRows _ _ _ _).trans ((if_pos rfl).trans (run_update_eq_ok executed).1))
    refine ⟨?_, ?_, ?_⟩
    · rw [left]
      exact forall₂_rewritten (memory.rows name)
    · rw [left, answer_run_update executed]
      exact written_eq (memory.rows name)
    · intro other different
      simp only [after, changed, rows_setRows]
      exact if_neg different

/-- Three rows, the second made at a time that the clock has not reached. -/
def rankedItems : Memory :=
  (ofCatalog .items).setRows "items"
    [.ofList [("id", .string "a"), ("rank", .ofNat 1)],
      .ofList [("id", .string "b"), ("rank", .ofNat 2),
        ("created_at", .string "2999-01-01T00:00:00.000Z")],
      .ofList [("id", .string "c"), ("rank", .ofNat 3)]]

/-- An update that takes its rows out of its own conditions. -/
def lowering : Statement :=
  .update "items" [("rank", ⟨.ofNat 0, .integer⟩)]
    (some ⟨"updated_at", ⟨.string "2024-05-01T00:00:00.000Z", .timestamp⟩, "created_at"⟩)
    [⟨"rank", ⟨.gte, false⟩, ⟨.ofNat 2, .integer⟩⟩]

/-- Both rows are lowered and stamped, the second of the table with its own time
of creation, and neither is lost for being lowered.  A delete of the same rows
finds them once. -/
theorem lowered_rows_stay :
    let scope : List Condition := [⟨"rank", ⟨.gte, false⟩, ⟨.ofNat 2, .integer⟩⟩]
    let raised := (rankedItems.execute lowering).2
    let pruned := (rankedItems.execute (.delete "items" scope)).2
    (∃ answer, (rankedItems.execute lowering).1 = .ok answer ∧
        answer.map (fun row => (row.get? "id", row.get? "updated_at")) =
          [(some (.string "b"), some (.string "2999-01-01T00:00:00.000Z")),
            (some (.string "c"), some (.string "2024-05-01T00:00:00.000Z"))] ∧
        (raised.rows "items").length = 3 ∧
        answer = (((rankedItems.rows "items").zip (raised.rows "items")).filter
          fun place => place.1.satisfies scope).map Prod.snd) ∧
      (∃ answer, (rankedItems.execute (.delete "items" scope)).1 = .ok answer) ∧
      (pruned.rows "items").length = 1 ∧ (pruned.execute (.delete "items" scope)).1 = .ok [] := by
  intro scope raised pruned
  rcases writes_touch_matching_rows rankedItems "items" scope with ⟨deletes, updates⟩
  have updated : ∃ answer, (rankedItems.execute lowering).1 = .ok answer ∧
      answer.map (fun row => (row.get? "id", row.get? "updated_at")) =
        [(some (.string "b"), some (.string "2999-01-01T00:00:00.000Z")),
          (some (.string "c"), some (.string "2024-05-01T00:00:00.000Z"))] :=
    ⟨_, rfl, by decide +kernel⟩
  have deleted : ∃ answer, (rankedItems.execute (.delete "items" scope)).1 = .ok answer :=
    ⟨_, rfl⟩
  rcases updated with ⟨answer, done, cells⟩
  rcases deleted with ⟨removed, gone⟩
  rcases updates _ _ answer done with ⟨places, returned, _⟩
  rcases deletes removed gone with ⟨_, left, _, nothing, _⟩
  refine ⟨⟨answer, done, cells, ?_, returned⟩, ⟨removed, gone⟩, ?_, nothing⟩
  · exact places.length_eq.symm
  · exact (congrArg List.length left).trans (by decide +kernel)

end Memory
end RowGate
