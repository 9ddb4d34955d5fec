import RowGate.Proofs.Plan.Scope
import RowGate.Proofs.Plan.Soundness
import RowGate.Proofs.Plan.Stamps

namespace RowGate

/-!
# What the planner accepts

A row is planned if and only if its table takes each of its cells, that is, declares
the column and can bring the value into the form of its type.  Which cells these
are is decided after the times of the row were compared, and for an update after
the stamp was applied.  In the same way predicates are planned if and only if the
table takes the operand of each one that is recognized.  A list of columns is
planned if and only if they are declared, or if there is a star among them.
-/

namespace Table

/-- The table declares the column and can store the value in it. -/
def Takes (table : Table) (key : String) (value : Json) : Prop :=
  ∃ column, table.column? key = some column ∧ ∃ stored, column.type.coerce? value = some stored

/-- The table takes every cell of the row. -/
def TakesRow (table : Table) (row : Row) : Prop :=
  ∀ key value, row.get? key = some value → table.Takes key value

theorem takesRow_insert_iff {table : Table} {row : Row} {key : String}
    (omitted : row.contains key = false) (value : Json) :
    table.TakesRow (row.insert key value) ↔ table.TakesRow row ∧ table.Takes key value := by
  have missing := Keyed.contains_eq_false_iff.mp omitted
  constructor
  · intro taken
    refine ⟨fun other cell found => taken other cell ?_, taken key value ?_⟩
    · have different : other ≠ key := by
        rintro rfl
        cases missing.symm.trans found
      rw [Keyed.get?_insert, if_neg different, found]
    · rw [Keyed.get?_insert, if_pos rfl]
  · rintro ⟨others, here⟩ other cell found
    rw [Keyed.get?_insert] at found
    split at found
    · next same =>
      cases found
      exact same ▸ here
    · exact others other cell found

theorem takes_null {table : Table} {key : String} (declared : table.declares key = true) :
    table.Takes key .null := by
  rcases Option.isSome_iff_exists.mp declared with ⟨column, found⟩
  exact ⟨column, found, .null, column.type.coerce?_null⟩

end Table

namespace Catalog

variable {catalog : Catalog} {name : String} {table : Table}

theorem column_of_column? {key : String} {column : Column} (listed : catalog.table name = .ok table)
    (found : table.column? key = some column) : catalog.column name key = .ok column := by
  unfold Catalog.column
  simp only [listed, Except.bind, found]

theorem exists_column_iff (listed : catalog.table name = .ok table) (key : String) :
    (∃ column, catalog.column name key = .ok column) ↔ table.declares key = true := by
  constructor
  · rintro ⟨column, read⟩
    exact declares_of_column listed read
  · intro declared
    rcases Option.isSome_iff_exists.mp declared with ⟨column, found⟩
    exact ⟨column, column_of_column? listed found⟩

theorem exists_coerce_iff (listed : catalog.table name = .ok table) (key : String)
    (value : Json) :
    (∃ bound, catalog.coerce name key value = .ok bound) ↔ table.Takes key value := by
  constructor
  · rintro ⟨bound, coerced⟩
    rcases Fallible.bind_eq_ok.mp coerced with ⟨column, read, _⟩
    have found := column_eq_ok listed read
    exact ⟨column, found, bound.1, Plan.coerce?_of_coerce listed found coerced⟩
  · rintro ⟨column, found, stored, fits⟩
    refine ⟨(stored, column.type), Fallible.bind_eq_ok.mpr ?_⟩
    exact ⟨column, column_of_column? listed found, by rw [fits]⟩

end Catalog

namespace Plan

variable {catalog : Catalog} {name : String} {table : Table}

theorem table_of_declaration (known : declaration catalog name = .ok table) :
    Plan.table catalog name = .ok (Text.trim name) ∧ catalog.table (Text.trim name) = .ok table := by
  rcases Fallible.bind_eq_ok.mp known with ⟨found, named, listed⟩
  rcases table_eq_ok.mp named with ⟨rfl, _⟩
  exact ⟨named, listed⟩

theorem exists_assignments_iff {row : Row} (listed : catalog.table name = .ok table) :
    (∃ values, assignments catalog name row = .ok values) ↔ table.TakesRow row := by
  unfold assignments Table.TakesRow
  rw [Fallible.exists_mapM_eq_ok_iff, Prod.forall]
  refine forall₂_congr fun key value => ?_
  rw [Keyed.mem_entries_iff, ← Catalog.exists_coerce_iff listed]
  refine imp_congr_right fun _ => ?_
  constructor
  · rintro ⟨param, step⟩
    rcases Fallible.map_eq_ok.mp step with ⟨bound, coerced, _⟩
    exact ⟨bound, coerced⟩
  · rintro ⟨bound, coerced⟩
    exact ⟨_, Fallible.map_eq_ok.mpr ⟨bound, coerced, rfl⟩⟩

/-- A star among the names hides all others. -/
theorem exists_projection_iff {select : String} (listed : catalog.table name = .ok table) :
    (∃ columns, projection catalog name select = .ok columns) ↔
      "*" ∈ columnNames select ∨ ∀ column ∈ columnNames select, table.declares column = true := by
  unfold projection
  dsimp only
  split
  · next all =>
    simp only [Except.ok.injEq, exists_eq', true_iff]
    rcases all with none | star
    · exact .inr (by simp [none])
    · exact .inl star
  · next chosen =>
    rw [or_iff_right (not_or.mp chosen).2, Fallible.exists_map_eq_ok_iff,
      Fallible.exists_mapM_eq_ok_iff]
    refine forall₂_congr fun column _ => ?_
    rw [Fallible.exists_map_eq_ok_iff, Catalog.exists_column_iff listed]

theorem exists_conditions_iff {predicates : List Predicate}
    (listed : catalog.table name = .ok table) :
    (∃ bound, conditions catalog name predicates = .ok bound) ↔
      ∀ predicate ∈ predicates, predicate.isRecognized = true →
        table.Takes predicate.column predicate.value := by
  induction predicates with
  | nil => simp [conditions]
  | cons predicate rest inductionHypothesis =>
      rw [List.forall_mem_cons, ← inductionHypothesis]
      cases known : predicate.operator? with
      | none => simp [conditions, known, Predicate.isRecognized]
      | some operator =>
          have recognized : predicate.isRecognized = true := by
            simp [Predicate.isRecognized, known]
          rw [forall_prop_of_true recognized, ← Catalog.exists_coerce_iff listed]
          simp only [conditions, known, Fallible.bind_eq_ok, Fallible.map_eq_ok]
          constructor
          · rintro ⟨_, bound, coerced, others, later, _⟩
            exact ⟨⟨bound, coerced⟩, others, later⟩
          · rintro ⟨⟨bound, coerced⟩, others, later⟩
            exact ⟨_, bound, coerced, others, later, rfl⟩

theorem exists_sortOrder_iff {order : Option SortOrder} (listed : catalog.table name = .ok table) :
    (∃ sorted, sortOrder catalog name order = .ok sorted) ↔
      ∀ key, order = some key → table.declares key.column = true := by
  cases order with
  | none => simp [sortOrder]
  | some key =>
      simp only [sortOrder, Option.some.injEq, forall_eq', Fallible.exists_map_eq_ok_iff,
        Catalog.exists_column_iff listed]

/-- A write is refused for want of a condition only where no predicate is
recognized. -/
theorem exists_conditions_of_scope {operation : String} {predicates : List Predicate}
    {bound : List Condition} (planned : scope catalog name operation predicates = .ok bound) :
    ∃ bound, conditions catalog name predicates = .ok bound := by
  rcases Fallible.bind_eq_ok.mp planned with ⟨others, conditioned, _⟩
  exact ⟨others, conditioned⟩

theorem exists_select_iff {request : ReadRequest}
    (known : declaration catalog request.table = .ok table) :
    (∃ statement, Plan.select catalog request = .ok statement) ↔
      ("*" ∈ columnNames request.select ∨
        ∀ column ∈ columnNames request.select, table.declares column = true) ∧
      (∀ predicate ∈ request.predicates, predicate.isRecognized = true →
        table.Takes predicate.column predicate.value) ∧
      ∀ key, request.order = some key → table.declares key.column = true := by
  rcases table_of_declaration known with ⟨named, listed⟩
  rw [← exists_projection_iff listed, ← exists_conditions_iff listed, ← exists_sortOrder_iff listed]
  constructor
  · rintro ⟨statement, planned⟩
    rcases Fallible.bind_eq_ok.mp planned with ⟨_, again, planned⟩
    cases named.symm.trans again
    rcases Fallible.bind_eq_ok.mp planned with ⟨columns, projected, planned⟩
    rcases Fallible.bind_eq_ok.mp planned with ⟨bound, conditioned, planned⟩
    rcases Fallible.bind_eq_ok.mp planned with ⟨order, sorted, _⟩
    exact ⟨⟨columns, projected⟩, ⟨bound, conditioned⟩, order, sorted⟩
  · rintro ⟨⟨columns, projected⟩, ⟨bound, conditioned⟩, order, sorted⟩
    exact ⟨_, Fallible.bind_eq_ok.mpr ⟨_, named, Fallible.bind_eq_ok.mpr ⟨columns, projected,
      Fallible.bind_eq_ok.mpr ⟨bound, conditioned, Fallible.bind_eq_ok.mpr ⟨order, sorted, rfl⟩⟩⟩⟩⟩

theorem exists_insert_iff {row : Row} (known : declaration catalog name = .ok table) :
    (∃ statement, Plan.insert catalog name row = .ok statement) ↔
      table.TakesRow row.clampUpdated := by
  rcases table_of_declaration known with ⟨named, listed⟩
  rw [← exists_assignments_iff listed]
  constructor
  · rintro ⟨statement, planned⟩
    rcases Fallible.bind_eq_ok.mp planned with ⟨_, again, planned⟩
    cases named.symm.trans again
    rcases Fallible.bind_eq_ok.mp planned with ⟨values, assigned, _⟩
    exact ⟨values, assigned⟩
  · rintro ⟨values, assigned⟩
    exact ⟨_, Fallible.bind_eq_ok.mpr ⟨_, named, Fallible.bind_eq_ok.mpr ⟨values, assigned, rfl⟩⟩⟩

theorem exists_update_iff {predicates : List Predicate} {patch : Row} {stamp : Option String}
    (known : declaration catalog name = .ok table) :
    (∃ statement, Plan.update catalog name predicates patch stamp = .ok statement) ↔
      (∃ bound, scope catalog (Text.trim name) "update" predicates = .ok bound) ∧
        patch.isEmpty = false ∧
        ∃ result, stamped catalog (Text.trim name) table patch stamp = .ok result ∧
          table.TakesRow result.patch.clampUpdated := by
  rcases table_of_declaration known with ⟨named, listed⟩
  simp only [← exists_assignments_iff listed]
  constructor
  · rintro ⟨statement, planned⟩
    rcases update_eq_ok planned with
      ⟨_, _, bound, result, values, again, same, scope, filled, stamps, assigned, _⟩
    cases named.symm.trans again
    cases listed.symm.trans same
    exact ⟨⟨bound, scope⟩, filled, result, stamps, values, assigned⟩
  · rintro ⟨⟨bound, scope⟩, filled, result, stamps, values, assigned⟩
    refine ⟨.update (Text.trim name) values result.touch bound, ?_⟩
    simp [Plan.update, named, scope, filled, listed, stamps, assigned, Bind.bind, Except.bind]

end Plan
end RowGate
