import RowGate.Proofs.Keyed
import RowGate.Proofs.Plan.Request

namespace RowGate

/-!
# Planned statements stay inside the catalog

Whatever is asked of the planner, a statement that it returns names a listed
table and, of that table, declared columns only; and what it binds for a column
is a value in the form that the column's type gives to values, under that type.
A choice of columns is never empty, and the columns that an update sets are at
least one and differ from each other.  The last point needs care where a stamp
replaces the time of change in the patch: either the patch holds the stamp like
any other cell, or the patch loses that cell and a touch carries it.

Nothing is said here about stores.  A store executes statements of other
origin too.
-/

/-! ## What a sound statement is -/

namespace Table

/-- A parameter has the type of a declared column, and its value is one that
the type has given to some value. -/
def Binds (table : Table) (column : String) (param : Param) : Prop :=
  ∃ declared, table.column? column = some declared ∧ param.type = declared.type ∧
    ∃ value, declared.type.coerce? value = some param.value

/-- Every column of a projection is declared; a list of them is not empty. -/
def AdmitsProjection (table : Table) : Projection → Prop
  | .all => True
  | .columns names => names ≠ [] ∧ ∀ name ∈ names, table.declares name = true

/-- Every condition compares a declared column with a value of its form. -/
def AdmitsConditions (table : Table) (conditions : List Condition) : Prop :=
  ∀ condition ∈ conditions, table.Binds condition.column condition.param

/-- Every assignment gives a declared column a value of its form. -/
def AdmitsValues (table : Table) (values : List (String × Param)) : Prop :=
  ∀ value ∈ values, table.Binds value.1 value.2

/-- A touch sets a declared column to a value of its form, above the value of a
declared column. -/
def AdmitsTouch (table : Table) (touch : Touch) : Prop :=
  table.Binds touch.column touch.param ∧ table.declares touch.floor = true

end Table

namespace Statement

/-- The columns that an update sets, those of its assignments first. -/
def setColumns (assignments : List (String × Param)) (touch : Option Touch) : List String :=
  assignments.map Prod.fst ++ (touch.map Touch.column).toList

/-- A statement stays inside the declaration of its table. -/
def Conforms (table : Table) : Statement → Prop
  | .select selection =>
      table.AdmitsProjection selection.projection ∧
        table.AdmitsConditions selection.conditions ∧
        ∀ order ∈ selection.order, table.declares order.column = true
  | .insert _ values => table.AdmitsValues values
  | .update _ assignments touch conditions =>
      table.AdmitsValues assignments ∧ (∀ stamp ∈ touch, table.AdmitsTouch stamp) ∧
        table.AdmitsConditions conditions ∧ setColumns assignments touch ≠ [] ∧
        (setColumns assignments touch).Nodup
  | .delete _ conditions => table.AdmitsConditions conditions

/-- A statement names a listed table and stays inside its declaration. -/
def Sound (catalog : Catalog) (statement : Statement) : Prop :=
  ∃ table, catalog.tables.get? statement.table = some table ∧ statement.Conforms table

end Statement

/-! ## Look-ups in the catalog -/

namespace Catalog

/-- A value that the catalog has brought into the form of a column may be bound
for it. -/
theorem binds_of_coerce {catalog : Catalog} {name column : String} {table : Table} {value : Json}
    {bound : Json × ColumnType} (listed : catalog.table name = .ok table)
    (coerced : catalog.coerce name column value = .ok bound) :
    table.Binds column ⟨bound.1, bound.2⟩ := by
  rcases Fallible.bind_eq_ok.mp coerced with ⟨declared, read, coerced⟩
  have found := column_eq_ok listed read
  cases stored : declared.type.coerce? value with
  | none => simp [stored] at coerced
  | some kept =>
      simp only [stored, Except.ok.injEq] at coerced
      subst coerced
      exact ⟨declared, found, rfl, value, stored⟩

end Catalog

/-! ## Parts of a statement -/

namespace Plan

variable {catalog : Catalog} {name : String} {declared : Table}

theorem admits_projection {select : String} {columns : Projection}
    (listed : catalog.table name = .ok declared)
    (planned : projection catalog name select = .ok columns) :
    declared.AdmitsProjection columns := by
  simp only [projection] at planned
  split at planned
  · cases planned
    exact trivial
  · next chosen =>
    rcases Fallible.map_eq_ok.mp planned with ⟨names, looked, rfl⟩
    have related := Fallible.mapM_eq_ok.mp looked
    constructor
    · intro empty
      subst empty
      exact chosen (.inl (List.forall₂_nil_right_iff.mp related))
    · intro column member
      rcases Fallible.exists_step_of_mem looked member with ⟨_, _, step⟩
      rcases Fallible.map_eq_ok.mp step with ⟨found, read, rfl⟩
      exact Catalog.declares_of_column listed read

/-- Predicates that are passed over leave no trace, so the induction is on the
predicates and not on the conditions. -/
theorem admits_conditions {predicates : List Predicate} {bound : List Condition}
    (listed : catalog.table name = .ok declared)
    (planned : conditions catalog name predicates = .ok bound) :
    declared.AdmitsConditions bound := by
  induction predicates generalizing bound with
  | nil =>
      cases planned
      intro condition member
      exact absurd member List.not_mem_nil
  | cons predicate rest inductionHypothesis =>
      simp only [conditions] at planned
      split at planned
      · exact inductionHypothesis planned
      · next operator _ =>
        rcases Fallible.bind_eq_ok.mp planned with ⟨value, coerced, planned⟩
        rcases Fallible.map_eq_ok.mp planned with ⟨others, later, rfl⟩
        intro condition member
        rcases List.mem_cons.mp member with rfl | member
        · exact Catalog.binds_of_coerce listed coerced
        · exact inductionHypothesis later condition member

theorem admits_scope {operation : String} {predicates : List Predicate} {bound : List Condition}
    (listed : catalog.table name = .ok declared)
    (planned : scope catalog name operation predicates = .ok bound) :
    declared.AdmitsConditions bound := by
  rcases Fallible.bind_eq_ok.mp planned with ⟨others, planned, kept⟩
  split at kept
  · cases kept
  · cases kept
    exact admits_conditions listed planned

theorem admits_sortOrder {order found : Option SortOrder}
    (listed : catalog.table name = .ok declared)
    (planned : sortOrder catalog name order = .ok found) :
    ∀ key ∈ found, declared.declares key.column = true := by
  intro key member
  cases order with
  | none =>
      cases planned
      cases member
  | some order =>
      rcases Fallible.map_eq_ok.mp planned with ⟨column, read, rfl⟩
      cases member
      exact Catalog.declares_of_column listed read

theorem admits_assignments {row : Row} {values : List (String × Param)}
    (listed : catalog.table name = .ok declared)
    (planned : assignments catalog name row = .ok values) : declared.AdmitsValues values := by
  intro value member
  rcases Fallible.exists_step_of_mem planned member with ⟨cell, _, step⟩
  rcases Fallible.map_eq_ok.mp step with ⟨bound, coerced, rfl⟩
  exact Catalog.binds_of_coerce listed coerced

/-- The cells of a row become assignments one by one, in their order. -/
theorem columns_assignments {row : Row} {values : List (String × Param)}
    (planned : assignments catalog name row = .ok values) :
    values.map Prod.fst = row.keys := by
  have related := Fallible.mapM_eq_ok.mp planned
  unfold Keyed.keys
  generalize row.entries = cells at related
  clear planned
  induction related with
  | nil => rfl
  | cons here _ inductionHypothesis =>
      rcases Fallible.map_eq_ok.mp here with ⟨bound, _, rfl⟩
      exact congrArg (_ :: ·) inductionHypothesis

/-! ## The stamp of an update -/

theorem contains_clampUpdated (row : Row) (key : String) :
    row.clampUpdated.contains key = row.contains key := by
  unfold Row.clampUpdated
  split
  · next updated _ found =>
    split
    · have present : row.contains SystemColumn.updatedAt = true := by
        unfold Row.instant? at found
        unfold Keyed.contains
        cases cell : row.get? SystemColumn.updatedAt with
        | none => simp [cell] at found
        | some _ => rfl
      rw [Keyed.contains_insert]
      by_cases here : key = SystemColumn.updatedAt
      · simp [here, present]
      · simp [here]
    · rfl
  · rfl

/-- What the stamp leaves to set.  Without a touch every column of the patch is
still there.  A touch is for the time of change, which the patch then lacks. -/
theorem stamped_spec {table : Table} {patch : Row} {stamp : Option String} {result : Stamped}
    (listed : catalog.table name = .ok table)
    (planned : stamped catalog name table patch stamp = .ok result) :
    (result.touch = none ∧ ∀ key, patch.contains key = true → result.patch.contains key = true) ∨
      ∃ touch, result.touch = some touch ∧ table.AdmitsTouch touch ∧
        result.patch.contains touch.column = false := by
  unfold stamped at planned
  split at planned
  · cases planned
    exact .inl ⟨rfl, fun _ present => present⟩
  · next instant =>
    split at planned
    · cases planned
      exact .inl ⟨rfl, fun _ present => present⟩
    · split at planned
      · next stored =>
        rcases Fallible.map_eq_ok.mp planned with ⟨bound, coerced, rfl⟩
        refine .inr ⟨_, rfl, ⟨Catalog.binds_of_coerce listed coerced, stored.1⟩, ?_⟩
        simp [Keyed.contains_erase]
      · cases planned
        refine .inl ⟨rfl, ?_⟩
        intro key present
        simp [Keyed.contains_insert, present]

/-- The columns that a stamped patch sets are at least one, and each is set
once. -/
theorem setColumns_stamped {table : Table} {patch : Row} {stamp : Option String}
    {result : Stamped} {values : List (String × Param)} (filled : patch.isEmpty = false)
    (listed : catalog.table name = .ok table)
    (planned : stamped catalog name table patch stamp = .ok result)
    (assigned : assignments catalog name result.patch.clampUpdated = .ok values) :
    Statement.setColumns values result.touch ≠ [] ∧
      (Statement.setColumns values result.touch).Nodup := by
  unfold Statement.setColumns
  rw [columns_assignments assigned]
  have distinct := result.patch.clampUpdated.nodup_keys
  rcases stamped_spec listed planned with ⟨untouched, kept⟩ | ⟨touch, touched, _, absent⟩
  · rcases Keyed.exists_contains_of_not_isEmpty filled with ⟨key, present⟩
    have member : key ∈ result.patch.clampUpdated.keys := by
      rw [Keyed.mem_keys_iff, contains_clampUpdated]
      exact kept key present
    simp only [untouched, Option.map_none, Option.toList_none, List.append_nil]
    exact ⟨List.ne_nil_of_mem member, distinct⟩
  · have missing : touch.column ∉ result.patch.clampUpdated.keys := by
      rw [Keyed.mem_keys_iff, contains_clampUpdated, absent]
      exact Bool.false_ne_true
    simp only [touched, Option.map_some, Option.toList_some]
    refine ⟨by simp, List.nodup_append.mpr ⟨distinct, List.pairwise_singleton _ _, ?_⟩⟩
    intro key member other same equal
    rw [List.mem_singleton.mp same] at equal
    exact missing (equal ▸ member)

/-! ## Statements -/

theorem sound_select {request : ReadRequest} {statement : Statement}
    (planned : Plan.select catalog request = .ok statement) : statement.Sound catalog := by
  rcases Fallible.bind_eq_ok.mp planned with ⟨table, read, planned⟩
  rcases Fallible.bind_eq_ok.mp planned with ⟨columns, projected, planned⟩
  rcases Fallible.bind_eq_ok.mp planned with ⟨bound, conditioned, planned⟩
  rcases Fallible.bind_eq_ok.mp planned with ⟨order, ordered, planned⟩
  cases planned
  rcases table_eq_ok.mp read with ⟨_, _, declared, listed⟩
  exact ⟨declared, Catalog.table_eq_ok.mp listed, admits_projection listed projected,
    admits_conditions listed conditioned, admits_sortOrder listed ordered⟩

theorem sound_insert {row : Row} {statement : Statement}
    (planned : Plan.insert catalog name row = .ok statement) : statement.Sound catalog := by
  rcases Fallible.bind_eq_ok.mp planned with ⟨table, read, planned⟩
  rcases Fallible.bind_eq_ok.mp planned with ⟨values, assigned, planned⟩
  cases planned
  rcases table_eq_ok.mp read with ⟨_, _, declared, listed⟩
  exact ⟨declared, Catalog.table_eq_ok.mp listed, admits_assignments listed assigned⟩

theorem sound_delete {predicates : List Predicate} {statement : Statement}
    (planned : Plan.delete catalog name predicates = .ok statement) : statement.Sound catalog := by
  rcases Fallible.bind_eq_ok.mp planned with ⟨table, read, planned⟩
  rcases Fallible.bind_eq_ok.mp planned with ⟨bound, conditioned, planned⟩
  cases planned
  rcases table_eq_ok.mp read with ⟨_, _, declared, listed⟩
  exact ⟨declared, Catalog.table_eq_ok.mp listed, admits_scope listed conditioned⟩

theorem sound_update {predicates : List Predicate} {patch : Row} {stamp : Option String}
    {statement : Statement}
    (planned : Plan.update catalog name predicates patch stamp = .ok statement) :
    statement.Sound catalog := by
  rcases update_eq_ok planned with
    ⟨table, declared, bound, result, values, _, listed, conditioned, filled, stamps, assigned, rfl⟩
  refine ⟨declared, Catalog.table_eq_ok.mp listed, admits_assignments listed assigned, ?_,
    admits_scope listed conditioned, setColumns_stamped filled listed stamps assigned⟩
  intro touch member
  rcases stamped_spec listed stamps with ⟨untouched, _⟩ | ⟨other, touched, admitted, _⟩
  · rw [untouched] at member
    cases member
  · rw [touched] at member
    cases member
    exact admitted

/-- Whatever is asked of the planner, every statement that it returns names a
listed table and declared columns, binds values in the form of their columns,
and, if it is an update, sets at least one column and none twice. -/
theorem planned_statement_sound {catalog : Catalog} {request : Request} {statement : Statement}
    (planned : request.plan catalog = .ok statement) : statement.Sound catalog := by
  cases request with
  | read request => exact sound_select planned
  | insert table row => exact sound_insert planned
  | update table predicates patch stamp => exact sound_update planned
  | delete table predicates => exact sound_delete planned

/-- A patch that names only the time of change: the stamp takes its place, and
the touch is all that is set. -/
theorem sound_of_lone_time_of_change :
    (Request.update " items" [⟨"rank", "like", .string "7"⟩, ⟨"rank", "gte", .string "7"⟩]
        (Keyed.empty.insert "updated_at" (.string "2001-01-01"))
        (some "2024-05-01T00:00:00.000Z")).plan .items =
      .ok (.update "items" []
        (some ⟨"updated_at", ⟨.string "2024-05-01T00:00:00.000Z", .timestamp⟩, "created_at"⟩)
        [⟨"rank", ⟨.gte, false⟩, ⟨Json.ofNat 7, .integer⟩⟩]) ∧
    (Statement.update "items" []
        (some ⟨"updated_at", ⟨.string "2024-05-01T00:00:00.000Z", .timestamp⟩, "created_at"⟩)
        [⟨"rank", ⟨.gte, false⟩, ⟨Json.ofNat 7, .integer⟩⟩]).Sound .items := by
  have planned : (Request.update " items"
      [⟨"rank", "like", .string "7"⟩, ⟨"rank", "gte", .string "7"⟩]
      (Keyed.empty.insert "updated_at" (.string "2001-01-01"))
      (some "2024-05-01T00:00:00.000Z")).plan .items =
    .ok (.update "items" []
      (some ⟨"updated_at", ⟨.string "2024-05-01T00:00:00.000Z", .timestamp⟩, "created_at"⟩)
      [⟨"rank", ⟨.gte, false⟩, ⟨Json.ofNat 7, .integer⟩⟩]) := by
    decide +kernel
  exact ⟨planned, planned_statement_sound planned⟩

end Plan
end RowGate
