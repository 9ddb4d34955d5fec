import RowGate.Proofs.Plan.Acceptance
import RowGate.Proofs.Schema.StoredTimes

namespace RowGate

/-!
# Requests that are rejected

A request is flawed if it names a column that its table does not declare, or brings
a value that the column cannot store.  One flaw is enough: a flawed request is not
planned, whatever else it asks for.

Two parts of a request are passed over and cannot be flawed.  A predicate whose
operator is not recognized is dropped.  The time of change in a patch gives way to
the stamp of the update, if there is one and the table declares the column.  Of a
list of columns this is said only where no star is in it.

The times of a row are compared before its cells are looked at.  This hides no flaw:
the time of change that is raised was a time already, and every type that stores the
text of one instant stores each text that is read as an instant.
-/

/-! ## Cells that are refused -/

/-- The table does not declare the column, or its type has no form for the value. -/
inductive Table.Refuses (table : Table) (key : String) (value : Json) : Prop where
  | undeclared (missing : table.declares key = false) : table.Refuses key value
  | unfit {column : Column} (found : table.column? key = some column)
      (formless : column.type.coerce? value = none) : table.Refuses key value

theorem Table.Refuses.not_takes {table : Table} {key : String} {value : Json}
    (refused : table.Refuses key value) : ¬ table.Takes key value := by
  rintro ⟨column, found, stored, coerced⟩
  cases refused with
  | undeclared missing => simp [declares, found] at missing
  | unfit other formless =>
      cases found.symm.trans other
      cases formless.symm.trans coerced

/-- A type that stores the text of an instant stores every text of an instant. -/
theorem ColumnType.exists_coerce?_of_read {type : ColumnType} {s : String}
    {given raised : Time.Instant} {stored : Json} (read : Time.read? s = some given)
    (coerced : type.coerce? (.string raised.text) = some stored) :
    ∃ stored, type.coerce? (.string s) = some stored := by
  rw [coerce?_text] at coerced
  split at coerced
  · next stores =>
    rcases stores with rfl | rfl | ⟨rfl, _⟩
    · exact ⟨.string s, by rw [coerce?]⟩
    · exact ⟨.string s, coerce?_json _⟩
    · exact ⟨.string given.text, by rw [coerce?, read, Option.map_some]⟩
  · cases coerced

/-- A table that takes a row whose times were compared takes the row itself. -/
theorem Table.takesRow_of_clampUpdated {table : Table} {row : Row}
    (taken : table.TakesRow row.clampUpdated) : table.TakesRow row := by
  by_cases inOrder : row.InOrder
  · rwa [Row.clampUpdated_eq_self inOrder] at taken
  intro key value found
  by_cases change : key = SystemColumn.updatedAt
  · subst change
    rcases Row.clampUpdated_of_not_inOrder inOrder with ⟨start, given, _, read, raised⟩
    rw [raised] at taken
    rcases taken SystemColumn.updatedAt (.string start.text)
      (by rw [Keyed.get?_insert, if_pos rfl]) with ⟨column, declared, stored, coerced⟩
    rw [Row.instant?, found, Option.bind_some] at read
    rcases Option.bind_eq_some_iff.mp read with ⟨s, text, read⟩
    cases value with
    | string s' =>
        cases text
        exact ⟨column, declared, ColumnType.exists_coerce?_of_read read coerced⟩
    | null | bool b | number n | array items | object members => cases text
  · apply taken key value
    rw [row.get?_clampUpdated change, found]

namespace Plan

/-! ## Flaws of a request -/

namespace Request

/-- The table that a request names. -/
def target : Request → String
  | .read request => request.table
  | .insert name _ => name
  | .update name _ _ _ => name
  | .delete name _ => name

/-- The predicates of a request. -/
def predicates : Request → List Predicate
  | .read request => request.predicates
  | .insert _ _ => []
  | .update _ predicates _ _ => predicates
  | .delete _ predicates => predicates

/-- What a request for a table may not contain. -/
inductive Flawed (table : Table) : Request → Prop where
  | selected {request : ReadRequest} {column : String} (starless : "*" ∉ columnNames request.select)
      (named : column ∈ columnNames request.select) (undeclared : table.declares column = false) :
      Flawed table (.read request)
  | sorted {request : ReadRequest} {key : SortOrder} (given : request.order = some key)
      (undeclared : table.declares key.column = false) : Flawed table (.read request)
  | filtered {request : Request} {predicate : Predicate} (member : predicate ∈ request.predicates)
      (recognized : predicate.isRecognized = true)
      (refused : table.Refuses predicate.column predicate.value) : Flawed table request
  | inserted {name key : String} {row : Row} {value : Json} (found : row.get? key = some value)
      (refused : table.Refuses key value) : Flawed table (.insert name row)
  /-- The stamp takes the place of the time of change before its value is looked
  at. -/
  | patched {name key : String} {predicates : List Predicate} {patch : Row}
      {stamp : Option String} {value : Json} (found : patch.get? key = some value)
      (refused : table.Refuses key value)
      (kept : key = SystemColumn.updatedAt → table.declares SystemColumn.updatedAt = true →
        stamp = none) : Flawed table (.update name predicates patch stamp)

end Request

variable {catalog : Catalog} {name : String} {table : Table}

/-! ## Plans without a flaw -/

/-- Apart from the time of change a stamp leaves the cells of a patch alone. -/
theorem get?_stamped {patch : Row} {stamp : Option String} {result : Stamped} {key : String}
    (planned : stamped catalog name table patch stamp = .ok result)
    (kept : key = SystemColumn.updatedAt → table.declares SystemColumn.updatedAt = true →
      stamp = none) : result.patch.get? key = patch.get? key := by
  unfold stamped at planned
  split at planned
  · cases planned
    rfl
  · next stamp =>
    split at planned
    · cases planned
      rfl
    · next changes =>
      have other : key ≠ SystemColumn.updatedAt := by
        intro change
        cases kept change (not_not.mp changes)
      split at planned
      · rcases Fallible.map_eq_ok.mp planned with ⟨bound, _, rfl⟩
        rw [Keyed.get?_erase, if_neg other]
      · cases planned
        rw [Keyed.get?_insert, if_neg other]

theorem exists_declaration_of_plan {request : Request} {statement : Statement}
    (planned : request.plan catalog = .ok statement) :
    ∃ table, declaration catalog request.target = .ok table := by
  have known : ∃ name, Plan.table catalog request.target = .ok name := by
    cases request with
    | read request | insert name row | update name predicates patch stamp | delete name predicates =>
        rcases Fallible.bind_eq_ok.mp planned with ⟨name, named, _⟩
        exact ⟨name, named⟩
  rcases known with ⟨name, named⟩
  rcases table_eq_ok.mp named with ⟨_, _, table, listed⟩
  exact ⟨table, Fallible.bind_eq_ok.mpr ⟨name, named, listed⟩⟩

theorem takes_of_plan {request : Request} {statement : Statement}
    (known : declaration catalog request.target = .ok table)
    (planned : request.plan catalog = .ok statement) :
    ∀ predicate ∈ request.predicates, predicate.isRecognized = true →
      table.Takes predicate.column predicate.value := by
  have listed := (table_of_declaration known).2
  cases request with
  | read request => exact ((exists_select_iff known).mp ⟨statement, planned⟩).2.1
  | insert name row =>
      intro predicate member
      cases member
  | update name predicates patch stamp =>
      rcases ((exists_update_iff known).mp ⟨statement, planned⟩).1 with ⟨bound, conditioned⟩
      exact (exists_conditions_iff listed).mp (exists_conditions_of_scope conditioned)
  | delete name predicates =>
      rcases Fallible.bind_eq_ok.mp planned with ⟨_, named, planned⟩
      cases (table_of_declaration known).1.symm.trans named
      rcases Fallible.bind_eq_ok.mp planned with ⟨bound, conditioned, _⟩
      exact (exists_conditions_iff listed).mp (exists_conditions_of_scope conditioned)

theorem not_flawed_of_plan {request : Request} {statement : Statement}
    (known : declaration catalog request.target = .ok table)
    (planned : request.plan catalog = .ok statement) : ¬ request.Flawed table := by
  intro flawed
  cases flawed with
  | selected starless named undeclared =>
      have declared := ((exists_select_iff known).mp ⟨statement, planned⟩).1.resolve_left starless
      cases undeclared.symm.trans (declared _ named)
  | sorted given undeclared =>
      have declared := ((exists_select_iff known).mp ⟨statement, planned⟩).2.2
      cases undeclared.symm.trans (declared _ given)
  | filtered member recognized refused =>
      exact refused.not_takes (takes_of_plan known planned _ member recognized)
  | inserted found refused =>
      have taken := (exists_insert_iff known).mp ⟨statement, planned⟩
      exact refused.not_takes (Table.takesRow_of_clampUpdated taken _ _ found)
  | patched found refused kept =>
      rcases (exists_update_iff known).mp ⟨statement, planned⟩ with ⟨_, _, result, stamps, taken⟩
      rw [← get?_stamped stamps kept] at found
      exact refused.not_takes (Table.takesRow_of_clampUpdated taken _ _ found)

/-! ## The main statement -/

/-- A flawed request is not planned. -/
theorem flawed_request_rejected (catalog : Catalog) (request : Request)
    (flawed : ∀ table, declaration catalog request.target = .ok table → request.Flawed table) :
    ∃ failure, request.plan catalog = .error failure := by
  cases planned : request.plan catalog with
  | error failure => exact ⟨failure, rfl⟩
  | ok statement =>
      rcases exists_declaration_of_plan planned with ⟨table, known⟩
      exact absurd (flawed table known) (not_flawed_of_plan known planned)

/-- A column that is not declared is reported even if its cell is null.  The time of
change beside it, which is no time, gives way to the stamp. -/
theorem undeclared_null_rejected :
    let request : Request := .update " items " [⟨"rank", "gte", .string "2"⟩]
      (.ofList [("colour", .null), ("updated_at", .ofNat 5)]) (some "2024-05-01T00:00:00.000Z")
    (∀ table, declaration .items request.target = .ok table → request.Flawed table) ∧
      ∃ failure, request.plan .items = .error failure := by
  intro request
  have found : (Keyed.ofList [("colour", Json.null), ("updated_at", .ofNat 5)]).get? "colour" =
      some .null := rfl
  have known : ∃ table, declaration .items " items " = .ok table ∧ request.Flawed table := by
    refine ⟨_, rfl, ?_⟩
    exact .patched found (.undeclared rfl) fun change => absurd change (by decide)
  rcases known with ⟨table, known, flaw⟩
  have flawed : ∀ table, declaration .items request.target = .ok table → request.Flawed table := by
    intro other again
    cases known.symm.trans again
    exact flaw
  exact ⟨flawed, flawed_request_rejected .items request flawed⟩

/-- A name that is not declared is passed over beside a star, and a time of change
that is no time is passed over where the update is stamped. -/
theorem star_and_stamp_hide_flaws :
    let starred : Request := .read { ReadRequest.ofTable "items" with select := "colour, *" }
    let stamped : Request := .update "items" [⟨"rank", "gte", .string "2"⟩]
      (.ofList [("updated_at", .ofNat 5)]) (some "2024-05-01T00:00:00.000Z")
    ∃ table, declaration .items "items" = .ok table ∧
      ("colour" ∈ columnNames "colour, *" ∧ table.declares "colour" = false ∧
        ∃ statement, starred.plan .items = .ok statement) ∧
      (∃ column, table.column? "updated_at" = some column ∧
        column.type.coerce? (.ofNat 5) = none) ∧
      ∃ statement, stamped.plan .items = .ok statement := by
  intro starred stamped
  refine ⟨_, rfl, ⟨?_, rfl, _, rfl⟩, ⟨_, rfl, rfl⟩, _, rfl⟩
  decide +kernel

end Plan
end RowGate
