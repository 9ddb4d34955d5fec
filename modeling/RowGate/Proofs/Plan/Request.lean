import RowGate.Proofs.Fallible
import RowGate.Proofs.Query.Grammar
import RowGate.Query.Plan

namespace RowGate

/-!
# Requests to the planner

The four things that can be asked of the planner as one type, and what a
successful plan consists of: the look-ups that succeeded and the parts of the
statement that they gave.  A read by equality is planned as one condition.
-/

namespace Plan

/-- What the planner can be asked for. -/
inductive Request where
  | read (request : ReadRequest)
  | insert (table : String) (row : Row)
  | update (table : String) (predicates : List Predicate) (patch : Row) (stamp : Option String)
  | delete (table : String) (predicates : List Predicate)

/-- The statement of a request, or the first failure. -/
def Request.plan (catalog : Catalog) : Request → Except Failure Statement
  | .read request => Plan.select catalog request
  | .insert table row => Plan.insert catalog table row
  | .update table predicates patch stamp => Plan.update catalog table predicates patch stamp
  | .delete table predicates => Plan.delete catalog table predicates

end Plan

/-- A catalog with one table, which declares a key, a rank and both times.
Closed instances of general statements are taken over it. -/
def Catalog.items : Catalog :=
  Catalog.empty.insertTable "items"
    ⟨[⟨"id", .text, false⟩, ⟨"rank", .integer, true⟩, ⟨"created_at", .timestamp, true⟩,
      ⟨"updated_at", .timestamp, true⟩]⟩

/-! ## Look-ups in the catalog -/

namespace Catalog

theorem table_eq_ok {catalog : Catalog} {name : String} {table : Table} :
    catalog.table name = .ok table ↔ catalog.tables.get? name = some table := by
  unfold Catalog.table
  cases catalog.tables.get? name <;> simp

theorem column_eq_ok {catalog : Catalog} {name column : String} {table : Table} {found : Column}
    (listed : catalog.table name = .ok table) (read : catalog.column name column = .ok found) :
    table.column? column = some found := by
  rcases Fallible.bind_eq_ok.mp read with ⟨other, same, read⟩
  cases listed.symm.trans same
  cases declared : table.column? column with
  | none => simp [declared] at read
  | some _ => simpa [declared] using read

theorem declares_of_column {catalog : Catalog} {name column : String} {table : Table}
    {found : Column} (listed : catalog.table name = .ok table)
    (read : catalog.column name column = .ok found) : table.declares column = true := by
  simp [Table.declares, column_eq_ok listed read]

end Catalog

/-! ## Steps of a plan -/

namespace Plan

variable {catalog : Catalog} {name : String}

/-- A request may target a table that is listed under the name without blanks
at its ends, unless nothing is left of the name. -/
theorem table_eq_ok {table : String} :
    Plan.table catalog name = .ok table ↔
      Text.trim name = table ∧ table ≠ "" ∧ ∃ declared, catalog.table table = .ok declared := by
  unfold Plan.table
  by_cases blank : Text.trim name = ""
  · simp only [blank, if_true, reduceCtorEq, false_iff, not_and]
    intro empty filled
    exact absurd empty.symm filled
  · simp only [if_neg blank, Fallible.map_eq_ok]
    constructor
    · rintro ⟨found, listed, rfl⟩
      exact ⟨rfl, blank, found, listed⟩
    · rintro ⟨rfl, _, found, listed⟩
      exact ⟨found, listed, rfl⟩

/-- The steps of an update that is planned. -/
theorem update_eq_ok {predicates : List Predicate} {patch : Row} {stamp : Option String}
    {statement : Statement}
    (planned : Plan.update catalog name predicates patch stamp = .ok statement) :
    ∃ table declared bound result values,
      Plan.table catalog name = .ok table ∧ catalog.table table = .ok declared ∧
      scope catalog table "update" predicates = .ok bound ∧ patch.isEmpty = false ∧
      stamped catalog table declared patch stamp = .ok result ∧
      assignments catalog table result.patch.clampUpdated = .ok values ∧
      statement = .update table values result.touch bound := by
  rcases Fallible.bind_eq_ok.mp planned with ⟨table, read, planned⟩
  rcases Fallible.bind_eq_ok.mp planned with ⟨bound, conditioned, planned⟩
  cases empty : patch.isEmpty with
  | true =>
      simp only [empty, if_true] at planned
      cases planned
  | false =>
      simp only [empty, Bool.false_eq_true, if_false] at planned
      rcases Fallible.bind_eq_ok.mp planned with ⟨declared, listed, planned⟩
      rcases Fallible.bind_eq_ok.mp planned with ⟨result, stamps, planned⟩
      rcases Fallible.bind_eq_ok.mp planned with ⟨values, assigned, planned⟩
      cases planned
      exact ⟨table, declared, bound, result, values, read, listed, conditioned, rfl, stamps,
        assigned, rfl⟩

/-! ## Reads by equality -/

/-- The read of the rows of a table that equal a value in a column. -/
def equalRequest (name column : String) (value : Json) (limit : Option Nat) : ReadRequest where
  table := name
  select := "*"
  predicates := [⟨column, Comparison.eq.word, value⟩]
  order := none
  limit := limit
  counting := false

/-- What such a read is planned as. -/
def equalSelection (table column : String) (bound : Json × ColumnType) (limit : Option Nat) :
    Selection where
  table := table
  projection := .all
  conditions := [⟨column, ⟨.eq, false⟩, ⟨bound.1, bound.2⟩⟩]
  order := none
  limit := limit
  counting := false

theorem projection_star (catalog : Catalog) (table : String) :
    Plan.projection catalog table "*" = .ok .all := by
  have star : Plan.columnNames "*" = ["*"] := by decide +kernel
  simp [Plan.projection, star]

theorem select_equal (catalog : Catalog) (name column : String) (value : Json)
    (limit : Option Nat) :
    Plan.select catalog (equalRequest name column value limit) =
      (Plan.table catalog name).bind fun table =>
        (catalog.coerce table column value).map fun bound =>
          .select (equalSelection table column bound limit) := by
  have recognized := Predicate.operator?_equal column value
  cases named : Plan.table catalog name with
  | error failure => simp [Plan.select, equalRequest, named, Bind.bind, Except.bind]
  | ok table =>
      cases bound : catalog.coerce table column value with
      | error failure =>
          simp [Plan.select, equalRequest, named, projection_star, Plan.conditions, recognized,
            bound, Bind.bind, Except.bind, Except.map]
      | ok stored =>
          simp [Plan.select, equalRequest, named, projection_star, Plan.conditions, recognized,
            bound, Plan.sortOrder, equalSelection, Bind.bind, Except.bind, Except.map]

end Plan
end RowGate
