import RowGate.Proofs.Fallible
import RowGate.Proofs.Keyed
import RowGate.Store.Memory

namespace RowGate

/-!
# What a statement comes to

Inserted rows stand at the end of their table.  A statement that fails changes no
table; it is counted unless the store is closed, and the store never blames it on a
value of the wrong type, so such a failure always stems from the planner.  A read
returns the rows that satisfy its conditions.
-/

namespace StoreError

/-- The failure is one of execution, which is not blamed on the type of a
value. -/
def IsExecution (error : StoreError) : Prop :=
  ∃ message, error.toFailure = .execution message

theorem IsExecution.isValidation {error : StoreError} (execution : error.IsExecution) :
    error.toFailure.isValidation = false := by
  rcases execution with ⟨message, failure⟩
  rw [failure]
  rfl

end StoreError

namespace Memory

/-! ## Failed statements -/

theorem checkRow_eq_error {name : String} {table : Table} {row : Row} {error : StoreError}
    (failed : checkRow name table row = .error error) : error.IsExecution := by
  unfold checkRow at failed
  split at failed
  · cases failed
  · cases failed
    exact ⟨_, rfl⟩

theorem checkKey_eq_error {name : String} {others : List Row} {row : Row} {error : StoreError}
    (failed : checkKey name others row = .error error) : error.IsExecution := by
  unfold checkKey at failed
  split at failed
  · cases failed
  · split at failed
    · cases failed
      exact ⟨_, rfl⟩
    · cases failed

theorem run_eq_error {table : Table} {rows : List Row} {statement : Statement} {error : StoreError}
    (failed : run table rows statement = .error error) : error.IsExecution := by
  cases statement with
  | select selection => cases failed
  | insert name values =>
      rcases Fallible.bind_eq_error.mp failed with unfilled | ⟨_, _, failed⟩
      · exact checkRow_eq_error unfilled
      · rcases Fallible.bind_eq_error.mp failed with duplicate | ⟨_, _, failed⟩
        · exact checkKey_eq_error duplicate
        · cases failed
  | update name assignments touch conditions =>
      rcases Fallible.bind_eq_error.mp failed with revision | ⟨_, _, failed⟩
      · rcases Fallible.exists_step_of_mapM_error revision with ⟨place, _, refused⟩
        unfold revise at refused
        split at refused
        · cases refused
        · rcases Fallible.bind_eq_error.mp refused with unfilled | ⟨_, _, refused⟩
          · exact checkRow_eq_error unfilled
          · rcases Fallible.bind_eq_error.mp refused with duplicate | ⟨_, _, refused⟩
            · exact checkKey_eq_error duplicate
            · cases refused
      · cases failed
  | delete name conditions => cases failed

/-- The store with one more statement counted, if it still executes any. -/
def counted (memory : Memory) : Memory :=
  if memory.closed then memory else { memory with executed := memory.executed + 1 }

theorem rows_counted_if {tried : Prop} [Decidable tried] (memory : Memory) (name : String) :
    (if tried then memory.counted else memory).rows name = memory.rows name := by
  unfold counted
  split
  · split <;> rfl
  · rfl

theorem executed_counted_if {tried : Prop} [Decidable tried] {memory : Memory}
    (opened : memory.closed = false) :
    (if tried then memory.counted else memory).executed =
      memory.executed + if tried then 1 else 0 := by
  split
  · simp [counted, opened]
  · rfl

theorem execute_eq_error {memory : Memory} {statement : Statement} {error : StoreError}
    (failed : (memory.execute statement).1 = .error error) :
    error.IsExecution ∧ (memory.execute statement).2 = memory.counted := by
  unfold execute at failed ⊢
  unfold counted
  split at failed
  · next closed =>
    cases failed
    exact ⟨⟨_, rfl⟩, by rw [if_pos closed, if_pos closed]⟩
  · next opened =>
    rw [if_neg opened, if_neg opened]
    dsimp only at failed ⊢
    split at failed
    · cases failed
      exact ⟨⟨_, rfl⟩, rfl⟩
    · split at failed
      · next refused =>
        cases failed
        exact ⟨run_eq_error refused, rfl⟩
      · cases failed

theorem tables_counted (memory : Memory) : memory.counted.tables = memory.tables := by
  unfold counted
  split <;> rfl

theorem tables_execute_of_error {memory : Memory} {statement : Statement} {error : StoreError}
    (failed : (memory.execute statement).1 = .error error) :
    (memory.execute statement).2.tables = memory.tables := by
  rw [(execute_eq_error failed).2, tables_counted]

/-! ## Executed statements -/

/-- A statement is executed on the rows of a listed table, by an open store, and its
rows are put in their place. -/
theorem execute_eq_ok {memory : Memory} {statement : Statement} {answer : List Row}
    (done : (memory.execute statement).1 = .ok answer) :
    ∃ table after, memory.closed = false ∧
      memory.catalog.tables.get? statement.table = some table ∧
      run table (memory.rows statement.table) statement = .ok (answer, after) ∧
      (memory.execute statement).2 =
        { memory with executed := memory.executed + 1 }.setRows statement.table after := by
  unfold execute at done ⊢
  split at done
  · cases done
  · next opened =>
    rw [if_neg opened]
    dsimp only at done ⊢
    split at done
    · cases done
    · next table listed =>
      split at done
      · cases done
      · next executed =>
        cases done
        exact ⟨table, _, by simpa using opened, listed, executed, rfl⟩

theorem rows_setRows (memory : Memory) (name wanted : String) (rows : List Row) :
    (memory.setRows name rows).rows wanted =
      if wanted = name then rows else memory.rows wanted := by
  unfold Memory.rows setRows
  rw [Keyed.get?_insert]
  split <;> rfl

/-- Rows that are written back as they are change no table. -/
theorem tables_setRows_self {memory : Memory} {name : String} {rows : List Row}
    (stored : memory.tables.get? name = some rows) :
    (memory.setRows name rows).tables = memory.tables := by
  apply Keyed.eq_of_get?_eq
  intro wanted
  unfold setRows
  rw [Keyed.get?_insert]
  split
  · next here => rw [here, stored]
  · rfl

/-! ## Inserts -/

/-- The store after an insert of a row. -/
def addRow (memory : Memory) (name : String) (row : Row) : Memory :=
  { memory with
    tables := memory.tables.insert name (memory.rows name ++ [row])
    executed := memory.executed + 1 }

/-- The store after inserts of rows, one after the other. -/
def addRows (memory : Memory) (name : String) (rows : List Row) : Memory :=
  rows.foldl (fun memory row => memory.addRow name row) memory

theorem addRows_nil (memory : Memory) (name : String) : memory.addRows name [] = memory :=
  rfl

theorem addRows_cons (memory : Memory) (name : String) (row : Row) (rest : List Row) :
    memory.addRows name (row :: rest) = (memory.addRow name row).addRows name rest :=
  rfl

theorem rows_addRow (memory : Memory) (name wanted : String) (row : Row) :
    (memory.addRow name row).rows wanted =
      memory.rows wanted ++ if wanted = name then [row] else [] := by
  unfold rows addRow
  rw [Keyed.get?_insert]
  split
  · next same => simp [same, rows]
  · simp

theorem rows_addRows (memory : Memory) (name wanted : String) (added : List Row) :
    (memory.addRows name added).rows wanted =
      memory.rows wanted ++ if wanted = name then added else [] := by
  induction added generalizing memory with
  | nil => simp [addRows]
  | cons row rest inductionHypothesis =>
      rw [addRows_cons, inductionHypothesis, rows_addRow]
      split <;> simp

theorem executed_addRows (memory : Memory) (name : String) (added : List Row) :
    (memory.addRows name added).executed = memory.executed + added.length := by
  induction added generalizing memory with
  | nil => rfl
  | cons row rest inductionHypothesis =>
      rw [addRows_cons, inductionHypothesis, List.length_cons]
      change memory.executed + 1 + rest.length = _
      omega

theorem closed_addRows (memory : Memory) (name : String) (added : List Row) :
    (memory.addRows name added).closed = memory.closed := by
  induction added generalizing memory with
  | nil => rfl
  | cons row rest inductionHypothesis => exact inductionHypothesis (memory.addRow name row)

/-! ## Reads -/

/-- What a read returns. -/
theorem execute_select (memory : Memory) (selection : Selection) :
    (memory.execute (.select selection)).1 =
      if memory.closed then .error .closed
      else (memory.catalog.tables.get? selection.table).elim
        (.error (.execution ("relation \"" ++ selection.table ++ "\" does not exist")))
        fun _ => .ok (selectRows (memory.rows selection.table) selection) := by
  unfold execute
  split
  · rfl
  · dsimp only [Statement.table]
    cases memory.catalog.tables.get? selection.table with
    | none => rfl
    | some table => rfl

end Memory

/-- A row equals a text in a column only if its cell is that very text. -/
theorem Row.satisfies_text (row : Row) (column text : String) (type : ColumnType) :
    row.satisfies [⟨column, ⟨.eq, false⟩, ⟨.string text, type⟩⟩] =
      (row.get? column == some (.string text)) := by
  simp only [Row.satisfies, List.all_cons, List.all_nil, Bool.and_true, Condition.evaluate]
  cases row.get? column with
  | none => rfl
  | some cell =>
      cases cell with
      | string other => simp [Json.compare?, Comparison.holds]
      | null => rfl
      | bool truth => rfl
      | number n => rfl
      | array items => rfl
      | object members => rfl

end RowGate
