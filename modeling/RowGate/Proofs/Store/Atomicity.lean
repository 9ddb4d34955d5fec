import RowGate.Proofs.Store.Keys
import RowGate.Proofs.Store.Outcome

namespace RowGate
namespace Memory

/-!
# Statements are atomic

A statement that fails changes no table, at whichever row it fails, and neither
does a read; a statement on one table leaves the others as they are; and a
closed store refuses every statement and does not count it.

A read writes the rows of its table back, which adds an entry where the table
had none.  No such table is in a store that a run has reached: every listed
table is there from the start, and a statement for any other table is refused
before anything is written.
-/

/-! ## Runs -/

/-- What can be done with a store. -/
inductive Act where
  | execute (statement : Statement)
  | resetCount
  | close
deriving DecidableEq

/-- Do something with the store; statements are replied to. -/
def act (memory : Memory) : Act → Option (Except StoreError (List Row)) × Memory
  | .execute statement =>
      let executed := memory.execute statement
      (some executed.1, executed.2)
  | .resetCount => (none, memory.resetCount)
  | .close => (none, memory.close)

/-- Do one thing after the other: the replies to the statements, and the store
afterwards. -/
def actAll : Memory → List Act → List (Except StoreError (List Row)) × Memory
  | memory, [] => ([], memory)
  | memory, first :: rest =>
      let done := memory.act first
      let later := done.2.actAll rest
      (done.1.toList ++ later.1, later.2)

/-! ## One statement -/

variable {memory : Memory} {statement : Statement}

theorem get?_execute_of_ne {name : String} (other : name ≠ statement.table) :
    (memory.execute statement).2.tables.get? name = memory.tables.get? name := by
  rcases memory.execute_cases statement with ⟨error, failed, same⟩ | ⟨_, _, after, _, _, _, written⟩
  · rw [same]
  · rw [written, Keyed.get?_insert, if_neg other]

theorem execute_of_closed (closed : memory.closed = true) (statement : Statement) :
    memory.execute statement = (.error .closed, memory) := by
  rw [execute, if_pos closed]

/-! ## Tables that are there -/

/-- Every listed table has an entry, if only an empty one. -/
def Stocked (memory : Memory) : Prop :=
  ∀ name, memory.catalog.tables.contains name = true → memory.tables.contains name = true

theorem stocked_ofCatalog (catalog : Catalog) : (ofCatalog catalog).Stocked := by
  intro name listed
  have named : name ∈ catalog.tableNames := Keyed.mem_keys_iff.mpr listed
  simp [ofCatalog, Keyed.contains_ofList, named]

theorem tables_execute_select (stocked : memory.Stocked) (selection : Selection) :
    (memory.execute (.select selection)).2.tables = memory.tables := by
  rcases memory.execute_cases (.select selection) with
    ⟨error, failed, same⟩ | ⟨table, answer, after, listed, done, _, written⟩
  · exact same
  · have there : memory.tables.contains selection.table = true := by
      apply stocked
      rw [Keyed.contains]
      exact Option.isSome_iff_exists.mpr ⟨table, listed⟩
    rcases Option.isSome_iff_exists.mp there with ⟨rows, found⟩
    cases done
    rw [written]
    apply tables_setRows_self
    change memory.tables.get? selection.table = some (memory.rows selection.table)
    rw [Memory.rows, found, Option.getD_some]

theorem stocked_act (stocked : memory.Stocked) (step : Act) : (memory.act step).2.Stocked := by
  cases step with
  | execute statement =>
      intro name listed
      change (memory.execute statement).2.catalog.tables.contains name = true at listed
      rw [catalog_execute] at listed
      change (memory.execute statement).2.tables.contains name = true
      rcases memory.execute_cases statement with ⟨_, _, same⟩ | ⟨_, _, _, _, _, _, written⟩
      · rw [same]
        exact stocked name listed
      · rw [written, Keyed.contains_insert, stocked name listed, Bool.or_true]
  | resetCount => exact stocked
  | close => exact stocked

theorem stocked_actAll (stocked : memory.Stocked) (acts : List Act) :
    (memory.actAll acts).2.Stocked := by
  induction acts generalizing memory with
  | nil => exact stocked
  | cons first rest inductionHypothesis => exact inductionHypothesis (stocked_act stocked first)

/-! ## A closed store -/

/-- A closed store stays as it is, but for its count, which can still be
reset. -/
theorem actAll_of_closed (closed : memory.closed = true) (acts : List Act) :
    (∀ reply ∈ (memory.actAll acts).1, reply = .error .closed) ∧
      (memory.actAll acts).2 =
        if .resetCount ∈ acts then memory.resetCount else memory := by
  induction acts generalizing memory with
  | nil => simp [actAll]
  | cons first rest inductionHypothesis =>
      cases first with
      | execute statement =>
          have refused := execute_of_closed closed statement
          rcases inductionHypothesis closed with ⟨replies, after⟩
          simp only [actAll, act, refused]
          constructor
          · simpa using replies
          · simpa using after
      | resetCount =>
          have again : memory.resetCount.closed = true := closed
          rcases inductionHypothesis again with ⟨replies, after⟩
          simp only [actAll, act]
          constructor
          · simpa using replies
          · rw [after, if_pos List.mem_cons_self]
            split <;> rfl
      | close =>
          have same : memory.close = memory := by
            unfold close
            rw [← closed]
          rcases inductionHypothesis closed with ⟨replies, after⟩
          simp only [actAll, act, same]
          constructor
          · simpa using replies
          · simpa using after

/-! ## The main statement -/

/-- In every state that a run reaches, a statement that fails changes no table,
a read changes no table whatever it returns, and a statement on one table leaves
all others as they are.  After the store has been closed, whatever is done with
it, every statement fails because of that and changes neither the tables nor the
count of statements. -/
theorem statements_atomic (catalog : Catalog) (acts : List Act) :
    let memory := ((ofCatalog catalog).actAll acts).2
    (∀ statement error, (memory.execute statement).1 = .error error →
        (memory.execute statement).2.tables = memory.tables) ∧
      (∀ selection, (memory.execute (.select selection)).2.tables = memory.tables) ∧
      (∀ statement name, name ≠ statement.table →
        (memory.execute statement).2.tables.get? name = memory.tables.get? name) ∧
      ∀ later : List Act,
        let after := (memory.close.actAll later).2
        (∀ reply ∈ (memory.close.actAll later).1, reply = .error .closed) ∧
          after.tables = memory.tables ∧
          after.executed = (if .resetCount ∈ later then 0 else memory.executed) ∧
          ∀ statement, after.execute statement = (.error .closed, after) := by
  intro memory
  refine ⟨?_, ?_, ?_, ?_⟩
  · intro statement error failed
    exact tables_execute_of_error failed
  · exact tables_execute_select (stocked_actAll (stocked_ofCatalog catalog) acts)
  · intro statement name other
    exact get?_execute_of_ne other
  · intro later after
    have shut : memory.close.closed = true := rfl
    rcases actAll_of_closed shut later with ⟨replies, state⟩
    have kept : after.tables = memory.tables ∧
        after.executed = (if .resetCount ∈ later then 0 else memory.executed) ∧
        after.closed = true := by
      change after = _ at state
      rw [state]
      split
      · exact ⟨rfl, rfl, rfl⟩
      · exact ⟨rfl, rfl, rfl⟩
    refine ⟨replies, kept.1, kept.2.1, ?_⟩
    intro statement
    exact execute_of_closed kept.2.2 statement

/-- Three rows, of which an update is to give the last two the key of the
first. -/
def Act.inserts : List Act :=
  [.execute (.insert "items" [("id", ⟨.string "a", .text⟩), ("rank", ⟨.ofNat 1, .integer⟩)]),
    .execute (.insert "items" [("id", ⟨.string "b", .text⟩), ("rank", ⟨.ofNat 2, .integer⟩)]),
    .execute (.insert "items" [("id", ⟨.string "c", .text⟩), ("rank", ⟨.ofNat 3, .integer⟩)])]

/-- An update fails on the second of the rows that it is to write.  The first
stays as it was. -/
theorem update_fails_on_second_row :
    let memory := ((ofCatalog .items).actAll Act.inserts).2
    let update : Statement := .update "items" [("id", ⟨.string "a", .text⟩)] none
      [⟨"rank", ⟨.gte, false⟩, ⟨.ofNat 1, .integer⟩⟩]
    (memory.execute update).1 = .error (.execution
        "duplicate key value violates unique constraint \"items_pkey\"") ∧
      (memory.execute update).2.tables = memory.tables ∧
      "notes" ≠ update.table ∧
      (memory.execute update).2.tables.get? "notes" = memory.tables.get? "notes" ∧
      (memory.close.actAll [.execute update]).1 = [.error .closed] := by
  intro memory update
  have failed : (memory.execute update).1 = .error (.execution
      "duplicate key value violates unique constraint \"items_pkey\"") := by
    decide +kernel
  have other : "notes" ≠ update.table := by decide
  rcases statements_atomic .items Act.inserts with ⟨atomic, _, frame, closed⟩
  have refused := (closed [.execute update]).1 _ List.mem_cons_self
  exact ⟨failed, atomic update _ failed, other, frame update "notes" other, by rw [← refused]; rfl⟩

end Memory
end RowGate
