import Mathlib.Data.List.Induction
import RowGate.Proofs.Plan.Request
import RowGate.Proofs.Store.Outcome

namespace RowGate

/-!
# Keys in the store

The `id` of a row is checked against the rows of its table as they were before
the statement.  For an insert this keeps the keys of a table different.  An
update checks each row that it writes against all others, but never two written
rows against each other, so it can give the same key to several rows; nothing
else makes two keys equal.
-/

namespace Row

/-- Both rows have the same key, which is not null. -/
def SharesKey (first second : Row) : Prop :=
  first.isAbsent SystemColumn.id = false ∧
    second.get? SystemColumn.id = first.get? SystemColumn.id

instance (first second : Row) : Decidable (first.SharesKey second) :=
  inferInstanceAs (Decidable (_ ∧ _))

/-- No two rows of a table have the same key. -/
def KeysUnique (rows : List Row) : Prop :=
  rows.Pairwise fun first second => ¬ first.SharesKey second

instance (rows : List Row) : Decidable (KeysUnique rows) :=
  inferInstanceAs (Decidable (List.Pairwise _ _))

theorem SharesKey.symm {first second : Row} (shared : first.SharesKey second) :
    second.SharesKey first := by
  rcases shared with ⟨present, same⟩
  refine ⟨?_, same.symm⟩
  unfold isAbsent at present ⊢
  rw [same]
  exact present

end Row

namespace Memory

theorem checkKey_eq_ok {name : String} {others : List Row} {row : Row} :
    checkKey name others row = .ok () ↔ ∀ other ∈ others, ¬ row.SharesKey other := by
  unfold checkKey Row.SharesKey
  cases row.isAbsent SystemColumn.id with
  | true => simp
  | false => simp

/-! ## What an update writes -/

section

variable (assignments : List (String × Param)) (touch : Option Touch) (conditions : List Condition)

/-- The row after an update. -/
def rewritten (row : Row) : Row :=
  if row.satisfies conditions then updatedRow assignments touch row else row

/-- The rows that an update writes. -/
def written (rows : List Row) : List Row :=
  (rows.filter (·.satisfies conditions)).map (updatedRow assignments touch)

/-- Every written row has passed the check against the rows at other places. -/
def Checked (name : String) (rows : List Row) : Prop :=
  ∀ place (inside : place < rows.length), rows[place].satisfies conditions = true →
    checkKey name (rows.eraseIdx place) (updatedRow assignments touch rows[place]) = .ok ()

variable {assignments touch conditions}
variable {name : String} {table : Table} {rows : List Row}

theorem revise_eq_ok {row : Row} {place : Nat} {new : Option Row}
    (revised : revise name table rows assignments touch conditions (row, place) = .ok new) :
    new.getD row = rewritten assignments touch conditions row ∧
      (row.satisfies conditions = true →
        checkKey name (rows.eraseIdx place) (updatedRow assignments touch row) = .ok ()) := by
  cases matching : row.satisfies conditions with
  | false =>
      simp only [revise, matching, Bool.false_eq_true, not_false_eq_true, if_true] at revised
      cases revised
      simp [rewritten, matching]
  | true =>
      simp only [revise, matching, not_true_eq_false, if_false] at revised
      rcases Fallible.bind_eq_ok.mp revised with ⟨_, _, revised⟩
      rcases Fallible.bind_eq_ok.mp revised with ⟨_, checked, revised⟩
      cases revised
      simp [rewritten, matching, checked]

theorem run_update_eq_ok {answer after : List Row}
    (done : run table rows (.update name assignments touch conditions) = .ok (answer, after)) :
    after = rows.map (rewritten assignments touch conditions) ∧
      Checked assignments touch conditions name rows := by
  rcases Fallible.bind_eq_ok.mp done with ⟨revised, all, done⟩
  cases done
  rcases List.forall₂_iff_get.mp (Fallible.mapM_eq_ok.mp all) with ⟨lengths, each⟩
  rw [List.length_zipIdx] at lengths
  have atPlace : ∀ place (inside : place < rows.length),
      revise name table rows assignments touch conditions (rows[place], place) =
        .ok (revised.get ⟨place, lengths ▸ inside⟩) := by
    intro place inside
    have found := each place (by simpa using inside) (lengths ▸ inside)
    simpa using found
  constructor
  · apply List.ext_getElem
    · simp [lengths]
    · intro place inside _
      have inRows : place < rows.length := by simpa [lengths] using inside
      have new := (revise_eq_ok (atPlace place inRows)).1
      simpa using new
  · intro place inside
    exact (revise_eq_ok (atPlace place inside)).2

theorem rewritten_of_satisfies {row : Row} (matching : row.satisfies conditions = true) :
    rewritten assignments touch conditions row = updatedRow assignments touch row :=
  if_pos matching

theorem rewritten_of_not_satisfies {row : Row} (other : row.satisfies conditions = false) :
    rewritten assignments touch conditions row = row := by
  simp [rewritten, other]

theorem Checked.apart (checked : Checked assignments touch conditions name rows)
    {first second : Nat} (inFirst : first < rows.length) (inSecond : second < rows.length)
    (different : second ≠ first) (matching : rows[first].satisfies conditions = true) :
    ¬ (updatedRow assignments touch rows[first]).SharesKey rows[second] := by
  apply checkKey_eq_ok.mp (checked first inFirst matching)
  exact List.mem_eraseIdx_iff_getElem.mpr ⟨second, inSecond, different, rfl⟩

/-- A written row was checked against every other row, so only two written rows
can have the same key. -/
theorem keysUnique_rewritten_iff (unique : Row.KeysUnique rows)
    (checked : Checked assignments touch conditions name rows) :
    Row.KeysUnique (rows.map (rewritten assignments touch conditions)) ↔
      Row.KeysUnique (written assignments touch conditions rows) := by
  unfold Row.KeysUnique written at *
  rw [List.pairwise_map, List.pairwise_map, List.pairwise_filter]
  constructor
  · intro each
    refine each.imp ?_
    intro first second differ matchingFirst matchingSecond
    rwa [rewritten_of_satisfies matchingFirst, rewritten_of_satisfies matchingSecond] at differ
  · intro each
    rw [List.pairwise_iff_getElem] at unique each ⊢
    intro first second inFirst inSecond before
    -- Either row may be written; a pair of rows that both are is the case left to `each`.
    cases matchingFirst : rows[first].satisfies conditions with
    | true =>
        rw [rewritten_of_satisfies matchingFirst]
        cases matchingSecond : rows[second].satisfies conditions with
        | true =>
            rw [rewritten_of_satisfies matchingSecond]
            exact each first second inFirst inSecond before matchingFirst matchingSecond
        | false =>
            rw [rewritten_of_not_satisfies matchingSecond]
            exact checked.apart inFirst inSecond (Nat.ne_of_gt before) matchingFirst
    | false =>
        rw [rewritten_of_not_satisfies matchingFirst]
        cases matchingSecond : rows[second].satisfies conditions with
        | true =>
            rw [rewritten_of_satisfies matchingSecond]
            intro shared
            exact checked.apart inSecond inFirst (Nat.ne_of_lt before) matchingSecond shared.symm
        | false =>
            rw [rewritten_of_not_satisfies matchingSecond]
            exact unique first second inFirst inSecond before

end

/-! ## One statement -/

/-- No two rows of one table have the same key. -/
def KeysUnique (memory : Memory) : Prop :=
  ∀ table, Row.KeysUnique (memory.rows table)

/-- The statement is an update that is executed and gives two of the rows that
it writes the same key. -/
def MergesKeys (memory : Memory) : Statement → Prop
  | .update name assignments touch conditions =>
      (∃ answer, (memory.execute (.update name assignments touch conditions)).1 = .ok answer) ∧
        ¬ Row.KeysUnique (written assignments touch conditions (memory.rows name))
  | _ => False

theorem keysUnique_insert {name : String} {table : Table} {rows answer after : List Row}
    {values : List (String × Param)} (unique : Row.KeysUnique rows)
    (done : run table rows (.insert name values) = .ok (answer, after)) :
    Row.KeysUnique after := by
  rcases Fallible.bind_eq_ok.mp done with ⟨_, _, done⟩
  rcases Fallible.bind_eq_ok.mp done with ⟨_, checked, done⟩
  cases done
  unfold Row.KeysUnique at *
  rw [List.pairwise_append]
  refine ⟨unique, List.pairwise_singleton _ _, ?_⟩
  intro other member row inserted shared
  rw [List.mem_singleton.mp inserted] at shared
  exact checkKey_eq_ok.mp checked other member shared.symm

/-- A statement fails and changes no table, or it is executed on the rows of its
table and changes no other. -/
theorem execute_cases (memory : Memory) (statement : Statement) :
    (∃ error, (memory.execute statement).1 = .error error ∧
      (memory.execute statement).2.tables = memory.tables) ∨
    ∃ table answer after, memory.catalog.tables.get? statement.table = some table ∧
      run table (memory.rows statement.table) statement = .ok (answer, after) ∧
      (memory.execute statement).1 = .ok answer ∧
      (memory.execute statement).2.tables = memory.tables.insert statement.table after := by
  cases outcome : (memory.execute statement).1 with
  | error error => exact .inl ⟨error, rfl, tables_execute_of_error outcome⟩
  | ok answer =>
      rcases execute_eq_ok outcome with ⟨table, after, _, listed, done, changed⟩
      exact .inr ⟨table, answer, after, listed, done, rfl, congrArg Memory.tables changed⟩

/-- A row that is in the store after a statement was there before, or is one of
those that executing the statement leaves in its table. -/
theorem mem_rows_execute {memory : Memory} {statement : Statement} {name : String} {row : Row}
    (member : row ∈ (memory.execute statement).2.rows name) :
    row ∈ memory.rows name ∨ statement.table = name ∧ ∃ table answer after,
      memory.catalog.tables.get? name = some table ∧
      run table (memory.rows name) statement = .ok (answer, after) ∧ row ∈ after := by
  unfold Memory.rows at member
  rcases execute_cases memory statement with
    ⟨_, _, same⟩ | ⟨table, answer, after, listed, done, _, written⟩
  · rw [same] at member
    exact .inl member
  · rw [written, Keyed.get?_insert] at member
    split at member
    · next here =>
      subst here
      exact .inr ⟨rfl, table, answer, after, listed, done, member⟩
    · exact .inl member

theorem catalog_execute (memory : Memory) (statement : Statement) :
    (memory.execute statement).2.catalog = memory.catalog := by
  unfold execute
  split
  · rfl
  · dsimp only
    split
    · rfl
    · split <;> rfl

theorem keysUnique_of_tables_eq {first second : Memory} (same : second.tables = first.tables)
    (unique : first.KeysUnique) : second.KeysUnique := by
  intro table
  unfold Memory.rows
  rw [same]
  exact unique table

theorem keysUnique_of_tables_insert {first second : Memory} {name : String} {after : List Row}
    (same : second.tables = first.tables.insert name after) (unique : first.KeysUnique) :
    second.KeysUnique ↔ Row.KeysUnique after := by
  have rows : ∀ wanted, second.rows wanted = if wanted = name then after else first.rows wanted := by
    intro wanted
    unfold Memory.rows
    rw [same, Keyed.get?_insert]
    split <;> rfl
  constructor
  · intro all
    have there := all name
    rwa [rows, if_pos rfl] at there
  · intro there wanted
    rw [rows]
    split
    · exact there
    · exact unique wanted

/-- What becomes of the keys of a store when a statement is executed. -/
theorem keysUnique_execute_iff {memory : Memory} (unique : memory.KeysUnique)
    (statement : Statement) :
    (memory.execute statement).2.KeysUnique ↔ ¬ memory.MergesKeys statement := by
  rcases execute_cases memory statement with
    ⟨error, failed, same⟩ | ⟨table, answer, after, _, done, succeeded, changed⟩
  · refine iff_of_true (keysUnique_of_tables_eq same unique) ?_
    cases statement with
    | update name assignments touch conditions =>
        rintro ⟨⟨answer, succeeded⟩, _⟩
        rw [failed] at succeeded
        cases succeeded
    | select _ => exact id
    | insert _ _ => exact id
    | delete _ _ => exact id
  · rw [keysUnique_of_tables_insert changed unique]
    cases statement with
    | select selection =>
        cases done
        exact iff_of_true (unique _) id
    | insert name values => exact iff_of_true (keysUnique_insert (unique name) done) id
    | update name assignments touch conditions =>
        rcases run_update_eq_ok done with ⟨rewriting, checked⟩
        rw [rewriting]
        refine (keysUnique_rewritten_iff (unique name) checked).trans ⟨?_, ?_⟩
        · intro differ merged
          exact merged.2 differ
        · intro kept
          by_contra shared
          exact kept ⟨⟨answer, succeeded⟩, shared⟩
    | delete name conditions =>
        cases done
        exact iff_of_true ((unique name).filter _) id

/-! ## Which updates give several rows one key -/

/-- The values that assignments give to columns. -/
def assigned (assignments : List (String × Param)) : Row :=
  Keyed.empty.insertAll (assignments.map fun value => (value.1, value.2.value))

section

variable {assignments : List (String × Param)} {touch : Option Touch} {conditions : List Condition}

/-- Outside the column of the touch a written row has the assigned cells, and keeps
its own where none is assigned. -/
theorem get?_updatedRow {column : String} (elsewhere : ∀ stamp ∈ touch, stamp.column ≠ column)
    (row : Row) :
    (updatedRow assignments touch row).get? column =
      ((assigned assignments).get? column).or (row.get? column) := by
  cases touch with
  | none => exact Keyed.get?_insertAll _ _ _
  | some stamp =>
      have other : ¬ column = stamp.column := fun same => elsewhere stamp rfl same.symm
      simp only [updatedRow, Keyed.get?_insert, if_neg other]
      exact Keyed.get?_insertAll _ _ _

theorem keysUnique_written_iff {rows : List Row} (unique : Row.KeysUnique rows)
    (elsewhere : ∀ stamp ∈ touch, stamp.column ≠ SystemColumn.id) :
    Row.KeysUnique (written assignments touch conditions rows) ↔
      ((assigned assignments).isAbsent SystemColumn.id = true ∨
        (rows.filter (·.satisfies conditions)).length ≤ 1) := by
  have kept : Row.KeysUnique (rows.filter (·.satisfies conditions)) := unique.filter _
  unfold written
  generalize rows.filter (·.satisfies conditions) = matching at kept ⊢
  unfold Row.KeysUnique at kept ⊢
  rw [List.pairwise_map]
  cases key : (assigned assignments).get? SystemColumn.id with
  | none =>
      refine iff_of_true (kept.imp ?_) (.inl (by simp [Row.isAbsent, key]))
      intro first second differ
      simpa [Row.SharesKey, Row.isAbsent, get?_updatedRow elsewhere, key] using differ
  | some value =>
      cases null : value.isNull with
      | true =>
          refine iff_of_true (kept.imp ?_) (.inl (by simp [Row.isAbsent, key, null]))
          intro first second _
          simp [Row.SharesKey, Row.isAbsent, get?_updatedRow elsewhere, key, null]
      | false =>
          have shared : ∀ first second, (updatedRow assignments touch first).SharesKey
              (updatedRow assignments touch second) := by
            intro first second
            simp [Row.SharesKey, Row.isAbsent, get?_updatedRow elsewhere, key, null]
          have present : ¬ (assigned assignments).isAbsent SystemColumn.id = true := by
            simp [Row.isAbsent, key, null]
          cases matching with
          | nil => simp
          | cons first rest =>
              cases rest with
              | nil => simp
              | cons second others =>
                  apply iff_of_false
                  · intro differ
                    have apart := (List.pairwise_cons.mp differ).1 second List.mem_cons_self
                    exact apart (shared first second)
                  · rintro (absent | few)
                    · exact present absent
                    · simp at few

/-- An update whose touch is not the key gives several rows one key exactly when
it is executed, assigns a key and has more than one row to write. -/
theorem mergesKeys_update_iff {memory : Memory} (unique : memory.KeysUnique) {name : String}
    (elsewhere : ∀ stamp ∈ touch, stamp.column ≠ SystemColumn.id) :
    memory.MergesKeys (.update name assignments touch conditions) ↔
      (∃ answer, (memory.execute (.update name assignments touch conditions)).1 = .ok answer) ∧
        (assigned assignments).isAbsent SystemColumn.id = false ∧
        1 < ((memory.rows name).filter (·.satisfies conditions)).length := by
  dsimp only [MergesKeys]
  rw [keysUnique_written_iff (unique name) elsewhere, not_or, Bool.not_eq_true, Nat.not_le]

end

/-! ## Runs -/

/-- The store after statements that are executed one after another. -/
def executeAll (memory : Memory) (statements : List Statement) : Memory :=
  statements.foldl (fun memory statement => (memory.execute statement).2) memory

theorem executeAll_append (memory : Memory) (first second : List Statement) :
    memory.executeAll (first ++ second) = (memory.executeAll first).executeAll second :=
  List.foldl_append

theorem rows_ofCatalog (catalog : Catalog) (table : String) :
    (ofCatalog catalog).rows table = [] := by
  unfold Memory.rows ofCatalog
  cases found : (Keyed.ofList (catalog.tableNames.map fun name => (name, []))).get? table with
  | none => rfl
  | some rows =>
      rcases List.mem_map.mp (Keyed.mem_of_get?_ofList found) with ⟨name, _, entry⟩
      cases entry
      rfl

/-- Along a run, the rows of each table have different keys for exactly as long
as no update gives several rows the same key. -/
theorem keysUnique_executeAll_iff (catalog : Catalog) (statements : List Statement) :
    (∀ run, run <+: statements → ((ofCatalog catalog).executeAll run).KeysUnique) ↔
      ∀ run statement, run ++ [statement] <+: statements →
        ¬ ((ofCatalog catalog).executeAll run).MergesKeys statement := by
  constructor
  · intro unique run statement reached merged
    have before := unique run ((List.prefix_append run [statement]).trans reached)
    have after := unique (run ++ [statement]) reached
    rw [executeAll_append] at after
    exact (keysUnique_execute_iff before statement).mp after merged
  · intro kept run
    induction run using List.reverseRecOn with
    | nil =>
        intro _ table
        have empty : ((ofCatalog catalog).executeAll []).rows table = [] :=
          rows_ofCatalog catalog table
        rw [empty]
        exact List.Pairwise.nil
    | append_singleton run statement inductionHypothesis =>
        intro reached
        have before := inductionHypothesis ((List.prefix_append run [statement]).trans reached)
        rw [executeAll_append]
        exact (keysUnique_execute_iff before statement).mpr (kept run statement reached)

/-- Two rows of different keys get the same key from one update. -/
theorem same_key_after_update :
    ¬ ∀ (catalog : Catalog) (statements : List Statement),
      ((ofCatalog catalog).executeAll statements).KeysUnique := by
  intro all
  have unique := all Catalog.items
    [.insert "items" [("id", ⟨.string "a", .text⟩)],
     .insert "items" [("id", ⟨.string "b", .text⟩)],
     .update "items" [("id", ⟨.string "x", .text⟩)] none
       [⟨"id", ⟨.neq, false⟩, ⟨.string "c", .text⟩⟩]] "items"
  revert unique
  decide

end Memory
end RowGate
