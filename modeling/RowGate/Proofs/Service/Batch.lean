import RowGate.Proofs.Service.WriteScope
import RowGate.Proofs.Store.Outcome

namespace RowGate

/-!
# Batches of rows

A batch does what the inserts of its rows do, made one at a time at the same
reading of the clock, up to the first that fails.  The rows before that one stay,
in the order of the batch, and the answer has exactly them; the failure is that of
the row, with its place in a batch of several; and the rows behind it are not
tried.

The comparison is with requests for single rows, each of which meets the store
that the rows before it have left.
-/

variable {σ : Type}

namespace Service

/-! ## Rows one at a time -/

section

variable [Store σ]

/-- Insert rows by requests of their own.  Each is made, whether or not one
before it has failed. -/
def insertSingly (service : Service σ) (now : Time.Instant) (name : String) :
    List Row → List Answer × Service σ
  | [] => ([], service)
  | row :: rest =>
      let first := service.insert now name [row]
      let others := first.2.insertSingly now name rest
      (first.1 :: others.1, others.2)

/-- The place of the first row that fails when rows are inserted one at a time;
their number if none does. -/
def failingPlace (service : Service σ) (now : Time.Instant) (name : String) (rows : List Row) :
    Nat :=
  (service.insertSingly now name rows).1.findIdx fun answer => !answer.succeeded

/-- The rows that are stored before the first one that fails. -/
def storedBefore (service : Service σ) (now : Time.Instant) (name : String) (rows : List Row) :
    List Row :=
  ((service.insertSingly now name rows).1.take (service.failingPlace now name rows)).flatMap
    Answer.records

/-- Whether the planner makes a statement of a row, which then reaches the
store. -/
def isPlanned (service : Service σ) (now : Time.Instant) (name : String) (table : Table)
    (row : Row) : Bool :=
  (Plan.insert service.catalog name (service.complete table now row).1).toBool

end

/-! ## One statement -/

section

variable {service : Service Memory} {statement : Statement}

theorem store_execute :
    (service.execute statement).2.store = (service.store.execute statement).2 := by
  change _ = (Store.execute service.store statement).2
  simp only [execute]
  cases (Store.execute service.store statement).1 <;> rfl

theorem catalog_execute : (service.execute statement).2.catalog = service.catalog := by
  simp only [execute]
  cases (Store.execute service.store statement).1 <;> rfl

theorem execute_eq_ok {rows : List Row} (done : (service.execute statement).1 = .ok rows) :
    (service.store.execute statement).1 = .ok rows := by
  simp only [execute] at done
  split at done
  · cases done
  · next executed =>
    cases done
    exact executed

theorem execute_eq_error {failure : Failure}
    (failed : (service.execute statement).1 = .error failure) :
    ∃ error, (service.store.execute statement).1 = .error error ∧ failure = error.toFailure := by
  simp only [execute] at failed
  split at failed
  · next error executed =>
    cases failed
    exact ⟨error, executed, rfl⟩
  · cases failed

end

/-! ## One row -/

theorem store_record (service : Service σ) (event : Event) :
    (service.record event).store = service.store :=
  rfl

theorem catalog_complete (service : Service σ) (table : Table) (now : Time.Instant) (row : Row) :
    (service.complete table now row).2.catalog = service.catalog := by
  unfold complete fillKey
  split <;> rfl

theorem store_complete (service : Service σ) (table : Table) (now : Time.Instant) (row : Row) :
    (service.complete table now row).2.store = service.store := by
  unfold complete fillKey
  split <;> rfl

section

variable {service : Service Memory} {now : Time.Instant} {name : String} {table : Table} {row : Row}

/-- A planned row that is stored: what it was planned from, and its place at the end
of its table. -/
theorem executePlan_insert_eq_ok {catalog : Catalog} {returned : List Row}
    (inserted : (service.executePlan (Plan.insert catalog name row)).1 = .ok returned) :
    ∃ target declared stocked values, Text.trim name = target ∧
      Plan.table catalog name = .ok target ∧ catalog.table target = .ok declared ∧
      Plan.assignments catalog target row.clampUpdated = .ok values ∧
      service.store.closed = false ∧
      service.store.catalog.tables.get? target = some stocked ∧
      returned = [Memory.insertedRow stocked values] ∧
      (service.executePlan (Plan.insert catalog name row)).2.catalog = service.catalog ∧
      (service.executePlan (Plan.insert catalog name row)).2.store =
        service.store.addRow target (Memory.insertedRow stocked values) := by
  cases plan : Plan.insert catalog name row with
  | error failure =>
      rw [plan] at inserted
      cases inserted
  | ok statement =>
      rw [plan] at inserted
      rcases Fallible.bind_eq_ok.mp plan with ⟨target, read, plan⟩
      rcases Fallible.bind_eq_ok.mp plan with ⟨values, assigned, plan⟩
      cases plan
      rcases Plan.table_eq_ok.mp read with ⟨named, _, declared, listed⟩
      rcases Memory.execute_eq_ok (execute_eq_ok inserted) with
        ⟨stocked, after, opened, known, done, changed⟩
      rcases Fallible.bind_eq_ok.mp done with ⟨_, _, done⟩
      rcases Fallible.bind_eq_ok.mp done with ⟨_, _, done⟩
      cases done
      exact ⟨target, declared, stocked, values, named, read, listed, assigned, opened, known, rfl,
        catalog_execute, store_execute.trans changed⟩

/-- A statement that fails, or that is not planned, changes no table. -/
theorem tables_executePlan_of_error {plan : Except Failure Statement} {failure : Failure}
    (failed : (service.executePlan plan).1 = .error failure) :
    (service.executePlan plan).2.store.tables = service.store.tables := by
  cases plan with
  | error other => rfl
  | ok statement =>
      rcases execute_eq_error failed with ⟨error, refused, _⟩
      rw [executePlan, store_execute]
      exact Memory.tables_execute_of_error refused

/-- A row that is inserted stands at the end of its table. -/
theorem insertRow_eq_ok {returned : List Row}
    (inserted : (service.insertRow name table now row).1 = .ok returned) :
    service.store.closed = false ∧
      (service.insertRow name table now row).2.catalog = service.catalog ∧
      ∃ stored, returned = [stored] ∧
        (service.insertRow name table now row).2.store =
          service.store.addRow (Text.trim name) stored := by
  simp only [insertRow] at inserted ⊢
  rcases executePlan_insert_eq_ok inserted with
    ⟨target, _, _, _, named, _, _, _, opened, _, answer, catalogs, stores⟩
  rw [store_complete] at opened stores
  rw [catalog_complete] at catalogs
  exact ⟨opened, catalogs, _, answer, named ▸ stores⟩

/-- A row that fails changes no table.  It is counted if it was planned, and
otherwise the store has not seen it; a failure of validation is one of the
planner. -/
theorem insertRow_eq_error {failure : Failure}
    (failed : (service.insertRow name table now row).1 = .error failure) :
    (service.isPlanned now name table row = true ∧ failure.isValidation = false ∧
      (service.insertRow name table now row).2.store = service.store.counted) ∨
    (service.isPlanned now name table row = false ∧
      (service.insertRow name table now row).2.store = service.store) := by
  simp only [insertRow, isPlanned] at failed ⊢
  cases plan : Plan.insert service.catalog name (service.complete table now row).1 with
  | error failure =>
      exact .inr ⟨rfl, service.store_complete table now row⟩
  | ok statement =>
      rw [plan] at failed
      rcases execute_eq_error failed with ⟨error, refused, rfl⟩
      rcases Memory.execute_eq_error refused with ⟨execution, after⟩
      refine .inl ⟨rfl, execution.isValidation, ?_⟩
      rw [executePlan, store_execute, after, store_complete]

end

/-! ## A batch beside its rows -/

section

variable {service : Service Memory} {now : Time.Instant} {name : String} {table : Table} {row : Row}

theorem length_insertSingly [Store σ] (service : Service σ) (now : Time.Instant) (name : String)
    (rows : List Row) : (service.insertSingly now name rows).1.length = rows.length := by
  induction rows generalizing service with
  | nil => rfl
  | cons row rest inductionHypothesis =>
      exact congrArg (· + 1) (inductionHypothesis (service.insert now name [row]).2)

theorem insert_singleton (declared : Plan.declaration service.catalog name = .ok table) :
    service.insert now name [row] = insertFrom name table now false [row] 0 [] service := by
  simp only [insert, declared, if_neg (List.cons_ne_nil row []), List.length_singleton,
    Nat.lt_irrefl, decide_false]

theorem insert_singleton_ok {stored : Row}
    (declared : Plan.declaration service.catalog name = .ok table)
    (inserted : (service.insertRow name table now row).1 = .ok [stored]) :
    service.insert now name [row] =
      (.ofRows [stored], (service.insertRow name table now row).2) := by
  rw [insert_singleton declared]
  simp only [insertFrom, inserted, List.nil_append]

theorem insert_singleton_error {failure : Failure}
    (declared : Plan.declaration service.catalog name = .ok table)
    (failed : (service.insertRow name table now row).1 = .error failure) :
    (service.insert now name [row]).1.failure = some failure ∧
      (service.insert now name [row]).2.store = (service.insertRow name table now row).2.store := by
  rw [insert_singleton declared]
  simp only [insertFrom, failed, store_record]
  exact ⟨rfl, trivial⟩

theorem records_ofRows (rows : List Row) : (Answer.ofRows rows).records = rows := by
  have read : (Row.ofJson? ∘ Row.toJson) = some := by
    funext row
    exact congrArg some (Keyed.ofList_entries row)
  change (rows.map Row.toJson).filterMap Row.ofJson? = rows
  rw [List.filterMap_map, read, List.filterMap_some]

/-- Behind a row that is inserted the rest is inserted as if by itself. -/
theorem failingPlace_cons_ok {stored : Row} (rest : List Row)
    (declared : Plan.declaration service.catalog name = .ok table)
    (inserted : (service.insertRow name table now row).1 = .ok [stored]) :
    service.failingPlace now name (row :: rest) =
        (service.insertRow name table now row).2.failingPlace now name rest + 1 ∧
      service.storedBefore now name (row :: rest) =
        stored :: (service.insertRow name table now row).2.storedBefore now name rest := by
  have place : service.failingPlace now name (row :: rest) =
      (service.insertRow name table now row).2.failingPlace now name rest + 1 := by
    simp only [failingPlace, insertSingly, insert_singleton_ok declared inserted]
    rw [List.findIdx_cons]
    rfl
  refine ⟨place, ?_⟩
  unfold storedBefore
  simp only [place, insertSingly, insert_singleton_ok declared inserted]
  rw [List.take_succ_cons, List.flatMap_cons, records_ofRows]
  rfl

theorem failingPlace_cons_error {failure : Failure} (rest : List Row)
    (declared : Plan.declaration service.catalog name = .ok table)
    (failed : (service.insertRow name table now row).1 = .error failure) :
    service.failingPlace now name (row :: rest) = 0 := by
  rcases insert_singleton_error declared failed with ⟨reported, _⟩
  simp only [failingPlace, insertSingly]
  rw [List.findIdx_cons, Answer.succeeded, reported]
  rfl

/-- The failure of a row, as its batch reports it. -/
def attributed (batch : Bool) (index : Nat) (cause : Failure) : Failure :=
  if batch then .rowFailed index cause else cause

theorem attributed_decide (several : Prop) [Decidable several] (index : Nat) :
    attributed (decide several) index =
      fun cause => if several then .rowFailed index cause else cause := by
  funext cause
  simp only [attributed, decide_eq_true_eq]

/-- What a batch answers and leaves behind is decided by the inserts of its
rows one at a time. -/
theorem insertFrom_singly (now : Time.Instant)
    (declared : Plan.declaration service.catalog name = .ok table)
    (opened : service.store.closed = false) (batch : Bool) (rows : List Row) (index : Nat)
    (inserted : List Row) :
    let place := service.failingPlace now name rows
    let stored := service.storedBefore now name rows
    let cause := (service.insertSingly now name rows).1[place]?.bind Answer.failure
    let before := (service.insertSingly now name (rows.take place)).2
    let filled := service.store.addRows (Text.trim name) stored
    let result := insertFrom name table now batch rows index inserted service
    stored.length = place ∧
      result.1 = { Answer.ofRows (inserted ++ stored) with
        failure := cause.map (attributed batch (index + place)) } ∧
      result.2.store = (service.insertSingly now name (rows.take (place + 1))).2.store ∧
      result.2.store =
        if rows[place]?.any (before.isPlanned now name table) then filled.counted else filled := by
  induction rows generalizing service index inserted with
  | nil =>
      refine ⟨rfl, ?_, rfl, rfl⟩
      change Answer.ofRows inserted = { Answer.ofRows (inserted ++ []) with failure := none }
      rw [List.append_nil]
      rfl
  | cons row rest inductionHypothesis =>
      intro place stored cause before filled result
      cases answer : (service.insertRow name table now row).1 with
      | ok returned =>
          rcases insertRow_eq_ok answer with ⟨_, catalog, added, rfl, after⟩
          have declaredAfter : Plan.declaration
              (service.insertRow name table now row).2.catalog name = .ok table := by
            rw [catalog]
            exact declared
          have openedAfter : (service.insertRow name table now row).2.store.closed = false := by
            rw [after]
            exact opened
          rcases failingPlace_cons_ok rest declared answer with ⟨placed, storing⟩
          have first := insert_singleton_ok declared answer
          rcases inductionHypothesis declaredAfter openedAfter (index + 1) (inserted ++ [added])
            with ⟨number, answered, tried, left⟩
          simp only [result, filled, before, cause, stored, place, placed, storing, insertFrom,
            answer, insertSingly, first, List.take_succ_cons, List.getElem?_cons_succ,
            List.length_cons]
          refine ⟨congrArg (· + 1) number, ?_, tried, ?_⟩
          · rw [answered, List.append_assoc, List.singleton_append]
            simp only [Nat.add_assoc, Nat.add_comm 1]
          · rw [left, after, Memory.addRows_cons]
      | error failure =>
          have placed := failingPlace_cons_error rest declared answer
          rcases insert_singleton_error declared answer with ⟨reported, after⟩
          have none : service.storedBefore now name (row :: rest) = [] := by
            unfold storedBefore
            rw [placed]
            rfl
          simp only [result, filled, before, cause, stored, place, placed, none, insertFrom,
            answer, insertSingly, List.take_succ_cons, List.take_zero, List.getElem?_cons_zero]
          rw [store_record, after, Memory.addRows_nil, Option.any_some]
          refine ⟨List.length_nil, ?_, rfl, ?_⟩
          · simp only [Option.bind_some, reported, Option.map_some, List.append_nil, Nat.add_zero]
            rfl
          · rcases insertRow_eq_error answer with ⟨planned, _, left⟩ | ⟨unplanned, left⟩
            · rw [left, planned, if_pos rfl]
            · rw [left, unplanned, if_neg Bool.false_ne_true]

theorem insert_singly {rows : List Row} (now : Time.Instant)
    (declared : Plan.declaration service.catalog name = .ok table)
    (opened : service.store.closed = false) (filled : rows ≠ []) :
    let place := service.failingPlace now name rows
    let stored := service.storedBefore now name rows
    let cause := (service.insertSingly now name rows).1[place]?.bind Answer.failure
    let before := (service.insertSingly now name (rows.take place)).2
    let after := service.store.addRows (Text.trim name) stored
    let result := service.insert now name rows
    stored.length = place ∧
      result.1 = { Answer.ofRows stored with
        failure := cause.map (attributed (decide (1 < rows.length)) place) } ∧
      result.2.store = (service.insertSingly now name (rows.take (place + 1))).2.store ∧
      result.2.store =
        if rows[place]?.any (before.isPlanned now name table) then after.counted else after := by
  have batch := insertFrom_singly now declared opened (decide (1 < rows.length)) rows 0 []
  simp only [List.nil_append, Nat.zero_add] at batch
  simp only [insert, declared, if_neg filled]
  exact batch

/-- The first failing answer has a failure, so none is found only behind the
last answer. -/
theorem failure_findIdx_eq_none_iff (answers : List Answer) :
    (answers[answers.findIdx fun answer => !answer.succeeded]?).bind Answer.failure = none ↔
      (answers.findIdx fun answer => !answer.succeeded) = answers.length := by
  induction answers with
  | nil => simp
  | cons answer rest inductionHypothesis =>
      rw [List.findIdx_cons, Answer.succeeded]
      cases failed : answer.failure with
      | none => simpa using inductionHypothesis
      | some failure => simp [failed]

end

/-! ## Content that is no list of rows -/

/-- A list with an item that is no object is refused for the first such item. -/
theorem ofItems_eq_error {items : List Json} (index : Nat)
    (odd : ∃ item ∈ items, Row.ofJson? item = none) :
    Rows.ofItems index items = .error (.invalidBody
      ("row " ++ Nat.repr (index + items.findIdx fun item => (Row.ofJson? item).isNone) ++
        " is not an object")) := by
  induction items generalizing index with
  | nil =>
      rcases odd with ⟨item, member, _⟩
      exact absurd member List.not_mem_nil
  | cons item rest inductionHypothesis =>
      rw [List.findIdx_cons]
      unfold Rows.ofItems
      cases read : Row.ofJson? item with
      | none => rfl
      | some row =>
          have later : ∃ item ∈ rest, Row.ofJson? item = none := by
            rcases odd with ⟨other, member, unread⟩
            rcases List.mem_cons.mp member with rfl | member
            · cases read.symm.trans unread
            · exact ⟨other, member, unread⟩
          simp only [inductionHypothesis (index + 1) later]
          rw [Nat.add_assoc, Nat.add_comm 1]
          rfl

end Service

/-! ## The main statement -/

/-- A batch stores the rows before the first that would fail if they were
inserted one at a time, answers with exactly these, reports that row with its
place, and leaves the store as it is when the row has been tried.  Content with
an item that is no object is refused before anything happens. -/
theorem batch_commits_first_rows (service : Service Memory) (now : Time.Instant)
    (name : String) :
    (∀ table rows, Plan.declaration service.catalog name = .ok table →
      service.store.closed = false → rows ≠ [] →
      let singly := (service.insertSingly now name rows).1
      let place := singly.findIdx fun answer => !answer.succeeded
      let stored := (singly.take place).flatMap Answer.records
      let before := (service.insertSingly now name (rows.take place)).2
      let batch := service.insert now name rows
      stored.length = place ∧
        (∀ wanted, batch.2.store.rows wanted =
          service.store.rows wanted ++ if wanted = Text.trim name then stored else []) ∧
        batch.1.data = .array (stored.map Row.toJson) ∧ batch.1.count = place ∧
        (batch.1.failure = none ↔ place = rows.length) ∧
        batch.1.failure = (singly[place]?.bind Answer.failure).map
          (fun cause => if 1 < rows.length then .rowFailed place cause else cause) ∧
        batch.2.store = (service.insertSingly now name (rows.take (place + 1))).2.store ∧
        batch.2.store.executed = service.store.executed + place +
          if rows[place]?.any (before.isPlanned now name table) then 1 else 0) ∧
    (∀ items : List Json, (∃ item ∈ items, Row.ofJson? item = none) →
      service.insertJson now name (.array items) =
        (.failed (.invalidBody
          ("row " ++ Nat.repr (items.findIdx fun item => (Row.ofJson? item).isNone) ++
            " is not an object")), service)) := by
  constructor
  · intro table rows declared opened filled singly place stored before batch
    rcases Service.insert_singly now declared opened filled
      with ⟨number, answered, tried, left⟩
    have reported : batch.1.failure = (singly[place]?.bind Answer.failure).map
        (fun cause => if 1 < rows.length then .rowFailed place cause else cause) := by
      rw [answered, Service.attributed_decide]
      rfl
    refine ⟨number, ?_, ?_, ?_, ?_, reported, tried, ?_⟩
    · intro wanted
      rw [left, Memory.rows_counted_if, Memory.rows_addRows]
      rfl
    · rw [answered]
      rfl
    · rw [answered]
      exact number
    · rw [reported, Option.map_eq_none_iff, ← service.length_insertSingly now name rows]
      exact Service.failure_findIdx_eq_none_iff singly
    · rw [left, Memory.executed_counted_if ((Memory.closed_addRows _ _ _).trans opened),
        Memory.executed_addRows, number]
      rfl
  · intro items odd
    have refused := Service.ofItems_eq_error 0 odd
    cases items with
    | nil =>
        rcases odd with ⟨item, member, _⟩
        exact absurd member List.not_mem_nil
    | cons item rest =>
        rw [Nat.zero_add] at refused
        simp only [Service.insertJson, Rows.ofJson, refused]

/-- The third of four rows has the key of the first, so two rows are stored and
three statements are executed. -/
theorem repeated_key_ends_batch :
    let now : Time.Instant := .ofMillis 0
    let rows : List Row := ["a", "b", "a", "c"].map fun id => .ofList [("id", .string id)]
    ((∃ table, Plan.declaration Catalog.items "items" = .ok table) ∧
        Service.ofItems.store.closed = false ∧ rows ≠ []) ∧
      ∃ batch, Service.ofItems.insert now "items" rows = batch ∧ batch.1.count = 2 ∧
        (batch.2.store.rows "items").length = 2 ∧
        batch.1.failure = some (.rowFailed 2
          (.execution "duplicate key value violates unique constraint \"items_pkey\"")) ∧
        batch.2.store.executed = 3 := by
  intro now rows
  have listed : (Plan.declaration Catalog.items "items").toBool = true := by decide +kernel
  cases declared : Plan.declaration Catalog.items "items" with
  | error failure =>
      rw [declared] at listed
      cases listed
  | ok table =>
      have place : ((Service.ofItems.insertSingly now "items" rows).1.findIdx
          fun answer => !answer.succeeded) = 2 := by decide +kernel
      have cause : (Service.ofItems.insertSingly now "items" rows).1[2]?.bind Answer.failure =
          some (.execution "duplicate key value violates unique constraint \"items_pkey\"") := by
        decide +kernel
      have planned : rows[2]?.any
          ((Service.ofItems.insertSingly now "items" (rows.take 2)).2.isPlanned now "items"
            table) = true := by
        cases declared
        decide +kernel
      have fresh : Service.ofItems.store.rows "items" = [] := by decide +kernel
      have trimmed : Text.trim "items" = "items" := by decide +kernel
      rcases (batch_commits_first_rows Service.ofItems now "items").1 table rows declared rfl
        (List.cons_ne_nil _ _) with ⟨number, stored, _, count, _, failure, _, executed⟩
      rw [place] at number count failure executed
      rw [cause] at failure
      rw [if_pos planned] at executed
      have after := stored "items"
      rw [fresh, trimmed, if_pos rfl, List.nil_append, place] at after
      exact ⟨⟨⟨table, rfl⟩, rfl, List.cons_ne_nil _ _⟩, _, rfl, count,
        (congrArg List.length after).trans number, failure, executed⟩

end RowGate
