import RowGate.Proofs.Service.Batch

namespace RowGate

/-!
# Refusals

A request that is refused for what it says has not been executed, with one
exception.  A batch inserts its rows one after the other, and the failure of a
row has the status of its cause; so a batch that stops at a row the planner
refuses is refused as well, although the rows before it have been stored.  No
other call, and no other HTTP request, is refused once a statement has been
executed for it.
-/

/-! ## What a refusal leaves behind -/

section

variable {α β : Type} {memory : Memory} {outcome : Except Failure α × Service Memory}

/-- If the outcome is a refusal, the store is as it was. -/
def Spares (memory : Memory) (outcome : Except Failure α × Service Memory) : Prop :=
  ∀ failure, outcome.1 = .error failure → failure.isValidation = true →
    outcome.2.store = memory

/-- If the outcome is a refusal, the store is as it was but for some added rows,
and there are none unless a row of a batch has failed behind exactly these. -/
def Accounts (memory : Memory) (outcome : Except Failure α × Service Memory) : Prop :=
  ∀ failure, outcome.1 = .error failure → failure.isValidation = true →
    ∃ name stored, outcome.2.store = memory.addRows name stored ∧
      (stored ≠ [] → ∃ cause, failure = .rowFailed stored.length cause)

theorem Spares.of_store_eq (kept : outcome.2.store = memory) : Spares memory outcome :=
  fun _ _ _ => kept

/-- An outcome whose failures are no refusals has nothing to spare. -/
theorem Spares.of_sound
    (sound : ∀ failure, outcome.1 = .error failure → failure.isValidation = false) :
    Spares memory outcome := by
  intro failure failed validation
  rw [sound failure failed] at validation
  cases validation

/-- An outcome that is refused only where another one is, and with the same
store, spares what the other one spares. -/
theorem Spares.of_errors {other : Except Failure β × Service Memory} (spares : Spares memory other)
    (errors : ∀ failure, outcome.1 = .error failure → other.1 = .error failure)
    (store : outcome.2.store = other.2.store) : Spares memory outcome := by
  intro failure failed validation
  rw [store]
  exact spares failure (errors failure failed) validation

theorem Spares.accounts (spares : Spares memory outcome) : Accounts memory outcome := by
  intro failure failed validation
  exact ⟨"", [], spares failure failed validation, fun filled => absurd rfl filled⟩

theorem Accounts.of_store_eq (kept : outcome.2.store = memory) : Accounts memory outcome :=
  (Spares.of_store_eq kept).accounts

end

namespace Answer

theorem result_eq_error {answer : Answer} {failure : Failure} :
    answer.result = .error failure ↔ answer.failure = some failure := by
  unfold result
  cases answer.failure <;> simp

theorem failure_single (answer : Answer) : answer.single.failure = answer.failure := by
  unfold single
  split
  · next failure _ => exact failure.symm
  · next failure _ => exact failure.symm
  · rfl

theorem failure_single_if {narrow : Prop} [Decidable narrow] (answer : Answer) :
    (if narrow then answer.single else answer).failure = answer.failure := by
  split
  · exact answer.failure_single
  · rfl

theorem failure_ofResult {result : Except Failure (List Row)} {failure : Failure}
    (failed : (ofResult result).failure = some failure) : result = .error failure := by
  cases result with
  | ok rows => cases failed
  | error other =>
      cases failed
      rfl

end Answer

namespace Service

variable {service : Service Memory}

/-! ## Statements and reads -/

theorem store_recordAll (service : Service Memory) (events : List Event) :
    (service.recordAll events).store = service.store :=
  rfl

theorem store_newId (service : Service Memory) : service.newId.2.store = service.store :=
  rfl

theorem store_extendAll (service : Service Memory) (handle : Handle) (steps : List ReadStep) :
    (service.extendAll handle steps).2.store = service.store := by
  induction steps generalizing service handle with
  | nil => rfl
  | cons step rest inductionHypothesis =>
      exact inductionHypothesis (service.extend handle step).2 (service.extend handle step).1

/-- A statement that the store has seen is not refused. -/
theorem spares_executePlan (service : Service Memory) (plan : Except Failure Statement) :
    Spares service.store (service.executePlan plan) := by
  cases plan with
  | error failure => exact .of_store_eq rfl
  | ok statement =>
      intro failure failed validation
      rcases execute_eq_error failed with ⟨error, refused, rfl⟩
      rcases Memory.execute_eq_error refused with ⟨execution, _⟩
      rw [execution.isValidation] at validation
      cases validation

theorem spares_perform (service : Service Memory) (request : ReadRequest) (single : Bool) :
    Spares service.store ((service.perform request single).1.result,
      (service.perform request single).2) := by
  have executed := (service.recordAll (readEvents service.catalog request)).spares_executePlan
    (Plan.select service.catalog request)
  rw [store_recordAll] at executed
  unfold perform
  dsimp only
  generalize (service.recordAll (readEvents service.catalog request)).executePlan
    (Plan.select service.catalog request) = outcome at executed ⊢
  refine executed.of_errors ?_ rfl
  intro failure failed
  have reported := Answer.result_eq_error.mp failed
  rw [Answer.failure_single_if] at reported
  cases answered : outcome.1 with
  | error other =>
      rw [answered] at reported
      exact congrArg Except.error (Option.some.inj reported)
  | ok rows =>
      rw [answered] at reported
      dsimp only at reported
      split at reported <;> cases reported

theorem spares_resolve (service : Service Memory) (handle : Handle) :
    Spares service.store ((service.resolve handle).1.result, (service.resolve handle).2) := by
  unfold resolve
  split
  · exact .of_store_eq rfl
  · have performed := service.spares_perform handle.request handle.single
    dsimp only
    generalize service.perform handle.request handle.single = outcome at performed ⊢
    exact performed.of_errors (fun _ failed => failed) rfl

theorem spares_readNow (service : Service Memory) (table : String) (steps : List ReadStep) :
    Spares service.store ((service.readNow table steps).1.result,
      (service.readNow table steps).2) := by
  have described := (service.read table).2.store_extendAll (service.read table).1 steps
  have resolved := ((service.read table).2.extendAll (service.read table).1 steps).2.spares_resolve
    ((service.read table).2.extendAll (service.read table).1 steps).1
  rw [described] at resolved
  exact resolved

/-! ## Writes -/

theorem isValidation_attributed (batch : Bool) (index : Nat) (cause : Failure) :
    (attributed batch index cause).isValidation = cause.isValidation := by
  cases batch <;> rfl

/-- A batch that is refused has stored the rows before the one that it stops
at, and no statement has failed. -/
theorem insertFrom_refused {name : String} {table : Table} {now : Time.Instant} {batch : Bool}
    {rows : List Row} {index : Nat} {inserted : List Row} {failure : Failure}
    (failed : (insertFrom name table now batch rows index inserted service).1.failure =
      some failure) (validation : failure.isValidation = true) :
    ∃ stored cause, stored.length < rows.length ∧
      (insertFrom name table now batch rows index inserted service).2.store =
        service.store.addRows (Text.trim name) stored ∧
      failure = attributed batch (index + stored.length) cause := by
  induction rows generalizing service index inserted with
  | nil => cases failed
  | cons row rest inductionHypothesis =>
      cases answer : (service.insertRow name table now row).1 with
      | ok returned =>
          rcases insertRow_eq_ok answer with ⟨_, _, added, rfl, after⟩
          simp only [insertFrom, answer] at failed ⊢
          rcases inductionHypothesis failed with ⟨stored, cause, short, left, same⟩
          refine ⟨added :: stored, cause, Nat.succ_lt_succ short, ?_, ?_⟩
          · rw [left, after, Memory.addRows_cons]
          · rw [same, List.length_cons, Nat.add_assoc, Nat.add_comm 1]
      | error cause =>
          simp only [insertFrom, answer, store_record] at failed ⊢
          have same : attributed batch index cause = failure := Option.some.inj failed
          rcases insertRow_eq_error answer with ⟨_, sound, _⟩ | ⟨_, left⟩
          · rw [← same, isValidation_attributed, sound] at validation
            cases validation
          · exact ⟨[], cause, Nat.succ_pos _, left, same.symm⟩

theorem accounts_insert (service : Service Memory) (now : Time.Instant) (name : String)
    (rows : List Row) :
    Accounts service.store ((service.insert now name rows).1.result,
      (service.insert now name rows).2) := by
  unfold insert
  split
  · exact .of_store_eq rfl
  · split
    · exact .of_store_eq rfl
    · intro failure failed validation
      rcases insertFrom_refused (Answer.result_eq_error.mp failed) validation
        with ⟨stored, cause, short, left, same⟩
      refine ⟨Text.trim name, stored, left, ?_⟩
      intro filled
      have several : 1 < rows.length := by
        have := List.length_pos_of_ne_nil filled
        omega
      rw [same, Nat.zero_add, decide_eq_true several]
      exact ⟨cause, rfl⟩

theorem accounts_insertJson (service : Service Memory) (now : Time.Instant) (name : String)
    (content : Json) :
    Accounts service.store ((service.insertJson now name content).1.result,
      (service.insertJson now name content).2) := by
  unfold insertJson
  split
  · exact .of_store_eq rfl
  · exact service.accounts_insert now name _

/-- An answer that is made of what a statement returned. -/
theorem spares_ofResult {memory : Memory} {outcome : Except Failure (List Row) × Service Memory}
    (spares : Spares memory outcome) :
    Spares memory ((Answer.ofResult outcome.1).result, outcome.2) :=
  spares.of_errors
    (fun _ failed => Answer.failure_ofResult (Answer.result_eq_error.mp failed)) rfl

theorem spares_update (service : Service Memory) (now : Time.Instant) (name : String)
    (predicates : List Predicate) (content : Json) :
    Spares service.store ((service.update now name predicates content).1.result,
      (service.update now name predicates content).2) := by
  have executed := (service.recordAll
    (writeEvents service.catalog name predicates)).spares_executePlan
      (planUpdate service.catalog now name predicates content)
  rw [store_recordAll] at executed
  unfold update
  dsimp only
  exact spares_ofResult executed

theorem spares_delete (service : Service Memory) (name : String) (predicates : List Predicate) :
    Spares service.store ((service.delete name predicates).1.result,
      (service.delete name predicates).2) := by
  have executed := (service.recordAll
    (writeEvents service.catalog name predicates)).spares_executePlan
      (Plan.delete service.catalog name predicates)
  rw [store_recordAll] at executed
  unfold delete
  dsimp only
  exact spares_ofResult executed

/-! ## Procedures -/

theorem spares_logAuditEvent (service : Service Memory) (now : Time.Instant) (params : Json) :
    Spares service.store (service.logAuditEvent now params) := by
  unfold logAuditEvent
  split
  · exact .of_store_eq rfl
  · next table _ =>
    have executed := service.newId.2.spares_executePlan (Plan.insert service.catalog
      service.auditTable (Procedure.auditRow table service.newId.1 now params))
    rw [store_newId] at executed
    dsimp only
    generalize service.newId.2.executePlan (Plan.insert service.catalog service.auditTable
      (Procedure.auditRow table service.newId.1 now params)) = outcome at executed ⊢
    refine executed.of_errors ?_ rfl
    intro failure failed
    cases answered : outcome.1 with
    | ok rows =>
        rw [answered] at failed
        cases failed
    | error other =>
        rw [answered] at failed
        cases failed
        rfl

theorem spares_call (service : Service Memory) (now : Time.Instant) (name : String)
    (params : Json) :
    Spares service.store ((service.call now name params).1.result,
      (service.call now name params).2) := by
  unfold call
  split
  · have logged := service.spares_logAuditEvent now params
    dsimp only
    generalize service.logAuditEvent now params = outcome at logged ⊢
    rcases outcome with ⟨answer, after⟩
    cases answer with
    | ok id => exact logged.of_errors (fun _ failed => by cases failed) rfl
    | error failure => exact logged.of_errors (fun _ failed => failed) rfl
  · exact .of_store_eq rfl

/-! ## Signing in -/

section

variable {κ : Type} [Auth.KeyStore κ]

theorem persist_eq_error {keys : Option κ} {session : Auth.Session} {failure : Failure}
    (failed : (Auth.persist keys session).1 = .error failure) :
    ∃ message, failure = .session message := by
  unfold Auth.persist at failed
  split at failed
  · cases failed
  · dsimp only at failed
    split at failed
    · cases failed
      exact ⟨_, rfl⟩
    · split at failed
      · cases failed
        exact ⟨_, rfl⟩
      · cases failed

/-- What fails once the password is verified is the local store, which is no
refusal. -/
theorem complete_sound (service : Service Memory) (keys : Option κ) (options : Auth.SessionOptions)
    (now : Time.Instant) (column : String) (user : Row) (failure : Failure)
    (failed : (Auth.complete service keys options now column user).1.failure = some failure) :
    failure.isValidation = false := by
  simp only [Auth.complete] at failed
  split at failed
  · next other kept =>
    cases failed
    rcases persist_eq_error kept with ⟨message, rfl⟩
    rfl
  · cases failed

theorem authenticate_sound (service : Service Memory) (options : Auth.SessionOptions)
    (verify : String → String → Bool) (password : Option String) (column : String)
    (profile : Row) (failure : Failure)
    (failed : (Auth.authenticate service options verify password column profile).1 =
      .error failure) : failure.isValidation = false := by
  unfold Auth.authenticate at failed
  split at failed
  · cases failed
  · split at failed
    · cases failed
    · cases failed
      rfl

theorem spares_signIn (service : Service Memory) (keys : Option κ) (options : Auth.SessionOptions)
    (verify : String → String → Bool) (now : Time.Instant) (credentials : Auth.Credentials) :
    Spares service.store ((Auth.signIn service keys options verify now credentials).1.result,
      (Auth.signIn service keys options verify now credentials).2.1) := by
  unfold Auth.signIn
  cases credentials.lookup with
  | error failure => exact .of_store_eq rfl
  | ok pair =>
      rcases pair with ⟨column, value⟩
      have looked := service.spares_readNow options.profilesTable (Auth.lookupSteps column value)
      dsimp only
      generalize service.readNow options.profilesTable (Auth.lookupSteps column value) = found
        at looked ⊢
      cases answered : found.1.result with
      | error failure =>
          rw [answered] at looked
          exact looked
      | ok data =>
          dsimp only
          cases Row.ofJson? data with
          | none =>
              refine .of_sound ?_
              intro failure failed
              cases failed
              rfl
          | some profile =>
              have denied := authenticate_sound found.2 options verify credentials.password column
                profile
              dsimp only
              generalize Auth.authenticate found.2 options verify credentials.password column
                profile = admitted at denied ⊢
              cases verdict : admitted.1 with
              | error other =>
                  refine .of_sound ?_
                  intro failure failed
                  cases failed
                  exact denied other verdict
              | ok user =>
                  refine .of_sound ?_
                  intro failure failed
                  exact complete_sound admitted.2 keys options now column user failure
                    (Answer.result_eq_error.mp failed)

end

end Service

/-! ## HTTP requests -/

namespace Http

theorem accounts_dispatch (service : Service Memory) (now : Time.Instant) (method table : String)
    (pairs : List (String × String)) (body : List UInt8) :
    Accounts service.store (dispatch service now method table pairs body) := by
  unfold dispatch
  split
  · exact .of_store_eq rfl
  · split
    · split
      · exact .of_store_eq rfl
      · exact (service.spares_readNow table _).accounts
    · split
      · split
        · exact .of_store_eq rfl
        · next content _ =>
          intro failure failed validation
          have reported := Answer.result_eq_error.mp failed
          unfold narrowed at reported
          rw [Answer.failure_single_if] at reported
          exact service.accounts_insertJson now table content failure
            (Answer.result_eq_error.mpr reported) validation
      · split
        · split
          · exact .of_store_eq rfl
          · exact .of_store_eq rfl
          · exact (service.spares_update now table _ _).accounts
        · split
          · split
            · exact .of_store_eq rfl
            · exact (service.spares_delete table _).accounts
          · exact .of_store_eq rfl

/-- The response is the report of a failure. -/
def Response.Reports (response : Response) (failure : Failure) : Prop :=
  response.status = failure.status ∧ response.body = (failureBody failure).render

/-- If the response is a refusal, the store is as it was but for some added
rows, and there are none unless it reports a row that has failed behind exactly
these. -/
def AccountsFor (memory : Memory) (outcome : Response × Service Memory) : Prop :=
  outcome.1.status = 400 →
    ∃ name stored, outcome.2.store = memory.addRows name stored ∧
      (stored ≠ [] → ∃ cause, outcome.1.Reports (.rowFailed stored.length cause))

theorem AccountsFor.of_store_eq {memory : Memory} {outcome : Response × Service Memory}
    (kept : outcome.2.store = memory) : AccountsFor memory outcome :=
  fun _ => ⟨"", [], kept, fun filled => absurd rfl filled⟩

theorem AccountsFor.withHeaders {memory : Memory} {outcome : Response × Service Memory}
    (accounts : AccountsFor memory outcome) (headers : List (String × String)) :
    AccountsFor memory (outcome.1.withHeaders headers, outcome.2) :=
  accounts

theorem reports_failureResponse (failure : Failure) :
    (failureResponse failure).Reports failure := by
  unfold failureResponse
  split <;> exact ⟨rfl, rfl⟩

theorem accountsFor_refuse {memory : Memory} {service : Service Memory} {failure : Failure}
    (accounts : Accounts memory ((.error failure : Except Failure Json), service))
    (method target : String) : AccountsFor memory (refuse service method target failure) := by
  intro refused
  have reported := reports_failureResponse failure
  have validation : failure.isValidation = true :=
    beq_iff_eq.mpr (reported.1.symm.trans refused)
  rcases accounts failure rfl validation with ⟨name, stored, left, row⟩
  refine ⟨name, stored, (store_noteFailure service method target failure).trans left, ?_⟩
  intro filled
  rcases row filled with ⟨cause, rfl⟩
  exact ⟨cause, reported⟩

theorem accountsFor_answerTable (service : Service Memory) (now : Time.Instant) (request : Request)
    (segment query : List Char) :
    AccountsFor service.store (answerTable service now request segment query) := by
  unfold answerTable
  split
  · exact .of_store_eq rfl
  · next table _ =>
    split
    · exact .of_store_eq rfl
    · have dispatched := accounts_dispatch service now request.method table
        (Text.Percent.pairs query) request.body
      dsimp only
      generalize dispatch service now request.method table (Text.Percent.pairs query) request.body =
        outcome at dispatched ⊢
      rcases outcome with ⟨answer, after⟩
      cases answer with
      | ok data =>
          intro refused
          cases refused
      | error failure => exact accountsFor_refuse dispatched request.method table

theorem spares_callWith (service : Service Memory) (now : Time.Instant) (name : String)
    (body : List UInt8) :
    Spares service.store ((callWith service now name body).1.result,
      (callWith service now name body).2) := by
  unfold callWith
  split
  · exact .of_store_eq rfl
  · exact service.spares_call now name _

theorem accountsFor_answerProcedure (service : Service Memory) (now : Time.Instant)
    (request : Request) (segment : List Char) :
    AccountsFor service.store (answerProcedure service now request segment) := by
  unfold answerProcedure
  split
  · exact .of_store_eq rfl
  · next name _ =>
    split
    · exact .of_store_eq rfl
    · have called := spares_callWith service now name request.body
      dsimp only
      generalize callWith service now name request.body = outcome at called ⊢
      cases answered : outcome.1.failure with
      | none =>
          intro refused
          cases refused
      | some failure =>
          intro refused
          have validation : failure.isValidation = true := beq_iff_eq.mpr refused
          have kept := called failure (Answer.result_eq_error.mpr answered) validation
          exact AccountsFor.of_store_eq
            ((store_noteFailure outcome.2 "POST" name failure).trans kept) refused

theorem accountsFor_answerRoute (service : Service Memory) (now : Time.Instant)
    (request : Request) (route : Route) (query : List Char) :
    AccountsFor service.store (answerRoute service now request route query) := by
  cases route with
  | health =>
      refine .of_store_eq ?_
      simp only [answerRoute]
      split
      · rfl
      · split <;> rfl
  | noTable => exact .of_store_eq (store_noteFailure service request.method "" .missingTable)
  | procedure segment =>
      simp only [answerRoute]
      split
      · exact accountsFor_answerProcedure service now request segment
      · exact .of_store_eq rfl
  | table segment => exact accountsFor_answerTable service now request segment query
  | unknown => exact .of_store_eq rfl

theorem accountsFor_answer (service : Service Memory) (now : Time.Instant) (cors : Cors)
    (request : Request) : AccountsFor service.store (answer service now cors request) := by
  unfold answer
  dsimp only
  split
  · exact .of_store_eq rfl
  · exact (accountsFor_answerRoute service now request _ _).withHeaders _

end Http

/-! ## The main statement -/

variable {κ : Type}

namespace Call.Reply

/-- The reply says that the request itself is at fault. -/
def isRefusal : Reply κ → Bool
  | .answer given | .session given _ => given.failure.any Failure.isValidation
  | .response given => given.status == 400
  | .handle _ | .closed => false

/-- The reply gives this failure. -/
def Reports (failure : Failure) : Reply κ → Prop
  | .answer given | .session given _ => given.failure = some failure
  | .response given => given.Reports failure
  | .handle _ | .closed => False

end Call.Reply

/-- An answer that is a refusal accounts for the store by its failure. -/
theorem Accounts.of_answer {memory : Memory} {answer : Answer} {after : Service Memory}
    (accounts : Accounts memory (answer.result, after))
    (refused : answer.failure.any Failure.isValidation = true) :
    ∃ name stored, after.store = memory.addRows name stored ∧
      (stored ≠ [] → ∃ cause, answer.failure = some (.rowFailed stored.length cause)) := by
  cases reported : answer.failure with
  | none =>
      rw [reported] at refused
      cases refused
  | some failure =>
      rw [reported] at refused
      rcases accounts failure (Answer.result_eq_error.mpr reported) refused
        with ⟨name, stored, left, row⟩
      refine ⟨name, stored, left, ?_⟩
      intro filled
      rcases row filled with ⟨cause, rfl⟩
      exact ⟨cause, rfl⟩

theorem serve_refused [Auth.KeyStore κ] {service : Service Memory} {now : Time.Instant}
    {call : Call κ} (refused : (service.serve now call).1.isRefusal = true) :
    ∃ name stored, (service.serve now call).2.store = service.store.addRows name stored ∧
      (stored ≠ [] →
        ∃ cause, (service.serve now call).1.Reports (.rowFailed stored.length cause)) := by
  cases call with
  | insert table content =>
      exact (service.accounts_insertJson now table content).of_answer refused
  | update table predicates content =>
      dsimp only [Service.serve] at refused ⊢
      exact (service.spares_update now table predicates content).accounts.of_answer refused
  | delete table predicates =>
      dsimp only [Service.serve] at refused ⊢
      exact (service.spares_delete table predicates).accounts.of_answer refused
  | procedure name params =>
      exact (service.spares_call now name params).accounts.of_answer refused
  | describe table steps => cases refused
  | extend handle steps => cases refused
  | resolve handle => exact (service.spares_resolve handle).accounts.of_answer refused
  | signIn keys options verify credentials =>
      exact (service.spares_signIn keys options verify now credentials).accounts.of_answer refused
  | http cors request =>
      dsimp only [Service.serve] at refused ⊢
      exact Http.accountsFor_answer service now cors request (beq_iff_eq.mp refused)
  | close => cases refused

/-- What a refused call leaves behind is the store as it was, but for the rows
of a batch before the one that is refused, each of them stored by a statement.
In all other cases no statement has been executed and no table has changed. -/
theorem refusal_keeps_first_rows [Auth.KeyStore κ] (service : Service Memory) (now : Time.Instant)
    (call : Call κ) (refused : (service.serve now call).1.isRefusal = true) :
    ∃ name stored,
      (∀ wanted, (service.serve now call).2.store.rows wanted =
        service.store.rows wanted ++ if wanted = name then stored else []) ∧
      (service.serve now call).2.store.executed = service.store.executed + stored.length ∧
      (stored ≠ [] →
        ∃ cause, (service.serve now call).1.Reports (.rowFailed stored.length cause)) := by
  rcases serve_refused refused with ⟨name, stored, left, row⟩
  rw [left]
  exact ⟨name, stored, fun wanted => service.store.rows_addRows name wanted stored,
    service.store.executed_addRows name stored, row⟩

/-- A batch whose second row has a text for its rank. -/
def Call.halfSound : Call Auth.MemoryKeys :=
  .insert "items" (.array [.object [("id", .string "a")],
    .object [("id", .string "b"), ("rank", .string "many")]])

theorem isRefusal_halfSound :
    (Service.ofItems.serve (.ofMillis 0) Call.halfSound).1.isRefusal = true := by
  decide +kernel

theorem executed_halfSound :
    (Service.ofItems.serve (.ofMillis 0) Call.halfSound).2.store.executed = 1 := by
  decide +kernel

/-- The batch is refused for its second row, and the first one has been
stored. -/
theorem halfSound_keeps_row :
    let served := Service.ofItems.serve (.ofMillis 0) Call.halfSound
    served.1.isRefusal = true ∧ ∃ name stored,
      (∀ wanted, served.2.store.rows wanted =
        Service.ofItems.store.rows wanted ++ if wanted = name then stored else []) ∧
      stored.length = 1 ∧ ∃ cause, served.1.Reports (.rowFailed 1 cause) := by
  have fresh : Service.ofItems.store.executed = 0 := rfl
  rcases refusal_keeps_first_rows Service.ofItems (.ofMillis 0) Call.halfSound isRefusal_halfSound
    with ⟨name, stored, rows, counted, row⟩
  have one : stored.length = 1 := by
    rw [executed_halfSound] at counted
    omega
  rw [one] at row
  exact ⟨isRefusal_halfSound, name, stored, rows, one, row (List.ne_nil_of_length_pos (by omega))⟩

/-- Refusals do not spare the store: the batch is refused after one of its
statements has been executed. -/
theorem refusals_run_statements :
    ¬ ∀ (service : Service Memory) (now : Time.Instant) (call : Call Auth.MemoryKeys),
      (service.serve now call).1.isRefusal = true →
        (service.serve now call).2.store.executed = service.store.executed ∧
          ∀ wanted, (service.serve now call).2.store.rows wanted = service.store.rows wanted := by
  intro spares
  have unchanged := (spares Service.ofItems (.ofMillis 0) Call.halfSound isRefusal_halfSound).1
  rw [executed_halfSound] at unchanged
  cases unchanged

end RowGate
