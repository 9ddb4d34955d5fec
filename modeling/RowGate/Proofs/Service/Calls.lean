import RowGate.Proofs.Service.Simulation

namespace RowGate

/-!
# Calls and runs

Everything that a caller can do with a service is one of the calls below, made
at some reading of the clock: the operations on tables, the building and
resolving of reads, procedures, signing in, HTTP requests and closing.  A run is
a list of calls.  Handles are values, and a call may use any of them in any
order, also several times.

The main statement is that linked services stay linked along every run, and
reply alike.
-/

/-- A call to a service; `κ` is the state of the local store of a caller. -/
inductive Call (κ : Type) where
  | insert (table : String) (content : Json)
  | update (table : String) (predicates : List Predicate) (content : Json)
  | delete (table : String) (predicates : List Predicate)
  | procedure (name : String) (params : Json)
  /-- Describe a read of a table. -/
  | describe (table : String) (steps : List ReadStep)
  /-- Take the description of a read further, from a copy of its handle. -/
  | extend (handle : Handle) (steps : List ReadStep)
  | resolve (handle : Handle)
  | signIn (keys : Option κ) (options : Auth.SessionOptions) (verify : String → String → Bool)
      (credentials : Auth.Credentials)
  | http (cors : Http.Cors) (request : Http.Request)
  | close

/-- What a caller gets back. -/
inductive Call.Reply (κ : Type) where
  | answer (answer : Answer)
  | handle (handle : Handle)
  | session (answer : Answer) (keys : Option κ)
  | response (response : Http.Response)
  | closed

namespace Service

variable {σ τ κ : Type}

/-- Carry out a call. -/
def serve [Store σ] [Auth.KeyStore κ] (service : Service σ) (now : Time.Instant) :
    Call κ → Call.Reply κ × Service σ
  | .insert table content =>
      let result := service.insertJson now table content
      (.answer result.1, result.2)
  | .update table predicates content =>
      let result := service.update now table predicates content
      (.answer result.1, result.2)
  | .delete table predicates =>
      let result := service.delete table predicates
      (.answer result.1, result.2)
  | .procedure name params =>
      let result := service.call now name params
      (.answer result.1, result.2)
  | .describe table steps =>
      let opened := service.read table
      let result := opened.2.extendAll opened.1 steps
      (.handle result.1, result.2)
  | .extend handle steps =>
      let result := service.extendAll handle steps
      (.handle result.1, result.2)
  | .resolve handle =>
      let result := service.resolve handle
      (.answer result.1, result.2)
  | .signIn keys options verify credentials =>
      let result := Auth.signIn service keys options verify now credentials
      (.session result.1 result.2.2, result.2.1)
  | .http cors request =>
      let result := Http.answer service now cors request
      (.response result.1, result.2)
  | .close => (.closed, service.close)

/-- Carry out calls one after the other. -/
def serveAll [Store σ] [Auth.KeyStore κ] (service : Service σ) :
    List (Time.Instant × Call κ) → List (Call.Reply κ) × Service σ
  | [] => ([], service)
  | (now, call) :: rest =>
      let served := service.serve now call
      let others := served.2.serveAll rest
      (served.1 :: others.1, others.2)

end Service

variable {σ τ κ : Type} {catalog : Catalog} {R : σ → τ → Prop}
  {first : Service σ} {second : Service τ}

/-! ## Signing in -/

namespace Service

theorem Linked.authenticate (linked : Linked catalog R first second)
    (options : Auth.SessionOptions) (verify : String → String → Bool) (password : Option String)
    (column : String) (profile : Row) :
    Agree catalog R (Auth.authenticate first options verify password column profile)
      (Auth.authenticate second options verify password column profile) := by
  unfold Auth.authenticate
  split
  · exact ⟨rfl, linked.record _⟩
  · split
    · exact ⟨rfl, linked⟩
    · exact ⟨rfl, linked⟩

variable [Auth.KeyStore κ]

/-- Two outcomes of a sign-in with one answer and one local store, and with
services that are linked. -/
def AgreeOnSession (catalog : Catalog) (R : σ → τ → Prop)
    (outcome : Answer × Service σ × Option κ) (other : Answer × Service τ × Option κ) : Prop :=
  outcome.1 = other.1 ∧ Linked catalog R outcome.2.1 other.2.1 ∧ outcome.2.2 = other.2.2

theorem Linked.keepSession (linked : Linked catalog R first second) (keys : Option κ)
    (options : Auth.SessionOptions) (now : Time.Instant) (column : String) (user : Row) :
    AgreeOnSession catalog R (Auth.complete first keys options now column user)
      (Auth.complete second keys options now column user) := by
  simp only [Auth.complete, Auth.openSession]
  rw [← linked.random]
  have opened : Linked catalog R { first with random := (Auth.newToken first.random).2 }
      { second with random := (Auth.newToken first.random).2 } :=
    { linked with random := rfl }
  split
  · exact ⟨rfl, opened, rfl⟩
  · exact ⟨rfl, opened.record _, rfl⟩

theorem Linked.signIn [Store σ] [Store τ] (simulation : Simulation catalog R)
    (linked : Linked catalog R first second) (keys : Option κ) (options : Auth.SessionOptions)
    (verify : String → String → Bool) (now : Time.Instant) (credentials : Auth.Credentials) :
    AgreeOnSession catalog R (Auth.signIn first keys options verify now credentials)
      (Auth.signIn second keys options verify now credentials) := by
  unfold Auth.signIn
  cases credentials.lookup with
  | error failure => exact ⟨rfl, linked, rfl⟩
  | ok pair =>
      rcases pair with ⟨column, value⟩
      have found := linked.readNow simulation options.profilesTable
        (Auth.lookupSteps column value)
      dsimp only
      generalize first.readNow options.profilesTable (Auth.lookupSteps column value) = outcome
        at found ⊢
      generalize second.readNow options.profilesTable (Auth.lookupSteps column value) = other
        at found ⊢
      rcases found with ⟨same, after⟩
      rw [← same]
      cases outcome.1.result with
      | error failure => exact ⟨rfl, after, rfl⟩
      | ok data =>
          dsimp only
          cases Row.ofJson? data with
          | none => exact ⟨rfl, after, rfl⟩
          | some profile =>
              have admitted := after.authenticate options verify credentials.password column profile
              dsimp only
              generalize Auth.authenticate outcome.2 options verify credentials.password column
                profile = verdict at admitted ⊢
              generalize Auth.authenticate other.2 options verify credentials.password column
                profile = sibling at admitted ⊢
              rcases admitted with ⟨same, after⟩
              rw [← same]
              cases verdict.1 with
              | error failure => exact ⟨rfl, after, rfl⟩
              | ok user => exact after.keepSession keys options now column user

end Service

/-! ## HTTP requests -/

namespace Http

open Service

theorem noteFailure_linked (linked : Linked catalog R first second) (method target : String)
    (failure : Failure) :
    Linked catalog R (noteFailure first method target failure)
      (noteFailure second method target failure) := by
  unfold noteFailure
  split
  · exact linked.record _
  · exact linked

variable [Store σ] [Store τ]

theorem dispatch_agree (simulation : Simulation catalog R) (linked : Linked catalog R first second)
    (now : Time.Instant) (method table : String) (pairs : List (String × String))
    (body : List UInt8) :
    Agree catalog R (dispatch first now method table pairs body)
      (dispatch second now method table pairs body) := by
  unfold dispatch
  split
  · exact ⟨rfl, linked⟩
  · split
    · cases Parameters.read method pairs with
      | error failure => exact ⟨rfl, linked⟩
      | ok parameters =>
          have answered := linked.readNow simulation table (readSteps parameters)
          exact answered.map Answer.result
    · split
      · cases bodyValue body with
        | error failure => exact ⟨rfl, linked⟩
        | ok content =>
            have answered := linked.insertJson simulation now table content
            exact answered.map fun answer => (narrowed answer).result
      · split
        · cases Parameters.read method pairs with
          | error failure => exact ⟨rfl, linked⟩
          | ok parameters =>
              cases bodyValue body with
              | error failure => exact ⟨rfl, linked⟩
              | ok content =>
                  have answered := linked.update simulation now table parameters.predicates content
                  exact answered.map Answer.result
        · split
          · cases Parameters.read method pairs with
            | error failure => exact ⟨rfl, linked⟩
            | ok parameters =>
                have answered := linked.delete simulation table parameters.predicates
                exact answered.map Answer.result
          · exact ⟨rfl, linked⟩

theorem answerTable_agree (simulation : Simulation catalog R)
    (linked : Linked catalog R first second) (now : Time.Instant) (request : Request)
    (segment query : List Char) :
    Agree catalog R (answerTable first now request segment query)
      (answerTable second now request segment query) := by
  unfold answerTable
  cases Target.segment? segment with
  | none => exact ⟨rfl, linked⟩
  | some table =>
      dsimp only
      split
      · exact ⟨rfl, linked⟩
      · have dispatched := dispatch_agree simulation linked now request.method table
          (Text.Percent.pairs query) request.body
        generalize dispatch first now request.method table (Text.Percent.pairs query) request.body =
          outcome at dispatched ⊢
        generalize dispatch second now request.method table (Text.Percent.pairs query) request.body =
          other at dispatched ⊢
        rcases dispatched with ⟨same, after⟩
        rw [← same]
        cases outcome.1 with
        | ok data => exact ⟨rfl, after⟩
        | error failure => exact ⟨rfl, noteFailure_linked after request.method table failure⟩

theorem callWith_agree (simulation : Simulation catalog R) (linked : Linked catalog R first second)
    (now : Time.Instant) (name : String) (body : List UInt8) :
    Agree catalog R (callWith first now name body) (callWith second now name body) := by
  unfold callWith
  cases bodyValue body with
  | error failure => exact ⟨rfl, linked⟩
  | ok params => exact linked.call simulation now name params

theorem answerProcedure_agree (simulation : Simulation catalog R)
    (linked : Linked catalog R first second) (now : Time.Instant) (request : Request)
    (segment : List Char) :
    Agree catalog R (answerProcedure first now request segment)
      (answerProcedure second now request segment) := by
  unfold answerProcedure
  cases Target.segment? segment with
  | none => exact ⟨rfl, linked⟩
  | some name =>
      dsimp only
      split
      · exact ⟨rfl, linked⟩
      · have called := callWith_agree simulation linked now name request.body
        generalize callWith first now name request.body = outcome at called ⊢
        generalize callWith second now name request.body = other at called ⊢
        rcases called with ⟨same, after⟩
        rw [← same]
        cases outcome.1.failure with
        | none => exact ⟨rfl, after⟩
        | some failure => exact ⟨rfl, noteFailure_linked after "POST" name failure⟩

theorem answerRoute_agree (simulation : Simulation catalog R)
    (linked : Linked catalog R first second) (now : Time.Instant) (request : Request)
    (route : Route) (query : List Char) :
    Agree catalog R (answerRoute first now request route query)
      (answerRoute second now request route query) := by
  cases route with
  | health =>
      simp only [answerRoute]
      split
      · exact ⟨rfl, linked⟩
      · split
        · exact ⟨rfl, linked⟩
        · exact ⟨rfl, linked⟩
  | noTable => exact ⟨rfl, noteFailure_linked linked request.method "" .missingTable⟩
  | procedure segment =>
      simp only [answerRoute]
      split
      · exact answerProcedure_agree simulation linked now request segment
      · exact ⟨rfl, linked⟩
  | table segment => exact answerTable_agree simulation linked now request segment query
  | unknown => exact ⟨rfl, linked⟩

theorem answer_agree (simulation : Simulation catalog R) (linked : Linked catalog R first second)
    (now : Time.Instant) (cors : Cors) (request : Request) :
    Agree catalog R (answer first now cors request) (answer second now cors request) := by
  unfold answer
  dsimp only
  split
  · exact ⟨rfl, linked⟩
  · have routed := answerRoute_agree simulation linked now request
      (Route.ofPath (Target.parts request.target).1) (Target.parts request.target).2
    have answered := routed.map fun response => response.withHeaders (cors.headers request)
    exact answered

end Http

/-! ## Runs -/

namespace Service

variable [Store σ] [Store τ] [Auth.KeyStore κ]

/-- One call keeps services linked, and is replied to alike. -/
theorem Linked.serve (simulation : Simulation catalog R) (linked : Linked catalog R first second)
    (now : Time.Instant) (call : Call κ) :
    Agree catalog R (first.serve now call) (second.serve now call) := by
  cases call with
  | insert table content =>
      have answered := linked.insertJson simulation now table content
      exact answered.map Call.Reply.answer
  | update table predicates content =>
      have answered := linked.update simulation now table predicates content
      exact answered.map Call.Reply.answer
  | delete table predicates =>
      have answered := linked.delete simulation table predicates
      exact answered.map Call.Reply.answer
  | procedure name params =>
      have answered := linked.call simulation now name params
      exact answered.map Call.Reply.answer
  | describe table steps =>
      have opened := linked.newHandle (.ofTable table) false
      have described := opened.2.extendAll (first.newHandle (.ofTable table) false).1 steps
      have shown := described.map fun handle => (Call.Reply.handle handle : Call.Reply κ)
      simp only [Service.serve, Service.read]
      rw [← opened.1]
      exact shown
  | extend handle steps =>
      have described := linked.extendAll handle steps
      exact described.map Call.Reply.handle
  | resolve handle =>
      have answered := linked.resolve simulation handle
      exact answered.map Call.Reply.answer
  | signIn keys options verify credentials =>
      have signed := linked.signIn simulation keys options verify now credentials
      refine ⟨?_, signed.2.1⟩
      simp only [Service.serve]
      rw [signed.1, signed.2.2]
  | http cors request =>
      have answered := Http.answer_agree simulation linked now cors request
      exact answered.map Call.Reply.response
  | close => exact ⟨rfl, linked.close simulation⟩

/-- Linked services stay linked along a run, and reply alike to every call. -/
theorem Linked.serveAll (simulation : Simulation catalog R)
    (linked : Linked catalog R first second) (calls : List (Time.Instant × Call κ)) :
    Agree catalog R (first.serveAll calls) (second.serveAll calls) := by
  induction calls generalizing first second with
  | nil => exact ⟨rfl, linked⟩
  | cons entry rest inductionHypothesis =>
      rcases entry with ⟨now, call⟩
      have served := linked.serve simulation now call
      have others := inductionHypothesis served.2
      simp only [Service.serveAll]
      exact ⟨by rw [served.1, others.1], others.2⟩

/-- What the statements of the planner and closing preserve holds of the store
after every run: the store is linked to itself as long as it holds. -/
theorem invariant_serveAll {P : σ → Prop} {service : Service σ}
    (executes : ∀ store statement, P store → Plan.Issues service.catalog statement →
      P (Store.execute store statement).2)
    (closes : ∀ store, P store → P (Store.close store).2) (holds : P service.store)
    (calls : List (Time.Instant × Call κ)) : P (service.serveAll calls).2.store := by
  have simulation : Simulation service.catalog fun first second : σ => first = second ∧ P first := by
    constructor
    case name => rfl
    case execute =>
      rintro first _ statement ⟨rfl, before⟩ issued
      exact ⟨rfl, rfl, executes first statement before issued⟩
    case close =>
      rintro first _ ⟨rfl, before⟩
      exact ⟨rfl, rfl, closes first before⟩
  have linked : Linked service.catalog (fun first second : σ => first = second ∧ P first)
      service service :=
    ⟨⟨rfl, holds⟩, rfl, rfl, rfl, rfl, rfl, rfl⟩
  have run := linked.serveAll simulation calls
  rw [← run.2.store.1]
  exact run.2.store.2

end Service
end RowGate
