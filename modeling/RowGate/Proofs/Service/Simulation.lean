import RowGate.Http.Router
import RowGate.Auth.Session
import RowGate.Proofs.Plan.Request

namespace RowGate

/-!
# Services over related stores

A service never looks into its store: it executes the statements of the planner,
closes the store, and goes by the answers.  So two services that agree in all
but their stores give the same answers and go on agreeing, as long as the stores
answer alike to the statements that the planner makes for the catalog.

The relation of the stores is a parameter.  A store beside itself, related where
an invariant holds, gives the invariants of every run; a store beside a second
one that keeps more gives what the second one has kept.  One lemma for each
operation is enough for both.
-/

namespace Plan

/-- A request as a service makes it: updates are stamped with a clock
reading. -/
def Request.IsClocked : Request → Prop
  | .update _ _ _ stamp => ∃ now : Time.Instant, stamp = some now.text
  | .read _ | .insert _ _ | .delete _ _ => True

/-- The statement is what the planner makes of a request of a service. -/
def Issues (catalog : Catalog) (statement : Statement) : Prop :=
  ∃ request : Request, request.IsClocked ∧ request.plan catalog = .ok statement

end Plan

variable {σ τ : Type}

/-- Related stores answer alike to the statements of the planner, and stay
related; and closing them is noted alike. -/
structure Simulation [Store σ] [Store τ] (catalog : Catalog) (R : σ → τ → Prop) : Prop where
  name : Store.name σ = Store.name τ
  execute : ∀ {first : σ} {second : τ} {statement : Statement},
    R first second → Plan.Issues catalog statement →
      (Store.execute first statement).1 = (Store.execute second statement).1 ∧
        R (Store.execute first statement).2 (Store.execute second statement).2
  close : ∀ {first : σ} {second : τ}, R first second →
    (Store.close first).1 = (Store.close second).1 ∧ R (Store.close first).2 (Store.close second).2

namespace Service

/-! ## Statements that services make -/

theorem issues_select {catalog : Catalog} {request : ReadRequest} {statement : Statement}
    (planned : Plan.select catalog request = .ok statement) : Plan.Issues catalog statement :=
  ⟨.read request, trivial, planned⟩

/-- Content of the wrong shape changes which failure is reported, not which
statement is made. -/
theorem reportShape_eq_ok {malformed : Option Failure} {plan : Except Failure Statement}
    {statement : Statement} (reported : reportShape malformed plan = .ok statement) :
    plan = .ok statement := by
  unfold reportShape at reported
  split at reported
  · cases reported
  · exact reported

theorem issues_planUpdate {catalog : Catalog} {now : Time.Instant} {name : String}
    {predicates : List Predicate} {content : Json} {statement : Statement}
    (planned : planUpdate catalog now name predicates content = .ok statement) :
    Plan.Issues catalog statement := by
  simp only [planUpdate] at planned
  exact ⟨.update name predicates (patchOf content).1 (some now.text), ⟨now, rfl⟩,
    reportShape_eq_ok planned⟩

/-! ## Linked services -/

/-- Two services with one catalog that agree in all but their stores, which are
related. -/
structure Linked (catalog : Catalog) (R : σ → τ → Prop) (first : Service σ) (second : Service τ) :
    Prop where
  store : R first.store second.store
  firstCatalog : first.catalog = catalog
  secondCatalog : second.catalog = catalog
  auditTable : first.auditTable = second.auditTable
  journal : first.journal = second.journal
  random : first.random = second.random
  slots : first.slots = second.slots

/-- Two outcomes with one answer, and with services that are linked. -/
def Agree {α : Type} (catalog : Catalog) (R : σ → τ → Prop) (first : α × Service σ)
    (second : α × Service τ) : Prop :=
  first.1 = second.1 ∧ Linked catalog R first.2 second.2

variable {catalog : Catalog} {R : σ → τ → Prop} {first : Service σ} {second : Service τ}

/-- Answers that are made of one answer in one way agree. -/
theorem Agree.map {α β : Type} {outcome : α × Service σ} {other : α × Service τ}
    (agree : Agree catalog R outcome other) (f : α → β) :
    Agree catalog R (f outcome.1, outcome.2) (f other.1, other.2) :=
  ⟨congrArg f agree.1, agree.2⟩

/-- An answer may be put into a slot on both sides. -/
theorem Agree.keep {outcome : Answer × Service σ} {other : Answer × Service τ}
    (agree : Agree catalog R outcome other) (slot : Nat) :
    Agree catalog R
      (outcome.1, { outcome.2 with slots := outcome.2.slots.set slot (some outcome.1) })
      (other.1, { other.2 with slots := other.2.slots.set slot (some other.1) }) := by
  rcases agree with ⟨same, linked⟩
  rw [← same, ← linked.slots]
  exact ⟨rfl, { linked with slots := rfl }⟩

/-! ## Operations that leave the store alone -/

theorem Linked.record (linked : Linked catalog R first second) (event : Event) :
    Linked catalog R (first.record event) (second.record event) :=
  { linked with journal := congrArg (Journal.record · event) linked.journal }

theorem Linked.recordAll (linked : Linked catalog R first second) (events : List Event) :
    Linked catalog R (first.recordAll events) (second.recordAll events) :=
  { linked with journal := congrArg (Journal.recordAll · events) linked.journal }

theorem Linked.newId (linked : Linked catalog R first second) :
    Agree catalog R first.newId second.newId := by
  unfold Service.newId
  rw [linked.random]
  exact ⟨rfl, { linked with random := rfl }⟩

theorem Linked.newHandle (linked : Linked catalog R first second) (request : ReadRequest)
    (single : Bool) :
    Agree catalog R (first.newHandle request single) (second.newHandle request single) := by
  unfold Service.newHandle
  rw [linked.slots]
  exact ⟨rfl, { linked with slots := rfl }⟩

theorem Linked.extendAll (linked : Linked catalog R first second) (handle : Handle)
    (steps : List ReadStep) :
    Agree catalog R (first.extendAll handle steps) (second.extendAll handle steps) := by
  induction steps generalizing first second handle with
  | nil => exact ⟨rfl, linked⟩
  | cons step rest inductionHypothesis =>
      have extended := linked.newHandle (step.apply handle.request) (handle.single || step.narrows)
      have described := inductionHypothesis extended.2 (first.extend handle step).1
      unfold Service.extendAll
      change Agree catalog R _ ((second.extend handle step).2.extendAll
        (second.extend handle step).1 rest)
      rw [show (second.extend handle step).1 = (first.extend handle step).1 from extended.1.symm]
      exact described

theorem Linked.complete (linked : Linked catalog R first second) (table : Table)
    (now : Time.Instant) (row : Row) :
    Agree catalog R (first.complete table now row) (second.complete table now row) := by
  have drawn := linked.newId
  simp only [Service.complete, Service.fillKey]
  split
  · have filled := drawn.map fun id =>
      stampTimes table now (row.insert SystemColumn.id (.string id.text))
    exact filled
  · exact ⟨rfl, linked⟩

/-! ## Operations that execute statements -/

section

variable [Store σ] [Store τ] (simulation : Simulation catalog R)

include simulation

theorem Linked.execute (linked : Linked catalog R first second) {statement : Statement}
    (issued : Plan.Issues catalog statement) :
    Agree catalog R (first.execute statement) (second.execute statement) := by
  rcases simulation.execute linked.store issued with ⟨same, related⟩
  have after : Linked catalog R
      { first with store := (Store.execute first.store statement).2 }
      { second with store := (Store.execute second.store statement).2 } :=
    { linked with store := related }
  simp only [Service.execute]
  rw [← same]
  cases (Store.execute first.store statement).1 with
  | error error => exact ⟨rfl, after⟩
  | ok rows =>
      refine ⟨rfl, ?_⟩
      have event : executedEvent τ statement rows = executedEvent σ statement rows := by
        unfold executedEvent
        rw [simulation.name]
      change Linked catalog R _ (Service.record _ (executedEvent τ statement rows))
      rw [event]
      exact after.record _

theorem Linked.executePlan (linked : Linked catalog R first second)
    (plan : Except Failure Statement)
    (issued : ∀ statement, plan = .ok statement → Plan.Issues catalog statement) :
    Agree catalog R (first.executePlan plan) (second.executePlan plan) := by
  cases plan with
  | error failure => exact ⟨rfl, linked⟩
  | ok statement => exact linked.execute simulation (issued statement rfl)

theorem Linked.close (linked : Linked catalog R first second) :
    Linked catalog R first.close second.close := by
  rcases simulation.close linked.store with ⟨same, related⟩
  simp only [Service.close]
  rw [same, linked.journal]
  exact { linked with store := related, journal := rfl }

/-! ## Reads -/

theorem Linked.perform (linked : Linked catalog R first second) (request : ReadRequest)
    (single : Bool) :
    Agree catalog R (first.perform request single) (second.perform request single) := by
  simp only [Service.perform]
  rw [linked.firstCatalog, linked.secondCatalog]
  have executed := (linked.recordAll (readEvents catalog request)).executePlan simulation
    (Plan.select catalog request) fun _ planned => issues_select planned
  generalize (first.recordAll (readEvents catalog request)).executePlan
    (Plan.select catalog request) = outcome at executed ⊢
  generalize (second.recordAll (readEvents catalog request)).executePlan
    (Plan.select catalog request) = other at executed ⊢
  rcases executed with ⟨same, after⟩
  rw [← same]
  exact ⟨rfl, after⟩

theorem Linked.resolve (linked : Linked catalog R first second) (handle : Handle) :
    Agree catalog R (first.resolve handle) (second.resolve handle) := by
  have performed := linked.perform simulation handle.request handle.single
  simp only [Service.resolve, Service.slotAnswer?]
  rw [linked.slots]
  split
  · exact ⟨rfl, linked⟩
  · have kept := performed.keep handle.slot
    exact kept

theorem Linked.readNow (linked : Linked catalog R first second) (table : String)
    (steps : List ReadStep) :
    Agree catalog R (first.readNow table steps) (second.readNow table steps) := by
  have opened := linked.newHandle (.ofTable table) false
  have described := opened.2.extendAll (first.newHandle (.ofTable table) false).1 steps
  simp only [Service.readNow, Service.read]
  rw [← opened.1, ← described.1]
  exact described.2.resolve simulation _

/-! ## Writes -/

theorem Linked.insertRow (linked : Linked catalog R first second) (name : String) (table : Table)
    (now : Time.Instant) (row : Row) :
    Agree catalog R (first.insertRow name table now row) (second.insertRow name table now row) := by
  have completed := linked.complete table now row
  simp only [Service.insertRow]
  rw [← completed.1, linked.firstCatalog, linked.secondCatalog]
  exact completed.2.executePlan simulation _ fun _ planned =>
    ⟨.insert name (first.complete table now row).1, trivial, planned⟩

theorem Linked.insertFrom (linked : Linked catalog R first second) (name : String) (table : Table)
    (now : Time.Instant) (batch : Bool) (rows : List Row) (index : Nat) (inserted : List Row) :
    Agree catalog R (insertFrom name table now batch rows index inserted first)
      (insertFrom name table now batch rows index inserted second) := by
  induction rows generalizing index inserted first second with
  | nil => exact ⟨rfl, linked⟩
  | cons row rest inductionHypothesis =>
      have stored := linked.insertRow simulation name table now row
      simp only [Service.insertFrom]
      generalize first.insertRow name table now row = outcome at stored ⊢
      generalize second.insertRow name table now row = other at stored ⊢
      rcases stored with ⟨same, after⟩
      rw [← same]
      cases outcome.1 with
      | ok returned => exact inductionHypothesis after (index + 1) (inserted ++ returned)
      | error failure => exact ⟨rfl, after.record _⟩

theorem Linked.insert (linked : Linked catalog R first second) (now : Time.Instant) (name : String)
    (rows : List Row) :
    Agree catalog R (first.insert now name rows) (second.insert now name rows) := by
  simp only [Service.insert]
  rw [linked.firstCatalog, linked.secondCatalog]
  split
  · exact ⟨rfl, linked⟩
  · split
    · exact ⟨rfl, linked⟩
    · exact linked.insertFrom simulation name _ now _ rows 0 []

theorem Linked.insertJson (linked : Linked catalog R first second) (now : Time.Instant)
    (name : String) (content : Json) :
    Agree catalog R (first.insertJson now name content) (second.insertJson now name content) := by
  unfold Service.insertJson
  cases Rows.ofJson content with
  | error failure => exact ⟨rfl, linked⟩
  | ok rows => exact linked.insert simulation now name rows

theorem Linked.update (linked : Linked catalog R first second) (now : Time.Instant) (name : String)
    (predicates : List Predicate) (content : Json) :
    Agree catalog R (first.update now name predicates content)
      (second.update now name predicates content) := by
  simp only [Service.update]
  rw [linked.firstCatalog, linked.secondCatalog]
  have executed := (linked.recordAll (writeEvents catalog name predicates)).executePlan simulation
    (planUpdate catalog now name predicates content)
    fun _ planned => issues_planUpdate planned
  have answered := executed.map Answer.ofResult
  exact answered

theorem Linked.delete (linked : Linked catalog R first second) (name : String)
    (predicates : List Predicate) :
    Agree catalog R (first.delete name predicates) (second.delete name predicates) := by
  simp only [Service.delete]
  rw [linked.firstCatalog, linked.secondCatalog]
  have executed := (linked.recordAll (writeEvents catalog name predicates)).executePlan simulation
    (Plan.delete catalog name predicates)
    fun _ planned => ⟨.delete name predicates, trivial, planned⟩
  have answered := executed.map Answer.ofResult
  exact answered

/-! ## Procedures -/

theorem Linked.logAuditEvent (linked : Linked catalog R first second) (now : Time.Instant)
    (params : Json) :
    Agree catalog R (first.logAuditEvent now params) (second.logAuditEvent now params) := by
  simp only [Service.logAuditEvent]
  rw [linked.firstCatalog, linked.secondCatalog, ← linked.auditTable]
  cases Plan.declaration catalog first.auditTable with
  | error failure => exact ⟨rfl, linked⟩
  | ok table =>
      have drawn := linked.newId
      simp only []
      rw [← drawn.1]
      have executed := drawn.2.executePlan simulation
        (Plan.insert catalog first.auditTable
          (Procedure.auditRow table first.newId.1 now params))
        fun _ planned => ⟨.insert _ _, trivial, planned⟩
      have answered := executed.map fun result =>
        result.map fun _ => Json.string first.newId.1.text
      exact answered

theorem Linked.call (linked : Linked catalog R first second) (now : Time.Instant) (name : String)
    (params : Json) : Agree catalog R (first.call now name params) (second.call now name params) := by
  simp only [Service.call]
  split
  · have logged := linked.logAuditEvent simulation now params
    generalize first.logAuditEvent now params = outcome at logged ⊢
    generalize second.logAuditEvent now params = other at logged ⊢
    rcases logged with ⟨same, after⟩
    rw [← same]
    cases outcome.1 with
    | ok id => exact ⟨rfl, after⟩
    | error failure => exact ⟨rfl, after⟩
  · exact ⟨rfl, linked⟩

end

end Service
end RowGate
