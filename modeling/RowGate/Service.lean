import RowGate.Query.Answer
import RowGate.Random
import RowGate.Schema.Catalog
import RowGate.Store.Basic

namespace RowGate

/-!
# The service

The service is a store with a catalog, the name of the audit table, the journal
and a source of random bits.  It also keeps the answers of deferred reads, one
slot for each.  Operations take the service and give it back changed.
-/

/-- The state that operations share; `σ` is the state of the store. -/
structure Service (σ : Type) where
  store : σ
  catalog : Catalog
  auditTable : String
  journal : Journal
  random : Random
  slots : List (Option Answer)

namespace Service

variable {σ : Type}

/-- The name of the audit table unless another one is chosen. -/
def defaultAuditTable : String := "audit_logs"

/-- A service that has done nothing yet. -/
def start (store : σ) (catalog : Catalog) (auditTable : String) (journal : Journal)
    (random : Random) : Service σ :=
  ⟨store, catalog, auditTable, journal, random, []⟩

/-- Note an event. -/
def record (service : Service σ) (event : Event) : Service σ :=
  { service with journal := service.journal.record event }

/-- Draw an identifier. -/
def newId (service : Service σ) : Uuid × Service σ :=
  let drawn := service.random.next
  (.ofRandom drawn.1, { service with random := drawn.2 })

variable [Store σ]

/-- The event of an executed statement. -/
def executedEvent (σ : Type) [Store σ] (statement : Statement) (rows : List Row) : Event where
  severity := .trace
  name := "QUERY_EXECUTED"
  fields := [("backend", Store.name σ), ("kind", statement.kind),
    ("rows", Nat.repr rows.length), ("table", statement.table)]

/-- Execute a statement. -/
def execute (service : Service σ) (statement : Statement) :
    Except Failure (List Row) × Service σ :=
  let executed := Store.execute service.store statement
  let after := { service with store := executed.2 }
  match executed.1 with
  | .error error => (.error error.toFailure, after)
  | .ok rows => (.ok rows, after.record (executedEvent σ statement rows))

/-- Execute what the planner made of a request. -/
def executePlan (service : Service σ) (plan : Except Failure Statement) :
    Except Failure (List Row) × Service σ :=
  match plan with
  | .error failure => (.error failure, service)
  | .ok statement => service.execute statement

/-- Close the store. -/
def close (service : Service σ) : Service σ :=
  let closed := Store.close service.store
  { service with store := closed.2, journal := service.journal.recordAll closed.1 }

end Service
end RowGate
