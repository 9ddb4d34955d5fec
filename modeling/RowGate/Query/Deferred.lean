import RowGate.Query.Plan
import RowGate.Service

namespace RowGate

/-!
# Deferred reads

A read is described by a handle and executed when a handle is resolved.  Every
handle points to a slot of the service, and the first resolution of a slot puts
the answer there; later ones find it.  A copy of a handle shares its slot.
Every change of a description moves the handle to a slot of its own, so two
handles share a slot only if they describe the same read.
-/

/-- A read that may have been executed. -/
structure Handle where
  request : ReadRequest
  single : Bool
  slot : Nat
deriving DecidableEq

/-- A step in the description of a read. -/
inductive ReadStep where
  | select (columns : String)
  | filter (predicate : Predicate)
  | order (key : SortOrder)
  | limit (most : Nat)
  | count (counting : Bool)
  | single

namespace ReadStep

/-- The description after a step. -/
def apply : ReadStep → ReadRequest → ReadRequest
  | .select columns, request => { request with select := columns }
  | .filter predicate, request => request.filter predicate
  | .order key, request => { request with order := some key }
  | .limit most, request => { request with limit := some most }
  | .count counting, request => { request with counting := counting }
  | .single, request => request

/-- The step narrows the answer to one row. -/
def narrows : ReadStep → Bool
  | .single => true
  | _ => false

end ReadStep

namespace Service

variable {σ : Type}

/-- A handle with a new slot. -/
def newHandle (service : Service σ) (request : ReadRequest) (single : Bool) :
    Handle × Service σ :=
  (⟨request, single, service.slots.length⟩, { service with slots := service.slots ++ [none] })

/-- A handle for all rows of a table. -/
def read (service : Service σ) (table : String) : Handle × Service σ :=
  service.newHandle (.ofTable table) false

/-- A handle with one more step in its description. -/
def extend (service : Service σ) (handle : Handle) (step : ReadStep) : Handle × Service σ :=
  service.newHandle (step.apply handle.request) (handle.single || step.narrows)

/-- A handle with more steps in its description. -/
def extendAll (service : Service σ) (handle : Handle) : List ReadStep → Handle × Service σ
  | [] => (handle, service)
  | step :: rest =>
      let extended := service.extend handle step
      extended.2.extendAll extended.1 rest

/-- The answer of a slot, if it has been resolved. -/
def slotAnswer? (service : Service σ) (slot : Nat) : Option Answer :=
  (service.slots[slot]?).join

/-- Whether a handle has been resolved. -/
def isResolved (service : Service σ) (handle : Handle) : Bool :=
  (service.slotAnswer? handle.slot).isSome

/-- The events of the predicates that a plan for a table drops. -/
def droppedEvent (table : String) (predicate : Predicate) : Event where
  severity := .warn
  name := "PREDICATE_DROPPED"
  fields := [("table", table), ("column", predicate.column), ("operator", predicate.operator)]

/-- The events of planning the conditions of a table. -/
def conditionEvents (catalog : Catalog) (table : String) (predicates : List Predicate) :
    List Event :=
  (Plan.dropped catalog table predicates).map (droppedEvent table)

/-- The events of planning a read. -/
def readEvents (catalog : Catalog) (request : ReadRequest) : List Event :=
  match Plan.table catalog request.table with
  | .error _ => []
  | .ok table =>
      match Plan.projection catalog table request.select with
      | .error _ => []
      | .ok _ => conditionEvents catalog table request.predicates

/-- The events of planning a write. -/
def writeEvents (catalog : Catalog) (name : String) (predicates : List Predicate) : List Event :=
  match Plan.table catalog name with
  | .error _ => []
  | .ok table => conditionEvents catalog table predicates

/-- Note events in order. -/
def recordAll (service : Service σ) (events : List Event) : Service σ :=
  { service with journal := service.journal.recordAll events }

/-- The number in the row of a counting read. -/
def countOf (rows : List Row) : Nat :=
  match (rows.head?.bind (·.get? "count")).bind Json.asNat? with
  | some count => count
  | none => 0

variable [Store σ]

/-- Execute a read. -/
def perform (service : Service σ) (request : ReadRequest) (single : Bool) : Answer × Service σ :=
  let planned := service.recordAll (readEvents service.catalog request)
  let executed := planned.executePlan (Plan.select service.catalog request)
  let answer :=
    match executed.1 with
    | .error failure => Answer.failed failure
    | .ok rows => if request.counting then .counted (countOf rows) else .ofRows rows
  (if single then answer.single else answer, executed.2)

/-- Resolve a handle: execute its read, or return the answer that its slot
has. -/
def resolve (service : Service σ) (handle : Handle) : Answer × Service σ :=
  match service.slotAnswer? handle.slot with
  | some answer => (answer, service)
  | none =>
      let performed := service.perform handle.request handle.single
      (performed.1,
        { performed.2 with slots := performed.2.slots.set handle.slot (some performed.1) })

/-- Describe a read of a table and resolve it. -/
def readNow (service : Service σ) (table : String) (steps : List ReadStep) : Answer × Service σ :=
  let opened := service.read table
  let described := opened.2.extendAll opened.1 steps
  described.2.resolve described.1

end Service
end RowGate
