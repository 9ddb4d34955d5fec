import RowGate.Proofs.Service.Recorder

namespace RowGate

/-!
# Interleaved resolutions

Resolving a handle takes several steps, and other things may happen between
them: handles are opened, copied and taken further, the store is changed from
elsewhere, and other handles of the same slot are resolved.  A resolution first
asks for the answer of its slot.  If there is none it claims the slot, unless
another resolution has done so, for which it then waits.  The resolution that
has claimed a slot carries out the read, and afterwards puts the answer into the
slot.

The service works on a recorder, so that what a read hands to the store can be
told.  A turn is a read that has been carried out, together with the service as
it was then.

A resolution during which nothing else happens comes to the same as
`Service.resolve`.
-/

variable {σ : Type}

/-! ## What a read does to a service -/

namespace Plan

/-- The statements of a read: one, or none if planning it fails. -/
def statements (catalog : Catalog) (request : ReadRequest) : List Statement :=
  match select catalog request with
  | .ok statement => [statement]
  | .error _ => []

end Plan

namespace Service

section

variable (service : Service σ) (request : ReadRequest) (single : Bool)

/-- A new slot is as empty as a slot that is not there. -/
theorem slotAnswer?_newHandle (slot : Nat) :
    (service.newHandle request single).2.slotAnswer? slot = service.slotAnswer? slot := by
  unfold slotAnswer? newHandle
  dsimp only
  rw [List.getElem?_append]
  split
  · rfl
  · next outside =>
    rw [List.getElem?_eq_none (Nat.le_of_not_lt outside)]
    cases slot - service.slots.length <;> rfl

end

/-- The service with an answer in a slot. -/
def fill (service : Service σ) (slot : Nat) (answer : Answer) : Service σ :=
  { service with slots := service.slots.set slot (some answer) }

theorem slotAnswer?_fill {service : Service σ} {slot : Nat} (inside : slot < service.slots.length)
    (answer : Answer) (wanted : Nat) :
    (service.fill slot answer).slotAnswer? wanted =
      if wanted = slot then some answer else service.slotAnswer? wanted := by
  unfold slotAnswer? fill
  dsimp only
  rw [List.getElem?_set]
  by_cases here : wanted = slot
  · subst here
    simp [inside]
  · have other : ¬ slot = wanted := fun same => here same.symm
    simp [here, other]

theorem slotAnswer?_fill_eq_some_iff {service : Service σ} {slot : Nat}
    (inside : slot < service.slots.length) {answer given : Answer} {wanted : Nat} :
    (service.fill slot answer).slotAnswer? wanted = some given ↔
      wanted = slot ∧ answer = given ∨ wanted ≠ slot ∧ service.slotAnswer? wanted = some given := by
  rw [slotAnswer?_fill inside]
  by_cases here : wanted = slot
  · simp [here]
  · simp [here]

theorem slotAnswer?_fill_eq_none_iff {service : Service σ} {slot : Nat}
    (inside : slot < service.slots.length) {answer : Answer} {wanted : Nat} :
    (service.fill slot answer).slotAnswer? wanted = none ↔
      wanted ≠ slot ∧ service.slotAnswer? wanted = none := by
  rw [slotAnswer?_fill inside]
  by_cases here : wanted = slot
  · simp [here]
  · simp [here]

section

variable [Store σ] (service : Service (Recorder σ)) (request : ReadRequest) (single : Bool)

theorem slots_perform : (service.perform request single).2.slots = service.slots := by
  simp only [perform, executePlan, recordAll]
  split
  · rfl
  · simp only [execute]
    split <;> rfl

theorem catalog_perform : (service.perform request single).2.catalog = service.catalog := by
  simp only [perform, executePlan, recordAll]
  split
  · rfl
  · simp only [execute]
    split <;> rfl

theorem handed_perform : (service.perform request single).2.store.handed =
    service.store.handed ++ Plan.statements service.catalog request := by
  simp only [perform, executePlan, recordAll, Plan.statements]
  cases Plan.select service.catalog request with
  | error failure => exact (List.append_nil _).symm
  | ok statement =>
      simp only [execute]
      split <;> rfl

end

end Service

/-! ## The machine -/

namespace Interleaving

/-- How far a resolution has come. -/
inductive Stage where
  | asked
  /-- It is to carry out the read of its slot. -/
  | claimed
  /-- It has carried out the read, and has not yet put the answer into the
  slot. -/
  | performed (answer : Answer)
  | finished (answer : Answer)
deriving DecidableEq

/-- Whether the slot has been claimed and is not filled yet. -/
def Stage.holds : Stage → Bool
  | .asked | .finished _ => false
  | .claimed | .performed _ => true

/-- The resolution of a handle. -/
structure Resolution where
  handle : Handle
  stage : Stage
deriving DecidableEq

/-- A read that has been carried out, and the service as it was before. -/
structure Turn (σ : Type) where
  handle : Handle
  service : Service (Recorder σ)

/-- All handles and resolutions that there have been, and all turns, each in
order. -/
structure World (σ : Type) where
  service : Service (Recorder σ)
  handles : List Handle
  resolutions : List Resolution
  turns : List (Turn σ)

/-- What can happen.  Handles and resolutions are named by their place. -/
inductive Act (σ : Type) where
  | read (table : String)
  | clone (place : Nat)
  | extend (place : Nat) (step : ReadStep)
  | ask (place : Nat)
  | proceed (place : Nat)
  /-- The store is changed from elsewhere. -/
  | mutate (change : σ → σ)

namespace Turn

variable [Store σ] (turn : Turn σ)

/-- What the read gave. -/
def outcome : Answer × Service (Recorder σ) :=
  turn.service.perform turn.handle.request turn.handle.single

/-- The answer that the read gave. -/
def answer : Answer :=
  turn.outcome.1

/-- The statements that the read handed to the store. -/
def statements : List Statement :=
  turn.outcome.2.store.handed.drop turn.service.store.handed.length

theorem handed_outcome : turn.outcome.2.store.handed =
    turn.service.store.handed ++ turn.statements := by
  have kept := turn.service.handed_perform turn.handle.request turn.handle.single
  unfold statements outcome
  rw [kept, List.drop_left]

theorem statements_eq :
    turn.statements = Plan.statements turn.service.catalog turn.handle.request := by
  have kept := turn.service.handed_perform turn.handle.request turn.handle.single
  unfold statements outcome
  rw [kept, List.drop_left]

end Turn

namespace World

/-- A world in which nothing has happened yet. -/
def start (service : Service (Recorder σ)) : World σ :=
  ⟨service, [], [], []⟩

/-- Some resolution has claimed the slot. -/
def isHeld (world : World σ) (slot : Nat) : Bool :=
  world.resolutions.any fun resolution =>
    resolution.stage.holds && resolution.handle.slot == slot

/-- Add a handle that has been opened. -/
def opened (world : World σ) (outcome : Handle × Service (Recorder σ)) : World σ :=
  { world with service := outcome.2, handles := world.handles ++ [outcome.1] }

/-- The resolution of a handle at a place comes to a stage. -/
def reach (world : World σ) (place : Nat) (handle : Handle) (stage : Stage) : World σ :=
  { world with resolutions := world.resolutions.set place ⟨handle, stage⟩ }

/-- The turn in which the read of a handle would be carried out now. -/
def turn (world : World σ) (handle : Handle) : Turn σ :=
  ⟨handle, world.service⟩

/-- Carry out the read of a handle. -/
def perform [Store σ] (world : World σ) (handle : Handle) : World σ :=
  { world with
    service := (world.turn handle).outcome.2
    turns := world.turns ++ [world.turn handle] }

/-- Put an answer into a slot. -/
def fill (world : World σ) (slot : Nat) (answer : Answer) : World σ :=
  { world with service := world.service.fill slot answer }

/-- A resolution takes a step, unless it has to wait. -/
def advance [Store σ] (world : World σ) (place : Nat) (resolution : Resolution) : World σ :=
  let handle := resolution.handle
  match resolution.stage with
  | .asked =>
      match world.service.slotAnswer? handle.slot with
      | some answer => world.reach place handle (.finished answer)
      | none => if world.isHeld handle.slot then world else world.reach place handle .claimed
  | .claimed =>
      (world.perform handle).reach place handle (.performed (world.turn handle).answer)
  | .performed answer => (world.fill handle.slot answer).reach place handle (.finished answer)
  | .finished _ => world

/-- The world after something has happened; nothing happens at a place that is
not there. -/
def step [Store σ] (world : World σ) : Act σ → World σ
  | .read table => world.opened (world.service.read table)
  | .clone place =>
      { world with handles := world.handles ++ world.handles[place]?.toList }
  | .extend place step =>
      match world.handles[place]? with
      | none => world
      | some handle => world.opened (world.service.extend handle step)
  | .ask place =>
      { world with
        resolutions := world.resolutions ++ world.handles[place]?.toList.map (⟨·, .asked⟩) }
  | .proceed place =>
      match world.resolutions[place]? with
      | none => world
      | some resolution => world.advance place resolution
  | .mutate change =>
      { world with
        service := { world.service with
          store := { world.service.store with store := change world.service.store.store } } }

/-- The world after a run. -/
def run [Store σ] (world : World σ) (acts : List (Act σ)) : World σ :=
  acts.foldl step world

end World

/-! ## Undisturbed resolutions -/

namespace World

variable [Store σ]

theorem step_proceed {world : World σ} {place : Nat} {resolution : Resolution}
    (found : world.resolutions[place]? = some resolution) :
    world.step (.proceed place) = world.advance place resolution := by
  simp only [step, found]

/-- The world in which a resolution has been added behind the others. -/
def joined (world : World σ) (handle : Handle) (stage : Stage) : World σ :=
  { world with resolutions := world.resolutions ++ [⟨handle, stage⟩] }

omit [Store σ] in
theorem reach_joined (world : World σ) (handle : Handle) (stage next : Stage) :
    (world.joined handle stage).reach world.resolutions.length handle next =
      world.joined handle next := by
  simp [joined, reach]

theorem resolutions_perform (world : World σ) (handle : Handle) :
    (world.perform handle).resolutions = world.resolutions := by
  simp only [perform]

theorem slots_perform (world : World σ) (handle : Handle) :
    (world.perform handle).service.slots = world.service.slots :=
  world.service.slots_perform handle.request handle.single

theorem slotAnswer?_perform (world : World σ) (handle : Handle) (slot : Nat) :
    (world.perform handle).service.slotAnswer? slot = world.service.slotAnswer? slot := by
  unfold Service.slotAnswer?
  rw [slots_perform]

theorem catalog_perform (world : World σ) (handle : Handle) :
    (world.perform handle).service.catalog = world.service.catalog :=
  world.service.catalog_perform handle.request handle.single

theorem perform_joined (world : World σ) (handle : Handle) (stage : Stage) :
    (world.joined handle stage).perform handle = (world.perform handle).joined handle stage := by
  simp only [perform, joined, turn]

/-- The last resolution takes a step. -/
theorem proceed_joined (world : World σ) (handle : Handle) (stage : Stage) :
    (world.joined handle stage).step (.proceed world.resolutions.length) =
      (world.joined handle stage).advance world.resolutions.length ⟨handle, stage⟩ := by
  apply step_proceed
  simp [joined]

theorem proceed_joined_finished (world : World σ) (handle : Handle) (answer : Answer) :
    (world.joined handle (.finished answer)).step (.proceed world.resolutions.length) =
      world.joined handle (.finished answer) :=
  proceed_joined world handle _

theorem proceed_joined_performed (world : World σ) (handle : Handle) (answer : Answer) :
    (world.joined handle (.performed answer)).step (.proceed world.resolutions.length) =
      (world.fill handle.slot answer).joined handle (.finished answer) := by
  rw [proceed_joined]
  exact (world.fill handle.slot answer).reach_joined handle (.performed answer) (.finished answer)

theorem proceed_joined_claimed (world : World σ) (handle : Handle) :
    (world.joined handle .claimed).step (.proceed world.resolutions.length) =
      (world.perform handle).joined handle (.performed (world.turn handle).answer) := by
  have turns : (world.joined handle .claimed).turn handle = world.turn handle := rfl
  rw [proceed_joined]
  simp only [advance, perform_joined, turns]
  rw [← world.resolutions_perform handle, reach_joined]

theorem proceed_joined_asked {world : World σ} {handle : Handle}
    (vacant : world.isHeld handle.slot = false) :
    (world.joined handle .asked).step (.proceed world.resolutions.length) =
      match world.service.slotAnswer? handle.slot with
      | some answer => world.joined handle (.finished answer)
      | none => world.joined handle .claimed := by
  have unheld : (world.joined handle .asked).isHeld handle.slot = false := by
    simpa [isHeld, joined, Stage.holds] using vacant
  rw [proceed_joined]
  simp only [advance, unheld, reach_joined, Bool.false_eq_true, if_false]
  rfl

theorem resolve_of_answered {world : World σ} {handle : Handle} {answer : Answer}
    (answered : world.service.slotAnswer? handle.slot = some answer) :
    world.service.resolve handle = (answer, world.service) := by
  simp only [Service.resolve, answered]

theorem resolve_of_vacant {world : World σ} {handle : Handle}
    (vacant : world.service.slotAnswer? handle.slot = none) :
    world.service.resolve handle =
      ((world.turn handle).answer,
        (world.turn handle).outcome.2.fill handle.slot (world.turn handle).answer) := by
  simp only [Service.resolve, vacant, turn, Turn.answer, Turn.outcome, Service.fill]

/-- A resolution that nothing interrupts and that finds its slot unclaimed is
finished with the answer, and leaves behind the service, of `Service.resolve`. -/
theorem run_undisturbed {world : World σ} {place : Nat} {handle : Handle}
    (found : world.handles[place]? = some handle) (vacant : world.isHeld handle.slot = false) :
    let here := world.resolutions.length
    let after := world.run [.ask place, .proceed here, .proceed here, .proceed here]
    after.resolutions = world.resolutions ++ [⟨handle, .finished (world.service.resolve handle).1⟩] ∧
      after.service = (world.service.resolve handle).2 := by
  intro here after
  have asked : world.step (.ask place) = world.joined handle .asked := by
    simp [step, joined, found]
  have stepwise : after = (((world.joined handle .asked).step (.proceed here)).step
      (.proceed here)).step (.proceed here) := by
    rw [← asked]
    rfl
  have first := proceed_joined_asked vacant
  cases answered : world.service.slotAnswer? handle.slot with
  | some answer =>
      rw [answered] at first
      rw [stepwise, first, proceed_joined_finished, proceed_joined_finished,
        resolve_of_answered answered]
      exact ⟨rfl, rfl⟩
  | none =>
      rw [answered] at first
      have last := proceed_joined_performed (world.perform handle) handle (world.turn handle).answer
      rw [resolutions_perform] at last
      rw [stepwise, first, proceed_joined_claimed, last, resolve_of_vacant answered]
      constructor
      · simp only [joined, fill, perform]
      · simp only [joined, fill, perform]

end World

end Interleaving
end RowGate
