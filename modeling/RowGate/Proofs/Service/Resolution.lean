import Mathlib.Data.List.Induction
import RowGate.Proofs.Service.Coherence
import RowGate.Store.Memory

namespace RowGate
namespace Interleaving

/-!
# Reads are carried out once

Whatever is interleaved with what, two handles share a slot only if they
describe the same read; the read of a slot is carried out once at most; every
resolution of the slot, on whichever handle, comes to the answer of that turn,
also if the store has been changed since; and what a service hands to its store
are the statements of the turns and nothing else.

No resolution is stuck either.  One that waits for another is told the answer
once the other has put it into the slot.
-/

variable {σ : Type} [Store σ]

namespace World

variable {world : World σ}

/-! ## What stays -/

theorem run_append (world : World σ) (first second : List (Act σ)) :
    world.run (first ++ second) = (world.run first).run second :=
  List.foldl_append

theorem catalog_step (world : World σ) (act : Act σ) :
    (world.step act).service.catalog = world.service.catalog := by
  cases act with
  | read table => rfl
  | clone place => rfl
  | extend place step =>
      simp only [World.step]
      split
      · rfl
      · rfl
  | ask place => rfl
  | proceed place =>
      simp only [World.step]
      split
      · rfl
      · next resolution found =>
        unfold World.advance
        dsimp only
        split
        · split
          · rfl
          · split
            · rfl
            · rfl
        · exact Service.catalog_perform _ resolution.handle.request resolution.handle.single
        · rfl
        · rfl
  | mutate change => rfl

theorem catalog_run (world : World σ) (acts : List (Act σ)) :
    (world.run acts).service.catalog = world.service.catalog := by
  induction acts generalizing world with
  | nil => rfl
  | cons act rest inductionHypothesis =>
      exact (inductionHypothesis (world.step act)).trans (world.catalog_step act)

/-- A step of a resolution changes its own place only, and nothing where it is
finished. -/
theorem advance_cases (world : World σ) (place : Nat) (resolution : Resolution) :
    (world.advance place resolution).resolutions = world.resolutions ∨
      (∀ answer, resolution.stage ≠ .finished answer) ∧
        ∃ new, (world.advance place resolution).resolutions = world.resolutions.set place new := by
  rcases resolution with ⟨handle, stage⟩
  cases stage with
  | finished answer => exact .inl rfl
  | asked =>
      simp only [World.advance]
      split
      · exact .inr ⟨by simp, _, rfl⟩
      · split
        · exact .inl rfl
        · exact .inr ⟨by simp, _, rfl⟩
  | claimed =>
      refine .inr ⟨by simp, ⟨handle, .performed (world.turn handle).answer⟩, ?_⟩
      simp only [World.advance, World.reach, resolutions_perform]
  | performed answer => exact .inr ⟨by simp, _, rfl⟩

/-- A resolution that is finished stays so, with its answer. -/
theorem finished_step {place : Nat} {handle : Handle} {answer : Answer}
    (finished : world.resolutions[place]? = some ⟨handle, .finished answer⟩) (act : Act σ) :
    (world.step act).resolutions[place]? = some ⟨handle, .finished answer⟩ := by
  cases act with
  | read table => exact finished
  | clone place => exact finished
  | extend place step =>
      simp only [World.step]
      split
      · exact finished
      · exact finished
  | ask place =>
      have inside := (List.getElem?_eq_some_iff.mp finished).1
      exact (List.getElem?_append_left inside).trans finished
  | proceed other =>
      simp only [World.step]
      split
      · exact finished
      · next resolution found =>
        rcases world.advance_cases other resolution with same | ⟨unfinished, new, changed⟩
        · rw [same]
          exact finished
        · have elsewhere : other ≠ place := by
            rintro rfl
            cases found.symm.trans finished
            exact unfinished answer rfl
          rw [changed, List.getElem?_set_ne elsewhere]
          exact finished
  | mutate change => exact finished

theorem finished_run {place : Nat} {handle : Handle} {answer : Answer}
    (finished : world.resolutions[place]? = some ⟨handle, .finished answer⟩)
    (acts : List (Act σ)) :
    (world.run acts).resolutions[place]? = some ⟨handle, .finished answer⟩ := by
  induction acts generalizing world with
  | nil => exact finished
  | cons act rest inductionHypothesis => exact inductionHypothesis (finished_step finished act)

/-- A new turn is taken on the service as it is. -/
theorem mem_turns_step {turn : Turn σ} {act : Act σ} (taken : turn ∈ (world.step act).turns) :
    turn ∈ world.turns ∨ turn.service = world.service := by
  cases act with
  | read table => exact .inl taken
  | clone place => exact .inl taken
  | extend place step =>
      simp only [World.step] at taken
      split at taken
      · exact .inl taken
      · exact .inl taken
  | ask place => exact .inl taken
  | proceed place =>
      simp only [World.step] at taken
      split at taken
      · exact .inl taken
      · next resolution found =>
        unfold World.advance at taken
        dsimp only at taken
        split at taken
        · split at taken
          · exact .inl taken
          · split at taken
            · exact .inl taken
            · exact .inl taken
        · simp only [World.reach, World.perform] at taken
          rcases List.mem_append.mp taken with before | new
          · exact .inl before
          · rw [List.mem_singleton.mp new]
            exact .inr rfl
        · exact .inl taken
        · exact .inl taken
  | mutate change => exact .inl taken

/-- Every turn of a run was taken on the service of some moment of the run. -/
theorem exists_moment {turn : Turn σ} {acts : List (Act σ)} (taken : turn ∈ (world.run acts).turns) :
    turn ∈ world.turns ∨
      ∃ before, before <+: acts ∧ turn.service = (world.run before).service := by
  induction acts using List.reverseRecOn with
  | nil => exact .inl taken
  | append_singleton acts act inductionHypothesis =>
      rw [run_append] at taken
      rcases mem_turns_step taken with earlier | now
      · rcases inductionHypothesis earlier with start | ⟨before, inside, moment⟩
        · exact .inl start
        · exact .inr ⟨before, inside.trans (List.prefix_append acts [act]), moment⟩
      · exact .inr ⟨acts, List.prefix_append acts [act], now⟩

/-! ## No resolution waits for ever -/

section

variable {place : Nat} {handle : Handle}

theorem Coherent.step_performed (coherent : world.Coherent) {answer : Answer}
    (here : world.resolutions[place]? = some ⟨handle, .performed answer⟩) :
    (world.step (.proceed place)).resolutions =
        world.resolutions.set place ⟨handle, .finished answer⟩ ∧
      (world.step (.proceed place)).service.slotAnswer? handle.slot = some answer := by
  have inside : handle.slot < world.service.slots.length :=
    coherent.placed handle (coherent.known _ (List.mem_of_getElem? here))
  rw [step_proceed here]
  constructor
  · rfl
  · exact (Service.slotAnswer?_fill inside answer _).trans (if_pos rfl)

/-- A resolution that has claimed its slot fills it in a step or two. -/
theorem Coherent.exists_fill (coherent : world.Coherent) {stage : Stage}
    (here : world.resolutions[place]? = some ⟨handle, stage⟩) (holds : stage.holds = true) :
    ∃ (later : List (Act σ)) (answer : Answer),
      (world.run later).resolutions = world.resolutions.set place ⟨handle, .finished answer⟩ ∧
        (world.run later).service.slotAnswer? handle.slot = some answer := by
  cases stage with
  | asked => cases holds
  | finished answer => cases holds
  | performed answer => exact ⟨[.proceed place], answer, coherent.step_performed here⟩
  | claimed =>
      have inside := (List.getElem?_eq_some_iff.mp here).1
      have performed : (world.step (.proceed place)).resolutions =
          world.resolutions.set place ⟨handle, .performed (world.turn handle).answer⟩ := by
        rw [step_proceed here]
        simp only [World.advance, World.reach, resolutions_perform]
      have there : (world.step (.proceed place)).resolutions[place]? =
          some ⟨handle, .performed (world.turn handle).answer⟩ := by
        rw [performed]
        exact List.getElem?_set_self inside
      rcases (coherent.step (.proceed place)).step_performed there with ⟨finished, filled⟩
      refine ⟨[.proceed place, .proceed place], (world.turn handle).answer, ?_, filled⟩
      rw [performed, List.set_set] at finished
      exact finished

/-- A resolution that holds its slot comes to its end in a step or two. -/
theorem Coherent.exists_finished_of_holds (coherent : world.Coherent) {stage : Stage}
    (here : world.resolutions[place]? = some ⟨handle, stage⟩) (holds : stage.holds = true) :
    ∃ (later : List (Act σ)) (answer : Answer),
      (world.run later).resolutions[place]? = some ⟨handle, .finished answer⟩ := by
  rcases coherent.exists_fill here holds with ⟨later, answer, finished, _⟩
  refine ⟨later, answer, ?_⟩
  rw [finished]
  exact List.getElem?_set_self (List.getElem?_eq_some_iff.mp here).1

/-- A resolution that asks and finds an answer is at its end. -/
theorem step_answered {answer : Answer} (here : world.resolutions[place]? = some ⟨handle, .asked⟩)
    (answered : world.service.slotAnswer? handle.slot = some answer) :
    (world.step (.proceed place)).resolutions[place]? = some ⟨handle, .finished answer⟩ := by
  rw [step_proceed here]
  simp only [World.advance, answered]
  exact List.getElem?_set_self (List.getElem?_eq_some_iff.mp here).1

/-- A resolution that asks and finds its slot empty and free claims it. -/
theorem step_vacant (here : world.resolutions[place]? = some ⟨handle, .asked⟩)
    (vacant : world.service.slotAnswer? handle.slot = none)
    (free : world.isHeld handle.slot = false) :
    (world.step (.proceed place)).resolutions[place]? = some ⟨handle, .claimed⟩ := by
  rw [step_proceed here]
  simp only [World.advance, vacant, free, Bool.false_eq_true, if_false]
  exact List.getElem?_set_self (List.getElem?_eq_some_iff.mp here).1

/-- Whatever stage a resolution is at, it can be brought to its end. -/
theorem Coherent.exists_finished (coherent : world.Coherent) {stage : Stage}
    (here : world.resolutions[place]? = some ⟨handle, stage⟩) :
    ∃ (later : List (Act σ)) (answer : Answer),
      (world.run later).resolutions[place]? = some ⟨handle, .finished answer⟩ := by
  cases stage with
  | finished answer => exact ⟨[], answer, here⟩
  | performed answer => exact coherent.exists_finished_of_holds here rfl
  | claimed => exact coherent.exists_finished_of_holds here rfl
  | asked =>
      cases answered : world.service.slotAnswer? handle.slot with
      | some answer => exact ⟨[.proceed place], answer, step_answered here answered⟩
      | none =>
          cases held : world.isHeld handle.slot with
          | false =>
              have claimed := step_vacant here answered held
              rcases (coherent.step (.proceed place)).exists_finished_of_holds claimed rfl with
                ⟨later, finished⟩
              exact ⟨.proceed place :: later, finished⟩
          | true =>
              -- The resolution that has claimed the slot goes first.
              rcases List.any_eq_true.mp held with ⟨⟨other, stage⟩, member, claims⟩
              rw [Bool.and_eq_true, beq_iff_eq] at claims
              rcases claims with ⟨holds, shared⟩
              rcases List.mem_iff_getElem?.mp member with ⟨ahead, found⟩
              rcases coherent.exists_fill found holds with ⟨later, answer, finished, filled⟩
              have elsewhere : ahead ≠ place := by
                rintro rfl
                cases found.symm.trans here
                cases holds
              have waiting : (world.run later).resolutions[place]? = some ⟨handle, .asked⟩ := by
                rw [finished, List.getElem?_set_ne elsewhere]
                exact here
              rw [shared] at filled
              refine ⟨later ++ [.proceed place], answer, ?_⟩
              rw [run_append]
              exact step_answered waiting filled

end

end World

/-! ## The main statement -/

/-- Opening, copying and describing, and asking for an answer. -/
def Act.Builds : Act σ → Prop
  | .read _ | .clone _ | .extend _ _ | .ask _ => True
  | .proceed _ | .mutate _ => False

namespace World

theorem store_step_of_builds (world : World σ) {act : Act σ} (builds : act.Builds) :
    (world.step act).service.store = world.service.store ∧
      (world.step act).turns = world.turns := by
  cases act with
  | read table => exact ⟨rfl, rfl⟩
  | clone place => exact ⟨rfl, rfl⟩
  | extend place step =>
      simp only [World.step]
      split
      · exact ⟨rfl, rfl⟩
      · exact ⟨rfl, rfl⟩
  | ask place => exact ⟨rfl, rfl⟩
  | proceed place => exact builds.elim
  | mutate change => exact builds.elim

/-- The turns of a slot. -/
def turnsOf (world : World σ) (slot : Nat) : List (Turn σ) :=
  world.turns.filter fun turn => turn.handle.slot == slot

/-- The statements that the reads of a slot have handed to the store. -/
def statementsOf (world : World σ) (slot : Nat) : List Statement :=
  (world.turnsOf slot).flatMap Turn.statements

variable {world : World σ}

theorem Coherent.turnsOf_eq (coherent : world.Coherent) {turn : Turn σ}
    (taken : turn ∈ world.turns) : world.turnsOf turn.handle.slot = [turn] := by
  rcases List.append_of_mem taken with ⟨before, after, parts⟩
  have once := coherent.once
  rw [parts, List.pairwise_append, List.pairwise_cons] at once
  rcases once with ⟨_, ⟨behind, _⟩, across⟩
  have noneBefore : before.filter (fun other => other.handle.slot == turn.handle.slot) = [] := by
    apply List.filter_eq_nil_iff.mpr
    intro other member
    simpa using across other member turn List.mem_cons_self
  have noneAfter : after.filter (fun other => other.handle.slot == turn.handle.slot) = [] := by
    apply List.filter_eq_nil_iff.mpr
    intro other member
    simpa using (behind other member).symm
  unfold turnsOf
  rw [parts, List.filter_append, List.filter_cons_of_pos (by simp), noneBefore, noneAfter,
    List.nil_append]

/-- The statements of a slot are those of its only turn, if it has had one. -/
theorem Coherent.statementsOf_cases (coherent : world.Coherent) {handle : Handle}
    (member : handle ∈ world.handles) :
    world.statementsOf handle.slot = [] ∨
      ∃ statement, Plan.select world.service.catalog handle.request = .ok statement ∧
        world.statementsOf handle.slot = [statement] := by
  cases turns : world.turnsOf handle.slot with
  | nil => exact .inl (by rw [statementsOf, turns, List.flatMap_nil])
  | cons turn rest =>
      have found : turn ∈ world.turnsOf handle.slot := by
        rw [turns]
        exact List.mem_cons_self
      rcases List.mem_filter.mp found with ⟨taken, slot⟩
      rcases coherent.taken turn taken with ⟨known, catalog⟩
      have same : turn.handle = handle := coherent.copied _ known _ member (beq_iff_eq.mp slot)
      have statements : world.statementsOf handle.slot =
          Plan.statements world.service.catalog handle.request := by
        have only := coherent.turnsOf_eq taken
        rw [same] at only
        rw [statementsOf, only, List.flatMap_singleton, Turn.statements_eq, same, catalog]
      rw [statements]
      unfold Plan.statements
      cases Plan.select world.service.catalog handle.request with
      | error failure => exact .inl rfl
      | ok statement => exact .inr ⟨statement, rfl, rfl⟩

theorem Coherent.exists_turn (coherent : world.Coherent) {resolution : Resolution}
    (member : resolution ∈ world.resolutions) {answer : Answer}
    (finished : resolution.stage = .finished answer) :
    ∃ turn, turn.handle = resolution.handle ∧ world.turnsOf resolution.handle.slot = [turn] ∧
      turn.answer = answer := by
  have filled := coherent.finished resolution member answer finished
  rcases coherent.filled _ answer filled with ⟨turn, taken, slot, same⟩
  have copy : turn.handle = resolution.handle :=
    coherent.copied _ (coherent.taken turn taken).1 _ (coherent.known resolution member) slot
  exact ⟨turn, copy, slot ▸ coherent.turnsOf_eq taken, same⟩

end World

/-- Whatever is interleaved, handles that share a slot describe the same read.
What is handed to the store are the statements of turns; those of a slot are at
most one statement, and none if the read is not planned.  A resolution that is
finished has the answer of the only turn of its slot, which the read gave at
some moment of the run; so all resolutions of a slot are answered alike.  A
finished resolution keeps its answer whatever happens later, and one that is not
finished can be.  Opening, copying and describing leave the store alone. -/
theorem reads_carried_out_once (store : σ) (catalog : Catalog) (auditTable : String)
    (journal : Journal) (random : Random) (acts : List (Act σ)) :
    let start := World.start (Service.start store catalog auditTable journal random).recorded
    let world := start.run acts
    (∀ first ∈ world.handles, ∀ second ∈ world.handles, first.slot = second.slot →
        first.request = second.request ∧ first.single = second.single) ∧
      (world.service.store.handed = world.turns.flatMap Turn.statements ∧
        (∀ turn ∈ world.turns, turn.handle ∈ world.handles ∧
          ∃ before, before <+: acts ∧ turn.service = (start.run before).service) ∧
        ∀ handle ∈ world.handles, world.statementsOf handle.slot = [] ∨
          ∃ statement, Plan.select catalog handle.request = .ok statement ∧
            world.statementsOf handle.slot = [statement]) ∧
      (∀ resolution ∈ world.resolutions, ∀ answer, resolution.stage = .finished answer →
        (∃ turn, turn.handle = resolution.handle ∧
          world.turnsOf resolution.handle.slot = [turn] ∧ turn.answer = answer) ∧
        ∀ other ∈ world.resolutions, other.handle.slot = resolution.handle.slot →
          ∀ given, other.stage = .finished given → given = answer) ∧
      (∀ (place : Nat) (handle : Handle) (stage : Stage),
        world.resolutions[place]? = some ⟨handle, stage⟩ →
          (∀ answer, stage = .finished answer → ∀ later : List (Act σ),
            (world.run later).resolutions[place]? = some ⟨handle, .finished answer⟩) ∧
          ∃ (later : List (Act σ)) (answer : Answer),
            (world.run later).resolutions[place]? = some ⟨handle, .finished answer⟩) ∧
      ∀ act : Act σ, act.Builds → (world.step act).service.store = world.service.store ∧
        (world.step act).turns = world.turns := by
  intro start world
  have coherent : world.Coherent := (World.coherent_start rfl).run acts
  have kept : world.service.catalog = catalog := World.catalog_run start acts
  refine ⟨?_, ⟨coherent.handed, ?_, ?_⟩, ?_, ?_, ?_⟩
  · intro first memberFirst second memberSecond shared
    rw [coherent.copied first memberFirst second memberSecond shared]
    exact ⟨rfl, rfl⟩
  · intro turn taken
    refine ⟨(coherent.taken turn taken).1, ?_⟩
    rcases World.exists_moment taken with never | moment
    · exact absurd never List.not_mem_nil
    · exact moment
  · intro handle member
    rw [← kept]
    exact coherent.statementsOf_cases member
  · intro resolution member answer finished
    refine ⟨coherent.exists_turn member finished, ?_⟩
    intro other inside shared given stage
    have filled := coherent.finished resolution member answer finished
    rw [← shared, coherent.finished other inside given stage] at filled
    exact Option.some.inj filled
  · intro place handle stage here
    refine ⟨?_, coherent.exists_finished here⟩
    rintro answer rfl later
    exact World.finished_run here later
  · intro act builds
    exact world.store_step_of_builds builds

/-- Two copies of a handle are resolved at once, a row is inserted while the
first of them has the answer and has not yet put it into the slot, and a copy
that is taken further is resolved afterwards. -/
def Act.entangled : List (Act Memory) :=
  [.read "items", .clone 0, .ask 0, .ask 1, .proceed 0, .proceed 1, .proceed 0,
    .mutate fun memory => (memory.execute (.insert "items" [("id", ⟨.string "a", .text⟩)])).2,
    .proceed 1, .proceed 0, .proceed 1, .extend 1 (.limit 1), .ask 2, .proceed 2, .proceed 2,
    .proceed 2]

/-- The copies share the answer from before the insert, and one statement; the
third handle has a slot, a statement and an answer of its own. -/
theorem entangled_copies_share_answer :
    let world := (World.start (Service.start (Memory.ofCatalog .items) .items
      Service.defaultAuditTable .empty ⟨fun _ => 0, 0⟩).recorded).run Act.entangled
    world.handles.map Handle.slot = [0, 0, 1] ∧
      world.resolutions.map (fun resolution => (resolution.handle.slot, resolution.stage)) =
        [(0, .finished (.ofRows [])), (0, .finished (.ofRows [])),
          (1, .finished (.ofRows [.ofList [("created_at", .null), ("id", .string "a"),
            ("rank", .null), ("updated_at", .null)]]))] ∧
      world.service.store.handed.length = 2 ∧
      ∀ first ∈ world.handles, ∀ second ∈ world.handles, first.slot = second.slot →
        first.request = second.request ∧ first.single = second.single := by
  intro world
  have run := reads_carried_out_once (Memory.ofCatalog .items) .items Service.defaultAuditTable
    .empty ⟨fun _ => 0, 0⟩ Act.entangled
  refine ⟨?_, ?_, ?_, run.1⟩
  · decide +kernel
  · decide +kernel
  · decide +kernel

end Interleaving
end RowGate
