import RowGate.Proofs.Service.Interleaving

namespace RowGate
namespace Interleaving

/-!
# Coherent worlds

The invariant of interleaved resolutions is about slots.  A slot is opened with
one handle and shared with copies of it only, since each step of a description
opens a slot of its own.  It is claimed by one resolution at a time, and only
while it is empty; and a slot that is empty after its turn is still claimed by
the resolution that has the answer, so the next one to ask finds it either
claimed or filled.
-/

variable {σ : Type} [Store σ]

namespace World

/-! ## The invariant -/

/-- No two resolutions have claimed the same slot. -/
def ClaimsApart (resolutions : List Resolution) : Prop :=
  ∀ (place other : Nat) (first second : Resolution), resolutions[place]? = some first →
    resolutions[other]? = some second → first.stage.holds = true → second.stage.holds = true →
      first.handle.slot = second.handle.slot → place = other

/-- Some resolution has the answer of a turn and has not yet put it into the
slot. -/
def Carries (resolutions : List Resolution) (turn : Turn σ) : Prop :=
  ∃ place : Nat, resolutions[place]? = some ⟨turn.handle, .performed turn.answer⟩

/-- What holds of every world that a run reaches. -/
structure Coherent (world : World σ) : Prop where
  /-- Handles have a slot, and handles of the same slot are copies. -/
  placed : ∀ handle ∈ world.handles, handle.slot < world.service.slots.length
  copied : ∀ first ∈ world.handles, ∀ second ∈ world.handles, first.slot = second.slot →
    first = second
  /-- Resolutions are of handles, and claim empty slots, each its own. -/
  known : ∀ resolution ∈ world.resolutions, resolution.handle ∈ world.handles
  apart : ClaimsApart world.resolutions
  empty : ∀ resolution ∈ world.resolutions, resolution.stage.holds = true →
    world.service.slotAnswer? resolution.handle.slot = none
  /-- Answers of resolutions and slots are those of turns. -/
  finished : ∀ resolution ∈ world.resolutions, ∀ answer, resolution.stage = .finished answer →
    world.service.slotAnswer? resolution.handle.slot = some answer
  performed : ∀ resolution ∈ world.resolutions, ∀ answer, resolution.stage = .performed answer →
    ∃ turn ∈ world.turns, turn.handle = resolution.handle ∧ turn.answer = answer
  filled : ∀ slot answer, world.service.slotAnswer? slot = some answer →
    ∃ turn ∈ world.turns, turn.handle.slot = slot ∧ turn.answer = answer
  /-- A turn is the only one of its slot, and until the slot is filled the
  resolution that has the answer is there. -/
  taken : ∀ turn ∈ world.turns, turn.handle ∈ world.handles ∧
    turn.service.catalog = world.service.catalog
  held : ∀ turn ∈ world.turns, world.service.slotAnswer? turn.handle.slot = none →
    Carries world.resolutions turn
  once : world.turns.Pairwise fun first second => first.handle.slot ≠ second.handle.slot
  handed : world.service.store.handed = world.turns.flatMap Turn.statements

variable {world : World σ}

theorem coherent_start {service : Service σ} (slots : service.slots = []) :
    (start service.recorded).Coherent where
  placed _ member := absurd member List.not_mem_nil
  copied _ member := absurd member List.not_mem_nil
  known _ member := absurd member List.not_mem_nil
  apart place other first second found := by simp [start] at found
  empty _ member := absurd member List.not_mem_nil
  finished _ member := absurd member List.not_mem_nil
  performed _ member := absurd member List.not_mem_nil
  filled slot answer found := by simp [start, Service.recorded, Service.slotAnswer?, slots] at found
  taken _ member := absurd member List.not_mem_nil
  held _ member := absurd member List.not_mem_nil
  once := List.Pairwise.nil
  handed := rfl

/-! ## Handles -/

theorem Coherent.opened (coherent : world.Coherent) (request : ReadRequest) (single : Bool) :
    (world.opened (world.service.newHandle request single)).Coherent := by
  have same := world.service.slotAnswer?_newHandle request single
  have behind : ∀ handle ∈ world.handles, handle.slot ≠ world.service.slots.length := by
    intro handle member
    exact Nat.ne_of_lt (coherent.placed handle member)
  have kept : ∀ handle ∈ world.handles, handle ∈ (world.opened
      (world.service.newHandle request single)).handles := by
    intro handle member
    exact List.mem_append_left _ member
  constructor
  case placed =>
    intro handle member
    have longer : (world.opened (world.service.newHandle request single)).service.slots.length =
        world.service.slots.length + 1 := List.length_append
    rw [longer]
    rcases List.mem_append.mp member with before | new
    · exact Nat.lt_succ_of_lt (coherent.placed handle before)
    · rw [List.mem_singleton.mp new]
      exact Nat.lt_succ_self _
  case copied =>
    intro first memberFirst second memberSecond shared
    rcases List.mem_append.mp memberFirst with beforeFirst | newFirst
    · rcases List.mem_append.mp memberSecond with beforeSecond | newSecond
      · exact coherent.copied first beforeFirst second beforeSecond shared
      · rw [List.mem_singleton.mp newSecond] at shared
        exact absurd shared (behind first beforeFirst)
    · rcases List.mem_append.mp memberSecond with beforeSecond | newSecond
      · rw [List.mem_singleton.mp newFirst] at shared
        exact absurd shared.symm (behind second beforeSecond)
      · rw [List.mem_singleton.mp newFirst, List.mem_singleton.mp newSecond]
  case known =>
    intro resolution member
    exact kept _ (coherent.known resolution member)
  case apart => exact coherent.apart
  case empty =>
    intro resolution member holds
    exact (same _).trans (coherent.empty resolution member holds)
  case finished =>
    intro resolution member answer stage
    exact (same _).trans (coherent.finished resolution member answer stage)
  case performed => exact coherent.performed
  case filled =>
    intro slot answer found
    exact coherent.filled slot answer ((same slot).symm.trans found)
  case taken =>
    intro turn member
    exact ⟨kept _ (coherent.taken turn member).1, (coherent.taken turn member).2⟩
  case held =>
    intro turn member unanswered
    exact coherent.held turn member ((same _).symm.trans unanswered)
  case once => exact coherent.once
  case handed => exact coherent.handed

theorem Coherent.clone (coherent : world.Coherent) {handle : Handle}
    (member : handle ∈ world.handles) :
    Coherent { world with handles := world.handles ++ [handle] } := by
  have all : ∀ other, other ∈ world.handles ++ [handle] ↔ other ∈ world.handles := by
    intro other
    rw [List.mem_append, List.mem_singleton]
    constructor
    · rintro (before | rfl)
      · exact before
      · exact member
    · exact Or.inl
  exact { coherent with
    placed := fun other inside => coherent.placed other ((all other).mp inside)
    copied := fun first inFirst second inSecond =>
      coherent.copied first ((all first).mp inFirst) second ((all second).mp inSecond)
    known := fun resolution inside => (all _).mpr (coherent.known resolution inside)
    taken := fun turn inside =>
      ⟨(all _).mpr (coherent.taken turn inside).1, (coherent.taken turn inside).2⟩ }

/-! ## Resolutions -/

section

variable {α : Type} {P : α → Prop} {items : List α} {place : Nat} {new : α}

/-- What holds of all items still does after one has been set to an item of which it
holds. -/
theorem forall_mem_set (all : ∀ item ∈ items, P item) (here : P new) :
    ∀ item ∈ items.set place new, P item := by
  intro item inside
  rcases List.mem_or_eq_of_mem_set inside with before | rfl
  · exact all item before
  · exact here

theorem forall_mem_concat (all : ∀ item ∈ items, P item) (here : P new) :
    ∀ item ∈ items ++ [new], P item :=
  List.forall_mem_append.mpr ⟨all, List.forall_mem_singleton.mpr here⟩

end

/-- What stands in a list after one place has been set. -/
theorem getElem?_set_cases {resolutions : List Resolution} {place other : Nat}
    {new found : Resolution} (read : (resolutions.set place new)[other]? = some found) :
    place = other ∧ found = new ∨ place ≠ other ∧ resolutions[other]? = some found := by
  rw [List.getElem?_set] at read
  split at read
  · next here =>
    split at read
    · cases read
      exact .inl ⟨here, rfl⟩
    · cases read
  · next elsewhere => exact .inr ⟨elsewhere, read⟩

/-- A resolution may come to a stage in which it claims its slot only if no
other one does. -/
theorem ClaimsApart.set {resolutions : List Resolution} (apart : ClaimsApart resolutions)
    {place : Nat} {handle : Handle} {stage : Stage}
    (sole : stage.holds = true → ∀ other second, resolutions[other]? = some second →
      second.stage.holds = true → handle.slot = second.handle.slot → place = other) :
    ClaimsApart (resolutions.set place ⟨handle, stage⟩) := by
  intro left right first second readFirst readSecond holdsFirst holdsSecond shared
  rcases getElem?_set_cases readFirst with ⟨rfl, rfl⟩ | ⟨_, oldFirst⟩
  · rcases getElem?_set_cases readSecond with ⟨same, _⟩ | ⟨_, oldSecond⟩
    · exact same
    · exact sole holdsFirst right second oldSecond holdsSecond shared
  · rcases getElem?_set_cases readSecond with ⟨rfl, rfl⟩ | ⟨_, oldSecond⟩
    · exact (sole holdsSecond left first oldFirst holdsFirst shared.symm).symm
    · exact apart left right first second oldFirst oldSecond holdsFirst holdsSecond shared

/-- The answer of a turn is still there after another resolution has moved on. -/
theorem Carries.set {resolutions : List Resolution} {turn : Turn σ}
    (carries : Carries resolutions turn) {place : Nat} {old new : Resolution}
    (here : resolutions[place]? = some old)
    (other : old ≠ ⟨turn.handle, .performed turn.answer⟩) :
    Carries (resolutions.set place new) turn := by
  rcases carries with ⟨there, found⟩
  have elsewhere : place ≠ there := by
    rintro rfl
    exact other (Option.some.inj (here.symm.trans found))
  exact ⟨there, (List.getElem?_set_ne elsewhere).trans found⟩

theorem Coherent.ask (coherent : world.Coherent) {handle : Handle}
    (member : handle ∈ world.handles) :
    Coherent { world with resolutions := world.resolutions ++ [⟨handle, .asked⟩] } := by
  have old : ∀ (place : Nat) (resolution : Resolution),
      (world.resolutions ++ [⟨handle, .asked⟩])[place]? = some resolution →
        resolution.stage.holds = true → world.resolutions[place]? = some resolution := by
    intro place resolution found holds
    rw [List.getElem?_append] at found
    split at found
    · exact found
    · have new := List.mem_singleton.mp (List.mem_of_getElem? found)
      rw [new] at holds
      cases holds
  refine { coherent with
    known := ?_, apart := ?_, empty := ?_, finished := ?_, performed := ?_, held := ?_ }
  · exact forall_mem_concat coherent.known member
  · intro place other first second readFirst readSecond holdsFirst holdsSecond
    exact coherent.apart place other first second (old place first readFirst holdsFirst)
      (old other second readSecond holdsSecond) holdsFirst holdsSecond
  · exact forall_mem_concat coherent.empty nofun
  · exact forall_mem_concat coherent.finished nofun
  · exact forall_mem_concat coherent.performed nofun
  · intro turn taken unanswered
    rcases coherent.held turn taken unanswered with ⟨place, found⟩
    have inside := (List.getElem?_eq_some_iff.mp found).1
    exact ⟨place, (List.getElem?_append_left inside).trans found⟩

section

variable {place : Nat} {handle : Handle}

/-- A resolution that has only asked comes to a stage that fits its slot. -/
theorem Coherent.reach (coherent : world.Coherent) {stage : Stage}
    (here : world.resolutions[place]? = some ⟨handle, .asked⟩)
    (fresh : ∀ answer, stage ≠ .performed answer)
    (vacant : stage.holds = true →
      world.isHeld handle.slot = false ∧ world.service.slotAnswer? handle.slot = none)
    (answered : ∀ answer, stage = .finished answer →
      world.service.slotAnswer? handle.slot = some answer) :
    (world.reach place handle stage).Coherent := by
  have asked := List.mem_of_getElem? here
  refine { coherent with
    known := ?_, apart := ?_, empty := ?_, finished := ?_, performed := ?_, held := ?_ }
  · exact forall_mem_set coherent.known (coherent.known ⟨handle, .asked⟩ asked)
  · apply coherent.apart.set
    intro holds other second found claims shared
    have held : world.isHeld handle.slot = true := by
      apply List.any_eq_true.mpr
      exact ⟨second, List.mem_of_getElem? found, by simp [claims, shared]⟩
    rw [(vacant holds).1] at held
    cases held
  · exact forall_mem_set coherent.empty fun holds => (vacant holds).2
  · exact forall_mem_set coherent.finished answered
  · exact forall_mem_set coherent.performed fun answer same => absurd same (fresh answer)
  · intro turn taken unanswered
    exact (coherent.held turn taken unanswered).set here nofun

/-! ### Turns -/

/-- A claimed slot has had no turn: the turn would have left its answer with another
claim. -/
theorem Coherent.slot_ne_of_claimed (coherent : world.Coherent)
    (here : world.resolutions[place]? = some ⟨handle, .claimed⟩) :
    ∀ turn ∈ world.turns, turn.handle.slot ≠ handle.slot := by
  intro turn taken shared
  have vacant := coherent.empty _ (List.mem_of_getElem? here) rfl
  rw [← shared] at vacant
  rcases coherent.held turn taken vacant with ⟨other, found⟩
  have places : place = other := coherent.apart place other _ _ here found rfl rfl shared.symm
  subst places
  cases here.symm.trans found

theorem Coherent.taken_perform (coherent : world.Coherent) (known : handle ∈ world.handles) :
    ∀ turn ∈ world.turns ++ [world.turn handle], turn.handle ∈ world.handles ∧
      turn.service.catalog = (world.perform handle).service.catalog := by
  rw [world.catalog_perform]
  exact forall_mem_concat coherent.taken ⟨known, rfl⟩

theorem Coherent.once_perform (coherent : world.Coherent)
    (here : world.resolutions[place]? = some ⟨handle, .claimed⟩) :
    (world.turns ++ [world.turn handle]).Pairwise fun first second =>
      first.handle.slot ≠ second.handle.slot := by
  apply List.pairwise_append.mpr
  refine ⟨coherent.once, List.pairwise_singleton _ _, ?_⟩
  intro turn taken other new
  rw [List.mem_singleton.mp new]
  exact coherent.slot_ne_of_claimed here turn taken

theorem Coherent.performed_perform (coherent : world.Coherent) (place : Nat) (handle : Handle) :
    ∀ resolution ∈ world.resolutions.set place ⟨handle, .performed (world.turn handle).answer⟩,
      ∀ answer, resolution.stage = .performed answer →
        ∃ turn ∈ world.turns ++ [world.turn handle],
          turn.handle = resolution.handle ∧ turn.answer = answer := by
  apply forall_mem_set
  · intro resolution before answer stage
    rcases coherent.performed resolution before answer stage with ⟨turn, taken, found⟩
    exact ⟨turn, List.mem_append_left _ taken, found⟩
  · rintro answer ⟨⟩
    exact ⟨world.turn handle, List.mem_append_right _ List.mem_cons_self, rfl, rfl⟩

/-- Until the slot is filled, the resolution that has carried out the read has the answer
of the new turn. -/
theorem Coherent.held_perform (coherent : world.Coherent)
    (here : world.resolutions[place]? = some ⟨handle, .claimed⟩) :
    ∀ turn ∈ world.turns ++ [world.turn handle],
      world.service.slotAnswer? turn.handle.slot = none →
        Carries (world.resolutions.set place ⟨handle, .performed (world.turn handle).answer⟩)
          turn := by
  intro turn inside unanswered
  rcases List.mem_append.mp inside with before | new
  · exact (coherent.held turn before unanswered).set here nofun
  · have present := (List.getElem?_eq_some_iff.mp here).1
    rw [List.mem_singleton.mp new]
    exact ⟨place, List.getElem?_set_self present⟩

/-- The store has been handed what the turns say, with the new one. -/
theorem Coherent.handed_perform (coherent : world.Coherent) (handle : Handle) :
    (world.perform handle).service.store.handed =
      (world.turns ++ [world.turn handle]).flatMap Turn.statements := by
  change (world.turn handle).outcome.2.store.handed = _
  rw [Turn.handed_outcome, List.flatMap_append, ← coherent.handed, List.flatMap_singleton]
  rfl

/-- A resolution that has claimed its slot carries out the read. -/
theorem Coherent.perform (coherent : world.Coherent)
    (here : world.resolutions[place]? = some ⟨handle, .claimed⟩) :
    ((world.perform handle).reach place handle
      (.performed (world.turn handle).answer)).Coherent := by
  have claimed := List.mem_of_getElem? here
  have known : handle ∈ world.handles := coherent.known _ claimed
  have vacant : world.service.slotAnswer? handle.slot = none := coherent.empty _ claimed rfl
  have slots := world.slots_perform handle
  have same := world.slotAnswer?_perform handle
  have taken := coherent.taken_perform known
  have handed := coherent.handed_perform handle
  change World.Coherent ⟨(world.perform handle).service, world.handles,
    world.resolutions.set place ⟨handle, .performed (world.turn handle).answer⟩,
    world.turns ++ [world.turn handle]⟩
  -- Nothing else is needed of the service afterwards.
  generalize (world.perform handle).service = after at slots same taken handed ⊢
  constructor
  case placed =>
    intro other member
    exact slots.symm ▸ coherent.placed other member
  case copied => exact coherent.copied
  case known => exact forall_mem_set coherent.known known
  case apart =>
    apply coherent.apart.set
    intro _ other second found holds shared
    exact coherent.apart place other _ second here found rfl holds shared
  case empty =>
    apply forall_mem_set
    · intro resolution before holds
      exact (same _).trans (coherent.empty resolution before holds)
    · intro _
      exact (same _).trans vacant
  case finished =>
    apply forall_mem_set
    · intro resolution before answer stage
      exact (same _).trans (coherent.finished resolution before answer stage)
    · exact nofun
  case performed => exact coherent.performed_perform place handle
  case filled =>
    intro slot answer found
    rcases coherent.filled slot answer ((same slot).symm.trans found) with ⟨turn, taken, known⟩
    exact ⟨turn, List.mem_append_left _ taken, known⟩
  case taken => exact taken
  case held =>
    intro turn inside unanswered
    exact coherent.held_perform here turn inside ((same _).symm.trans unanswered)
  case once => exact coherent.once_perform here
  case handed => exact handed

/-! ### Answers -/

/-- The answer that is put into a slot is that of the turn of the slot. -/
theorem Coherent.filled_fill (coherent : world.Coherent) {answer : Answer}
    (here : world.resolutions[place]? = some ⟨handle, .performed answer⟩) :
    ∀ slot given, (world.fill handle.slot answer).service.slotAnswer? slot = some given →
      ∃ turn ∈ world.turns, turn.handle.slot = slot ∧ turn.answer = given := by
  have claimed := List.mem_of_getElem? here
  have inside := coherent.placed handle (coherent.known _ claimed)
  intro slot given found
  rcases (Service.slotAnswer?_fill_eq_some_iff inside).mp found with ⟨shared, same⟩ | ⟨_, before⟩
  · rcases coherent.performed _ claimed answer rfl with ⟨turn, taken, copy, known⟩
    exact ⟨turn, taken, by rw [copy, shared], known.trans same⟩
  · exact coherent.filled slot given before

/-- Resolutions elsewhere that hold a slot hold another one, which is as empty as
before. -/
theorem Coherent.empty_fill (coherent : world.Coherent) {answer : Answer}
    (here : world.resolutions[place]? = some ⟨handle, .performed answer⟩) :
    ∀ resolution ∈ world.resolutions.set place ⟨handle, .finished answer⟩,
      resolution.stage.holds = true →
        (world.fill handle.slot answer).service.slotAnswer? resolution.handle.slot = none := by
  have inside := coherent.placed handle (coherent.known _ (List.mem_of_getElem? here))
  intro resolution member holds
  rcases List.mem_iff_getElem?.mp member with ⟨other, found⟩
  rcases getElem?_set_cases found with ⟨_, rfl⟩ | ⟨elsewhere, before⟩
  · cases holds
  · have different : resolution.handle.slot ≠ handle.slot := by
      intro shared
      exact elsewhere (coherent.apart place other _ resolution here before rfl holds shared.symm)
    exact (Service.slotAnswer?_fill_eq_none_iff inside).mpr
      ⟨different, coherent.empty resolution (List.mem_of_getElem? before) holds⟩

/-- A resolution that has the answer puts it into its slot. -/
theorem Coherent.fill (coherent : world.Coherent) {answer : Answer}
    (here : world.resolutions[place]? = some ⟨handle, .performed answer⟩) :
    ((world.fill handle.slot answer).reach place handle (.finished answer)).Coherent := by
  have claimed := List.mem_of_getElem? here
  have known : handle ∈ world.handles := coherent.known _ claimed
  have vacant : world.service.slotAnswer? handle.slot = none := coherent.empty _ claimed rfl
  have inside := coherent.placed handle known
  refine { coherent with
    placed := ?_, known := forall_mem_set coherent.known known, apart := ?_
    empty := coherent.empty_fill here, finished := ?_
    performed := forall_mem_set coherent.performed nofun
    filled := coherent.filled_fill here, held := ?_ }
  · intro other member
    have length : (world.service.fill handle.slot answer).slots.length =
        world.service.slots.length := List.length_set
    exact length.symm ▸ coherent.placed other member
  · apply coherent.apart.set
    intro holds
    cases holds
  · apply forall_mem_set
    · intro resolution before given stage
      have answered := coherent.finished resolution before given stage
      have different : resolution.handle.slot ≠ handle.slot := by
        intro shared
        rw [shared, vacant] at answered
        cases answered
      exact (Service.slotAnswer?_fill_eq_some_iff inside).mpr (.inr ⟨different, answered⟩)
    · rintro given ⟨⟩
      exact (Service.slotAnswer?_fill_eq_some_iff inside).mpr (.inl ⟨rfl, rfl⟩)
  · intro turn taken unanswered
    rcases (Service.slotAnswer?_fill_eq_none_iff inside).mp unanswered with ⟨different, before⟩
    apply (coherent.held turn taken before).set here
    intro same
    exact different (congrArg (fun resolution => resolution.handle.slot) same).symm

end

/-! ## Steps and runs -/

theorem Coherent.advance (coherent : world.Coherent) {place : Nat} {resolution : Resolution}
    (here : world.resolutions[place]? = some resolution) :
    (world.advance place resolution).Coherent := by
  rcases resolution with ⟨handle, stage⟩
  cases stage with
  | asked =>
      simp only [World.advance]
      split
      · next answer answered =>
        apply coherent.reach here
        · intro given same
          cases same
        · intro holds
          cases holds
        · intro given same
          cases same
          exact answered
      · next vacant =>
        split
        · exact coherent
        · next unheld =>
          apply coherent.reach here
          · intro given same
            cases same
          · intro _
            exact ⟨by simpa using unheld, vacant⟩
          · intro given same
            cases same
  | claimed => exact coherent.perform here
  | performed answer => exact coherent.fill here
  | finished answer => exact coherent

/-- Whatever happens keeps a world coherent. -/
theorem Coherent.step (coherent : world.Coherent) (act : Act σ) : (world.step act).Coherent := by
  cases act with
  | read table => exact coherent.opened _ _
  | clone place =>
      simp only [World.step]
      cases found : world.handles[place]? with
      | none => simpa using coherent
      | some handle => exact coherent.clone (List.mem_of_getElem? found)
  | extend place step =>
      simp only [World.step]
      split
      · exact coherent
      · exact coherent.opened _ _
  | ask place =>
      simp only [World.step]
      cases found : world.handles[place]? with
      | none => simpa using coherent
      | some handle => exact coherent.ask (List.mem_of_getElem? found)
  | proceed place =>
      simp only [World.step]
      split
      · exact coherent
      · next resolution found => exact coherent.advance found
  | mutate change => exact { coherent with }

theorem Coherent.run (coherent : world.Coherent) (acts : List (Act σ)) :
    (world.run acts).Coherent := by
  induction acts generalizing world with
  | nil => exact coherent
  | cons act rest inductionHypothesis => exact inductionHypothesis (coherent.step act)

end World
end Interleaving
end RowGate
