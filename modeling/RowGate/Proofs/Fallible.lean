import Mathlib.Data.List.Forall2

namespace RowGate
namespace Fallible

/-!
# Steps that may fail

A chain of steps succeeds when each of them does, and a list of steps succeeds
when the answers stand beside the items one by one.  Planner and stores are
such chains; their lemmas take a successful run apart with the statements here.
-/

variable {ε α β : Type}

theorem bind_eq_ok {step : Except ε α} {next : α → Except ε β} {answer : β} :
    step.bind next = .ok answer ↔ ∃ value, step = .ok value ∧ next value = .ok answer := by
  cases step with
  | error _ => simp [Except.bind]
  | ok value => simp [Except.bind]

theorem bind_eq_error {step : Except ε α} {next : α → Except ε β} {error : ε} :
    step.bind next = .error error ↔
      step = .error error ∨ ∃ value, step = .ok value ∧ next value = .error error := by
  cases step with
  | error _ => simp [Except.bind]
  | ok value => simp [Except.bind]

theorem map_eq_ok {step : Except ε α} {f : α → β} {answer : β} :
    step.map f = .ok answer ↔ ∃ value, step = .ok value ∧ f value = answer := by
  cases step with
  | error _ => simp [Except.map]
  | ok value => simp [Except.map]

theorem map_eq_error {step : Except ε α} {f : α → β} {error : ε} :
    step.map f = .error error ↔ step = .error error := by
  cases step with
  | error _ => simp [Except.map]
  | ok value => simp [Except.map]

theorem exists_map_eq_ok_iff {step : Except ε α} {f : α → β} :
    (∃ answer, step.map f = .ok answer) ↔ ∃ value, step = .ok value := by
  cases step with
  | error _ => simp [Except.map]
  | ok value => simp [Except.map]

/-- A list of steps succeeds exactly when the step of every item does, and its
answers are theirs. -/
theorem mapM_eq_ok {step : α → Except ε β} {items : List α} {answers : List β} :
    items.mapM step = .ok answers ↔
      List.Forall₂ (fun item answer => step item = .ok answer) items answers := by
  induction items generalizing answers with
  | nil =>
      constructor
      · intro equal
        cases equal
        exact .nil
      · intro related
        cases related
        rfl
  | cons item rest inductionHypothesis =>
      rw [List.mapM_cons]
      constructor
      · intro equal
        rcases bind_eq_ok.mp equal with ⟨first, here, equal⟩
        rcases bind_eq_ok.mp equal with ⟨others, there, equal⟩
        cases equal
        exact .cons here (inductionHypothesis.mp there)
      · intro related
        cases related with
        | cons here there =>
            exact bind_eq_ok.mpr ⟨_, here, bind_eq_ok.mpr ⟨_, inductionHypothesis.mpr there, rfl⟩⟩

/-- A list of steps succeeds if and only if each of them does. -/
theorem exists_mapM_eq_ok_iff {step : α → Except ε β} {items : List α} :
    (∃ answers, items.mapM step = .ok answers) ↔
      ∀ item ∈ items, ∃ answer, step item = .ok answer := by
  induction items with
  | nil => simp [pure, Except.pure]
  | cons item rest inductionHypothesis =>
      rw [List.forall_mem_cons, ← inductionHypothesis]
      constructor
      · rintro ⟨answers, all⟩
        cases mapM_eq_ok.mp all with
        | cons here there => exact ⟨⟨_, here⟩, ⟨_, mapM_eq_ok.mpr there⟩⟩
      · rintro ⟨⟨first, here⟩, ⟨others, there⟩⟩
        exact ⟨first :: others, mapM_eq_ok.mpr (.cons here (mapM_eq_ok.mp there))⟩

/-- Where the answers of all steps are known, so is the list of them. -/
theorem eq_map_of_mapM {step : α → Except ε β} {f : α → β} {items : List α} {answers : List β}
    (known : ∀ item ∈ items, ∀ answer, step item = .ok answer → answer = f item)
    (answered : items.mapM step = .ok answers) : answers = items.map f := by
  have related := mapM_eq_ok.mp answered
  clear answered
  induction related with
  | nil => rfl
  | cons here _ inductionHypothesis =>
      rcases List.forall_mem_cons.mp known with ⟨first, others⟩
      rw [List.map_cons, ← first _ here, ← inductionHypothesis others]

/-- Every answer of a list of steps is the answer of the step of an item. -/
theorem exists_step_of_mem {step : α → Except ε β} {items : List α} {answers : List β}
    (answered : items.mapM step = .ok answers) {answer : β} (member : answer ∈ answers) :
    ∃ item ∈ items, step item = .ok answer := by
  have related := mapM_eq_ok.mp answered
  clear answered
  induction related with
  | nil => exact absurd member List.not_mem_nil
  | cons here _ inductionHypothesis =>
      rcases List.mem_cons.mp member with rfl | later
      · exact ⟨_, List.mem_cons_self, here⟩
      · rcases inductionHypothesis later with ⟨item, inside, there⟩
        exact ⟨item, List.mem_cons_of_mem _ inside, there⟩

/-- The error of a list of steps is the error of one of them. -/
theorem exists_step_of_mapM_error {step : α → Except ε β} {items : List α} {error : ε}
    (failed : items.mapM step = .error error) : ∃ item ∈ items, step item = .error error := by
  induction items with
  | nil => cases failed
  | cons item rest inductionHypothesis =>
      rw [List.mapM_cons] at failed
      rcases bind_eq_error.mp failed with here | ⟨first, _, failed⟩
      · exact ⟨item, List.mem_cons_self, here⟩
      · rcases bind_eq_error.mp failed with later | ⟨others, _, failed⟩
        · rcases inductionHypothesis later with ⟨other, member, there⟩
          exact ⟨other, List.mem_cons_of_mem _ member, there⟩
        · cases failed

end Fallible
end RowGate
