import RowGate.Proofs.Service.Calls

namespace RowGate

/-!
# What is handed to a store

A recorder is a store that passes everything on to another store and keeps the
statements that it was handed, in order.  A service over a recorder replies as
one over the store alone does, and leaves that store in the same state, so the
record of a run is what the run hands to its store.  Every statement of it is
what the planner made of a request.
-/

/-- A store, and the statements that have been handed to it. -/
structure Recorder (σ : Type) where
  store : σ
  handed : List Statement

variable {σ κ : Type}

instance [Store σ] : Store (Recorder σ) where
  name := Store.name σ
  execute recorder statement :=
    let executed := Store.execute recorder.store statement
    (executed.1, ⟨executed.2, recorder.handed ++ [statement]⟩)
  close recorder :=
    let closed := Store.close recorder.store
    (closed.1, ⟨closed.2, recorder.handed⟩)

namespace Recorder

/-- The recorder passes on to this store, and has been handed statements of the
planner only. -/
def Follows (catalog : Catalog) (recorder : Recorder σ) (store : σ) : Prop :=
  recorder.store = store ∧ ∀ statement ∈ recorder.handed, Plan.Issues catalog statement

theorem simulation [Store σ] (catalog : Catalog) :
    Simulation catalog (Follows (σ := σ) catalog) where
  name := rfl
  execute := by
    rintro recorder store statement ⟨rfl, recorded⟩ issued
    refine ⟨rfl, rfl, ?_⟩
    intro other member
    rcases List.mem_append.mp member with before | now
    · exact recorded other before
    · rw [List.mem_singleton.mp now]
      exact issued
  close := by
    rintro recorder store ⟨rfl, recorded⟩
    exact ⟨rfl, rfl, recorded⟩

end Recorder

namespace Service

/-- The service over a recorder that has not been handed anything yet. -/
def recorded (service : Service σ) : Service (Recorder σ) where
  store := ⟨service.store, []⟩
  catalog := service.catalog
  auditTable := service.auditTable
  journal := service.journal
  random := service.random
  slots := service.slots

theorem linked_recorded (service : Service σ) :
    Linked service.catalog (Recorder.Follows service.catalog) service.recorded service where
  store := ⟨rfl, fun _ member => absurd member List.not_mem_nil⟩
  firstCatalog := rfl
  secondCatalog := rfl
  auditTable := rfl
  journal := rfl
  random := rfl
  slots := rfl

/-- A run over a recorder is the run over the store, and the record holds
statements of the planner only. -/
theorem serveAll_recorded [Store σ] [Auth.KeyStore κ] (service : Service σ)
    (calls : List (Time.Instant × Call κ)) :
    (service.recorded.serveAll calls).1 = (service.serveAll calls).1 ∧
      (service.recorded.serveAll calls).2.store.store = (service.serveAll calls).2.store ∧
      ∀ statement ∈ (service.recorded.serveAll calls).2.store.handed,
        Plan.Issues service.catalog statement := by
  have run := service.linked_recorded.serveAll (Recorder.simulation service.catalog) calls
  exact ⟨run.1, run.2.store.1, run.2.store.2⟩

end Service
end RowGate
