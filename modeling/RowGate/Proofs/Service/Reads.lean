import RowGate.Proofs.Service.Interleaving

namespace RowGate
namespace Service

/-!
# Reads that are carried out at once

A read that is described and resolved in one go meets an empty slot, whatever was
read before.  So it is planned and executed, and its answer has the rows that the
store returns.  How the columns of the read are written does not matter to it, as long
as the same columns are meant.
-/

variable {σ : Type}

/-! ## Empty slots -/

/-- A new handle points to an empty slot. -/
theorem slotAnswer?_newHandle_slot (service : Service σ) (request : ReadRequest) (single : Bool) :
    (service.newHandle request single).2.slotAnswer? (service.newHandle request single).1.slot =
      none := by
  rw [slotAnswer?_newHandle, slotAnswer?, newHandle, List.getElem?_eq_none (Nat.le_refl _)]
  rfl

theorem slotAnswer?_extendAll {service : Service σ} {handle : Handle}
    (vacant : service.slotAnswer? handle.slot = none) (steps : List ReadStep) :
    (service.extendAll handle steps).2.slotAnswer? (service.extendAll handle steps).1.slot =
      none := by
  induction steps generalizing service handle with
  | nil => exact vacant
  | cons step rest inductionHypothesis =>
      apply inductionHypothesis
      exact service.slotAnswer?_newHandle_slot _ _

/-! ## Statements -/

theorem execute_of_error [Store σ] {service : Service σ} {statement : Statement}
    {error : StoreError} (failed : (Store.execute service.store statement).1 = .error error) :
    service.execute statement =
      (.error error.toFailure,
        { service with store := (Store.execute service.store statement).2 }) := by
  simp only [execute, failed]

theorem execute_of_ok [Store σ] {service : Service σ} {statement : Statement} {rows : List Row}
    (done : (Store.execute service.store statement).1 = .ok rows) :
    service.execute statement =
      (.ok rows,
        { service with store := (Store.execute service.store statement).2 }.record
          (executedEvent σ statement rows)) := by
  simp only [execute, done]

/-! ## Reads with one predicate -/

theorem perform_of_ok [Store σ] {service : Service σ} {request : ReadRequest}
    {statement : Statement} {rows : List Row} (whole : request.counting = false)
    (planned : Plan.select service.catalog request = .ok statement)
    (done : (Store.execute service.store statement).1 = .ok rows) :
    (service.perform request false).1 = .ofRows rows := by
  -- The events of a read are noted first, which leaves the store alone.
  have executed : ∀ noted : Service σ, noted.store = service.store →
      (noted.execute statement).1 = .ok rows := by
    intro noted same
    rw [← same] at done
    exact congrArg Prod.fst (execute_of_ok done)
  simp only [perform, planned, executePlan, executed (service.recordAll _) rfl, whole,
    Bool.false_eq_true, if_false]

theorem readNow_filter [Store σ] {service : Service σ} {name : String} {predicate : Predicate}
    {statement : Statement} {rows : List Row}
    (planned : Plan.select service.catalog ((ReadRequest.ofTable name).filter predicate) =
      .ok statement)
    (done : (Store.execute service.store statement).1 = .ok rows) :
    (service.readNow name [.filter predicate]).1 = .ofRows rows := by
  have vacant := slotAnswer?_extendAll
    (service.slotAnswer?_newHandle_slot (.ofTable name) false) [.filter predicate]
  simp only [readNow, resolve, read, vacant]
  apply perform_of_ok rfl
  · exact planned
  · exact done

end Service

/-! ## Alike descriptions -/

/-- Two descriptions differ at most in how they write the same columns. -/
def ReadRequest.Alike (catalog : Catalog) (first second : ReadRequest) : Prop :=
  ∃ columns, second = { first with select := columns } ∧
    ∀ name, Plan.projection catalog name first.select = Plan.projection catalog name columns

namespace ReadRequest.Alike

variable {catalog : Catalog} {first second : ReadRequest}

theorem apply (alike : Alike catalog first second) (step : ReadStep) :
    Alike catalog (step.apply first) (step.apply second) := by
  rcases alike with ⟨columns, rfl, same⟩
  cases step with
  | select others => exact ⟨others, rfl, fun _ => rfl⟩
  | filter _ | order _ | limit _ | count _ | single => exact ⟨columns, rfl, same⟩

theorem select_eq (alike : Alike catalog first second) :
    Plan.select catalog first = Plan.select catalog second := by
  rcases alike with ⟨columns, rfl, same⟩
  simp only [Plan.select, same]

theorem readEvents_eq (alike : Alike catalog first second) :
    Service.readEvents catalog first = Service.readEvents catalog second := by
  rcases alike with ⟨columns, rfl, same⟩
  simp only [Service.readEvents, same]

theorem counting_eq (alike : Alike catalog first second) : first.counting = second.counting := by
  rcases alike with ⟨columns, rfl, _⟩
  rfl

end ReadRequest.Alike

/-- Two handles share a slot, and their descriptions are alike. -/
structure Handle.Alike (catalog : Catalog) (first second : Handle) : Prop where
  request : first.request.Alike catalog second.request
  single : first.single = second.single
  slot : first.slot = second.slot

namespace Service

variable {catalog : Catalog} {first second : Handle}

/-- Alike handles are alike after the same steps, and leave the same service. -/
theorem extendAll_alike (service : Service σ) (alike : first.Alike catalog second)
    (steps : List ReadStep) :
    (service.extendAll first steps).1.Alike catalog (service.extendAll second steps).1 ∧
      (service.extendAll first steps).2 = (service.extendAll second steps).2 := by
  induction steps generalizing service first second with
  | nil => exact ⟨alike, rfl⟩
  | cons step rest inductionHypothesis =>
      have extended : (service.extend first step).1.Alike catalog
          (service.extend second step).1 := by
        refine ⟨alike.request.apply step, ?_, rfl⟩
        exact congrArg (· || step.narrows) alike.single
      exact inductionHypothesis (service.extend first step).2 extended

theorem catalog_extendAll (service : Service σ) (handle : Handle) (steps : List ReadStep) :
    (service.extendAll handle steps).2.catalog = service.catalog := by
  induction steps generalizing service handle with
  | nil => rfl
  | cons step rest inductionHypothesis => exact inductionHypothesis _ _

variable (service : Service σ) {columns others : String} (table : String) (steps : List ReadStep)

/-- Two ways to write the same columns describe alike reads. -/
theorem describe_alike (same : ∀ name, Plan.projection catalog name columns =
      Plan.projection catalog name others) :
    let opened := service.read table
    let first := opened.2.extendAll opened.1 (.select columns :: steps)
    let second := opened.2.extendAll opened.1 (.select others :: steps)
    first.1.Alike catalog second.1 ∧ first.2 = second.2 := by
  intro opened first second
  have chosen : (opened.2.extend opened.1 (.select columns)).1.Alike catalog
      (opened.2.extend opened.1 (.select others)).1 :=
    ⟨⟨others, rfl, same⟩, rfl, rfl⟩
  exact extendAll_alike (opened.2.extend opened.1 (.select columns)).2 chosen steps

variable [Store σ]

theorem resolve_alike (known : service.catalog = catalog) (alike : first.Alike catalog second) :
    service.resolve first = service.resolve second := by
  subst known
  have performed : service.perform first.request first.single =
      service.perform second.request second.single := by
    simp only [perform, alike.request.readEvents_eq, alike.request.select_eq,
      alike.request.counting_eq, alike.single]
  simp only [resolve, alike.slot, performed]

/-- Two ways to write the same columns make no difference to a read. -/
theorem readNow_select_eq (same : ∀ name, Plan.projection service.catalog name columns =
      Plan.projection service.catalog name others) :
    service.readNow table (.select columns :: steps) =
      service.readNow table (.select others :: steps) := by
  let opened := service.read table
  let described := opened.2.extendAll opened.1 (.select columns :: steps)
  rcases service.describe_alike table steps same with ⟨alike, left⟩
  have known : described.2.catalog = service.catalog := opened.2.catalog_extendAll opened.1 _
  have resolved := described.2.resolve_alike known alike
  exact resolved.trans (congrArg (fun service => resolve service _) left)

end Service
end RowGate
