import RowGate.Proofs.Http.QueryString
import RowGate.Proofs.Plan.Scope
import RowGate.Proofs.Service.Recorder
import RowGate.Store.Memory

namespace RowGate

/-!
# No unfiltered write

An update or a delete is planned from its recognized predicates alone, and is
refused where there are none.  No run of calls, HTTP requests among them, hands
a store an update or a delete without a condition; and a write without a
recognized predicate leaves the store as it is, with all tables and the number
of statements executed.
-/

/-! ## The predicates of a query -/

namespace Http

namespace Parameters

/-- A pair that is not reserved on any method. -/
def isFilter (pair : String × String) : Bool :=
  pair.1 ≠ "select" && pair.1 ≠ "table"

/-- Where order and limit are not reserved no pair is malformed, and the filters stay
in order. -/
theorem read_of_ne_get {method : String} (writes : method ≠ "GET")
    (pairs : List (String × String)) :
    ∃ parameters, read method pairs = .ok parameters ∧
      parameters.filters = pairs.filter isFilter := by
  cases done : read method pairs with
  | error failure => exact absurd (read_eq_error_iff.mp done).1 writes
  | ok parameters =>
      have kept := (splits_of_read done).filters
      rw [beq_eq_false_iff_ne.mpr writes] at kept
      refine ⟨parameters, rfl, kept.trans (List.filter_congr ?_)⟩
      intro pair _
      simp [isFilter, reserved]

end Parameters

/-- The predicates of the query of a write. -/
def Request.predicates (request : Request) : List Predicate :=
  ((Text.Percent.pairs (Target.parts request.target).2).filter Parameters.isFilter).map
    fun pair => .ofPair pair.1 pair.2

end Http

/-! ## Refused writes -/

variable {σ κ : Type}

namespace Service

variable [Store σ]

theorem store_update_of_unrecognized (service : Service σ) (now : Time.Instant) (name : String)
    {predicates : List Predicate} (content : Json)
    (unfiltered : Plan.recognized predicates = []) :
    (service.update now name predicates content).2.store = service.store := by
  have refused : ∃ failure,
      planUpdate service.catalog now name predicates content = .error failure := by
    simp only [planUpdate, Plan.update_of_recognized_eq_nil _ _ unfiltered]
    unfold reportShape
    split
    · exact ⟨_, rfl⟩
    · exact ⟨_, rfl⟩
  rcases refused with ⟨failure, refused⟩
  simp only [Service.update, refused, executePlan, recordAll]

theorem store_delete_of_unrecognized (service : Service σ) (name : String)
    {predicates : List Predicate} (unfiltered : Plan.recognized predicates = []) :
    (service.delete name predicates).2.store = service.store := by
  simp only [Service.delete, Plan.delete_of_recognized_eq_nil unfiltered, executePlan, recordAll]

end Service

namespace Http

theorem store_noteFailure (service : Service σ) (method target : String) (failure : Failure) :
    (noteFailure service method target failure).store = service.store := by
  unfold noteFailure
  split <;> rfl

variable [Store σ]

/-- The methods that write to the rows that predicates choose. -/
def filteredMethods : List String := ["PATCH", "DELETE"]

theorem ne_of_mem_filteredMethods {method : String} (writes : method ∈ filteredMethods) :
    method ≠ "GET" ∧ method ≠ "POST" ∧ method ≠ "OPTIONS" ∧ method ≠ "HEAD" := by
  rcases List.mem_cons.mp writes with rfl | later
  · decide
  · rw [List.mem_singleton.mp later]
    decide

theorem store_dispatch_of_unrecognized (service : Service σ) (now : Time.Instant)
    {method : String} (table : String) {pairs : List (String × String)} (body : List UInt8)
    (writes : method ∈ filteredMethods)
    (unfiltered : Plan.recognized ((pairs.filter Parameters.isFilter).map
      fun pair => Predicate.ofPair pair.1 pair.2) = []) :
    (dispatch service now method table pairs body).2.store = service.store := by
  rcases ne_of_mem_filteredMethods writes with ⟨notGet, notPost, _, _⟩
  rcases Parameters.read_of_ne_get notGet pairs with ⟨parameters, read, filters⟩
  have empty : Plan.recognized parameters.predicates = [] := by
    unfold Parameters.predicates
    rw [filters]
    exact unfiltered
  unfold dispatch
  rw [if_neg notGet, if_neg notPost, read]
  split
  · rfl
  · split
    · cases bodyValue body with
      | error failure => rfl
      | ok content =>
          dsimp only
          exact service.store_update_of_unrecognized now table content empty
    · split
      · dsimp only
        exact service.store_delete_of_unrecognized table empty
      · rfl

theorem store_answer_of_unrecognized (service : Service σ) (now : Time.Instant) (cors : Cors)
    {request : Request} (writes : request.method ∈ filteredMethods)
    (unfiltered : Plan.recognized request.predicates = []) :
    (answer service now cors request).2.store = service.store := by
  rcases ne_of_mem_filteredMethods writes with ⟨notGet, notPost, notOptions, notHead⟩
  simp only [answer, if_neg notOptions]
  cases Route.ofPath (Target.parts request.target).1 with
  | health => simp only [answerRoute, if_neg notGet, if_neg notHead]
  | noTable => exact store_noteFailure service request.method "" .missingTable
  | procedure segment => simp only [answerRoute, if_neg notPost]
  | unknown => rfl
  | table segment =>
      simp only [answerRoute, answerTable]
      split
      · rfl
      · next table _ =>
        split
        · rfl
        · have kept := store_dispatch_of_unrecognized service now table request.body writes
            unfiltered
          generalize dispatch service now request.method table
            (Text.Percent.pairs (Target.parts request.target).2) request.body = outcome at kept ⊢
          cases outcome.1 with
          | ok data => exact kept
          | error failure =>
              exact (store_noteFailure outcome.2 request.method table failure).trans kept

end Http

/-! ## The main statement -/

/-- Whether a write is planned, and as what, depends on its recognized
predicates alone, and without one it is refused for every listed table.  What a
run hands to its store holds no update or delete without a condition, and a
write without a recognized predicate leaves the store alone, whether it is a
call or an HTTP request. -/
theorem no_unfiltered_write [Store σ] [Auth.KeyStore κ] (service : Service σ) :
    (∀ (catalog : Catalog) (name : String) (predicates : List Predicate) (patch : Row)
        (stamp : Option String),
      Plan.update catalog name predicates patch stamp =
          Plan.update catalog name (Plan.recognized predicates) patch stamp ∧
        Plan.delete catalog name predicates =
          Plan.delete catalog name (Plan.recognized predicates) ∧
        ∀ table declared, catalog.tables.get? table = some declared → Text.trim name = table →
          table ≠ "" → Plan.recognized predicates = [] →
          Plan.update catalog name predicates patch stamp = .error (.missingFilter "update") ∧
            Plan.delete catalog name predicates = .error (.missingFilter "delete")) ∧
    (∀ calls : List (Time.Instant × Call κ),
      (service.recorded.serveAll calls).1 = (service.serveAll calls).1 ∧
        (service.recorded.serveAll calls).2.store.store = (service.serveAll calls).2.store ∧
        ∀ statement ∈ (service.recorded.serveAll calls).2.store.handed,
          ¬ statement.IsUnfiltered) ∧
    (∀ (now : Time.Instant) (name : String) (predicates : List Predicate) (content : Json),
      Plan.recognized predicates = [] →
        (service.update now name predicates content).2.store = service.store ∧
          (service.delete name predicates).2.store = service.store) ∧
    (∀ (now : Time.Instant) (cors : Http.Cors) (request : Http.Request),
      request.method ∈ Http.filteredMethods → Plan.recognized request.predicates = [] →
        (Http.answer service now cors request).2.store = service.store) := by
  refine ⟨?_, ?_, ?_, ?_⟩
  · intro catalog name predicates patch stamp
    refine ⟨(Plan.update_recognized catalog name predicates patch stamp).symm,
      (Plan.delete_recognized catalog name predicates).symm, ?_⟩
    intro table declared listed named filled unfiltered
    have read : Plan.table catalog name = .ok table :=
      Plan.table_eq_ok.mpr ⟨named, filled, declared, Catalog.table_eq_ok.mpr listed⟩
    rw [Plan.update_of_recognized_eq_nil patch stamp unfiltered,
      Plan.delete_of_recognized_eq_nil unfiltered]
    simp only [Plan.refusal, read, and_self]
  · intro calls
    rcases service.serveAll_recorded calls with ⟨replies, stores, issued⟩
    refine ⟨replies, stores, ?_⟩
    intro statement member
    rcases issued statement member with ⟨request, _, planned⟩
    exact Plan.not_isUnfiltered_of_plan planned
  · intro now name predicates content unfiltered
    exact ⟨service.store_update_of_unrecognized now name content unfiltered,
      service.store_delete_of_unrecognized name unfiltered⟩
  · intro now cors request writes unfiltered
    exact Http.store_answer_of_unrecognized service now cors writes unfiltered

/-- A service over an empty store in memory. -/
def Service.ofItems : Service Memory :=
  .start (.ofCatalog .items) .items Service.defaultAuditTable .empty ⟨fun _ => 0, 0⟩

/-- A pattern is no recognized comparison, so a request to delete by one deletes
nothing, and says so. -/
theorem pattern_deletes_nothing :
    let request : Http.Request := ⟨"DELETE", "/rest/v1/items?select=id&rank=like.7", [], []⟩
    let now : Time.Instant := .ofMillis 0
    (request.method ∈ Http.filteredMethods ∧ Plan.recognized request.predicates = []) ∧
      Plan.delete .items " items " request.predicates = .error (.missingFilter "delete") ∧
      (Http.answer Service.ofItems now ⟨[]⟩ request).2.store = Service.ofItems.store := by
  intro request now
  have unfiltered : Plan.recognized request.predicates = [] := by decide +kernel
  have writes : request.method ∈ Http.filteredMethods := by decide
  rcases no_unfiltered_write (κ := Auth.MemoryKeys) Service.ofItems with ⟨planning, _, _, http⟩
  have listed : Catalog.items.tables.get? "items" ≠ none := by decide +kernel
  rcases Option.ne_none_iff_exists'.mp listed with ⟨declared, listed⟩
  exact ⟨⟨writes, unfiltered⟩,
    ((planning .items " items " request.predicates .empty none).2.2 "items" declared listed
      (by decide +kernel) (by decide) unfiltered).2,
    http now ⟨[]⟩ request writes unfiltered⟩

end RowGate
