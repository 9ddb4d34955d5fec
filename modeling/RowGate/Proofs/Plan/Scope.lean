import RowGate.Proofs.Plan.Request

namespace RowGate

/-!
# The scope of writes

Predicates whose operator is not recognized do not take part in a plan: an
update or a delete is planned from the recognized ones alone.  If there are
none, the write is refused, so a planned write has a condition.
-/

namespace Predicate

/-- Whether the planner knows the operator. -/
def isRecognized (predicate : Predicate) : Bool :=
  predicate.operator?.isSome

end Predicate

namespace Statement

/-- An update or a delete of all rows of its table. -/
def IsUnfiltered : Statement → Prop
  | .update _ _ _ conditions => conditions = []
  | .delete _ conditions => conditions = []
  | .select _ | .insert _ _ => False

end Statement

namespace Plan

/-- The predicates that a plan takes into account, in order. -/
def recognized (predicates : List Predicate) : List Predicate :=
  predicates.filter Predicate.isRecognized

variable {catalog : Catalog} {name operation : String} {predicates : List Predicate}

/-- The conditions are those of the recognized predicates, and fail where
those fail. -/
theorem conditions_recognized (catalog : Catalog) (name : String) (predicates : List Predicate) :
    conditions catalog name (recognized predicates) = conditions catalog name predicates := by
  induction predicates with
  | nil => rfl
  | cons predicate rest inductionHypothesis =>
      unfold recognized at inductionHypothesis ⊢
      cases known : predicate.operator? with
      | none =>
          have passed : predicate.isRecognized = false := by
            simp [Predicate.isRecognized, known]
          rw [List.filter_cons_of_neg (by simp [passed]), inductionHypothesis]
          simp only [conditions, known]
      | some operator =>
          have kept : predicate.isRecognized = true := by
            simp [Predicate.isRecognized, known]
          rw [List.filter_cons_of_pos kept]
          simp only [conditions, known, inductionHypothesis]

theorem scope_recognized (catalog : Catalog) (name operation : String)
    (predicates : List Predicate) :
    scope catalog name operation (recognized predicates) =
      scope catalog name operation predicates := by
  unfold scope
  rw [conditions_recognized]

/-- Without a recognized predicate no write has a scope. -/
theorem scope_of_recognized_eq_nil (unfiltered : recognized predicates = []) :
    scope catalog name operation predicates = .error (.missingFilter operation) := by
  rw [← scope_recognized, unfiltered]
  rfl

theorem scope_ne_nil {bound : List Condition}
    (planned : scope catalog name operation predicates = .ok bound) : bound ≠ [] := by
  rcases Fallible.bind_eq_ok.mp planned with ⟨others, _, kept⟩
  split at kept
  · cases kept
  · next filled =>
    cases kept
    exact filled

/-- The failure that an update or a delete without a recognized predicate
meets: that of the table, or else the missing condition. -/
def refusal (catalog : Catalog) (name operation : String) : Failure :=
  match Plan.table catalog name with
  | .error failure => failure
  | .ok _ => .missingFilter operation

theorem update_recognized (catalog : Catalog) (name : String) (predicates : List Predicate)
    (patch : Row) (stamp : Option String) :
    Plan.update catalog name (recognized predicates) patch stamp =
      Plan.update catalog name predicates patch stamp := by
  unfold Plan.update
  simp only [scope_recognized]

theorem delete_recognized (catalog : Catalog) (name : String) (predicates : List Predicate) :
    Plan.delete catalog name (recognized predicates) = Plan.delete catalog name predicates := by
  unfold Plan.delete
  simp only [scope_recognized]

theorem update_of_recognized_eq_nil (patch : Row) (stamp : Option String)
    (unfiltered : recognized predicates = []) :
    Plan.update catalog name predicates patch stamp =
      .error (refusal catalog name "update") := by
  unfold Plan.update refusal
  cases Plan.table catalog name with
  | error _ => rfl
  | ok table =>
      change (scope catalog table "update" predicates).bind _ = _
      rw [scope_of_recognized_eq_nil unfiltered]
      rfl

theorem delete_of_recognized_eq_nil (unfiltered : recognized predicates = []) :
    Plan.delete catalog name predicates = .error (refusal catalog name "delete") := by
  unfold Plan.delete refusal
  cases Plan.table catalog name with
  | error _ => rfl
  | ok table =>
      change (scope catalog table "delete" predicates).bind _ = _
      rw [scope_of_recognized_eq_nil unfiltered]
      rfl

/-- No planned statement writes to a whole table. -/
theorem not_isUnfiltered_of_plan {request : Request} {statement : Statement}
    (planned : request.plan catalog = .ok statement) : ¬ statement.IsUnfiltered := by
  cases request with
  | read request =>
      rcases Fallible.bind_eq_ok.mp planned with ⟨_, _, planned⟩
      rcases Fallible.bind_eq_ok.mp planned with ⟨_, _, planned⟩
      rcases Fallible.bind_eq_ok.mp planned with ⟨_, _, planned⟩
      rcases Fallible.bind_eq_ok.mp planned with ⟨_, _, planned⟩
      cases planned
      exact id
  | insert table row =>
      rcases Fallible.bind_eq_ok.mp planned with ⟨_, _, planned⟩
      rcases Fallible.bind_eq_ok.mp planned with ⟨_, _, planned⟩
      cases planned
      exact id
  | update table predicates patch stamp =>
      rcases update_eq_ok planned with ⟨_, _, _, _, _, _, _, conditioned, _, _, _, rfl⟩
      exact scope_ne_nil conditioned
  | delete table predicates =>
      rcases Fallible.bind_eq_ok.mp planned with ⟨_, _, planned⟩
      rcases Fallible.bind_eq_ok.mp planned with ⟨_, conditioned, planned⟩
      cases planned
      exact scope_ne_nil conditioned

end Plan
end RowGate
