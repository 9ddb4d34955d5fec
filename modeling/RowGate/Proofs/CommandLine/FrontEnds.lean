import RowGate.CommandLine.Run
import RowGate.Proofs.Http.QueryString
import RowGate.Proofs.Plan.Request
import RowGate.Proofs.Service.Reads
import RowGate.Proofs.Service.WriteScope

namespace RowGate

/-!
# One question on two ways

A read is asked for by arguments of the command line, or by the pairs of a request.
If they have the same parts, both ways reject the order for the same reason, or both
describe reads that are planned alike and have the same answer.

The two descriptions need not be equal.  A blank choice of columns is passed over
among pairs, and kept among arguments.  It is then a list without a name, which means
all columns as well.
-/

/-! ## Columns -/

theorem Plan.projection_of_blank {select : String} (blank : Text.isAllBlank select = true)
    (catalog : Catalog) (table : String) : projection catalog table select = .ok .all := by
  have absent : ',' ∉ select.toList := by
    intro member
    have visible := List.all_eq_true.mp blank ',' member
    cases visible
  have nameless : columnNames select = [] := by
    unfold columnNames
    rw [Text.pieces_eq_singleton absent, List.map_singleton, Text.trimmed_eq_nil_iff.mpr blank]
    rfl
  rw [projection, nameless]
  rfl

namespace CommandLine

/-! ## Arguments -/

/-- The argument of a filter. -/
def Inquiry.argument (filter : String × String) : String :=
  filter.1 ++ "=" ++ filter.2

namespace Inquiry

theorem predicate_argument {filter : String × String} (plain : '=' ∉ filter.1.toList) :
    predicate (argument filter) = .ok (.ofPair filter.1 filter.2) := by
  have parts : (argument filter).toList = filter.1.toList ++ '=' :: filter.2.toList := by
    rw [argument, String.toList_append, String.toList_append, List.append_assoc]
    rfl
  simp only [predicate, parts, Text.cutFirst_append _ plain, String.ofList_toList]

theorem mapM_predicate {filters : List (String × String)}
    (plain : ∀ filter ∈ filters, '=' ∉ filter.1.toList) :
    (filters.map argument).mapM predicate =
      .ok (filters.map fun filter => .ofPair filter.1 filter.2) := by
  rw [Fallible.mapM_eq_ok, List.forall₂_map_left_iff, List.forall₂_map_right_iff,
    List.forall₂_same]
  intro filter member
  exact predicate_argument (plain filter member)

end Inquiry

/-! ## Equal parts -/

/-- The pairs of a request have the parts of an inquiry, in whatever places: its
filters in their order, once its columns, and once its order and its limit if it has
them.  No filter is for a reserved key, and the limit may be written in any way. -/
structure Asks (pairs : List (String × String)) (inquiry : Inquiry)
    (filters : List (String × String)) : Prop where
  plain : ∀ filter ∈ filters, '=' ∉ filter.1.toList
  arguments : inquiry.filters = filters.map Inquiry.argument
  filters : (pairs.filter fun pair => pair.1 ∉ Http.Parameters.reserved true) = filters
  select : Http.Parameters.valuesOf "select" pairs = [inquiry.select]
  order : Http.Parameters.valuesOf "order" pairs = inquiry.order.toList
  limit : ∃ written : Option String, Http.Parameters.valuesOf "limit" pairs = written.toList ∧
    Option.Rel Http.Parameters.LimitOf written inquiry.limit

variable {pairs filters : List (String × String)} {inquiry : Inquiry}

/-! ## Descriptions -/

/-- The steps behind the columns, for a given order. -/
def stepsBehind (filters : List (String × String)) (order : Option SortOrder) (limit : Option Nat) :
    List ReadStep :=
  (filters.map fun filter => Predicate.ofPair filter.1 filter.2).map .filter ++
    (order.map ReadStep.order).toList ++ (limit.map ReadStep.limit).toList

open Http.Parameters in
/-- A text says one limit at most. -/
theorem limit_unique {written : Option String} {first second : Option Nat}
    (one : Option.Rel LimitOf written first) (other : Option.Rel LimitOf written second) :
    first = second := by
  cases one with
  | none =>
      cases other
      rfl
  | some one =>
      cases other with
      | some other =>
          cases (readLimit_eq_ok_iff.mpr one).symm.trans (readLimit_eq_ok_iff.mpr other)
          rfl

namespace Asks

open Http Parameters

/-- Only the order can be refused. -/
theorem exists_order_of_refused (asks : Asks pairs inquiry filters) {pair : String × String}
    {failure : Failure} (member : pair ∈ pairs) (refused : Refused pair failure) :
    ∃ text, inquiry.order = some text ∧ OrderRefused text failure := by
  cases refused with
  | order refused =>
      have given := mem_valuesOf.mpr member
      rw [asks.order] at given
      exact ⟨_, Option.mem_toList.mp given, refused⟩
  | limit malformed =>
      rcases asks.limit with ⟨written, same, said⟩
      have given := mem_valuesOf.mpr member
      rw [same] at given
      cases Option.mem_toList.mp given
      generalize inquiry.limit = limit at said
      cases said with
      | some said => exact absurd said (malformed _)

theorem steps_of_rel (asks : Asks pairs inquiry filters) {order : Option SortOrder}
    (said : Option.Rel OrderOf inquiry.order order) :
    inquiry.steps = .ok (.select inquiry.select :: stepsBehind filters order inquiry.limit) := by
  have ordered : inquiry.order.toList.mapM Inquiry.orderStep =
      .ok (order.map ReadStep.order).toList := by
    generalize inquiry.order = given at said
    cases said with
    | none => rfl
    | some said =>
        have step := said.readOrder_eq
        simp [Inquiry.orderStep, step]
  simp only [Inquiry.steps, asks.arguments, Inquiry.mapM_predicate asks.plain, ordered]
  rfl

theorem steps_of_refused (asks : Asks pairs inquiry filters) {text : String} {failure : Failure}
    (given : inquiry.order = some text) (refused : OrderRefused text failure) :
    inquiry.steps = .error ⟨.argument, failure.message⟩ := by
  have ordered : inquiry.order.toList.mapM Inquiry.orderStep =
      .error ⟨.argument, failure.message⟩ := by
    have step := refused.readOrder_eq
    simp [given, Inquiry.orderStep, step]
  simp only [Inquiry.steps, asks.arguments, Inquiry.mapM_predicate asks.plain, ordered]
  rfl

theorem read_of_refused (asks : Asks pairs inquiry filters) {text : String} {failure : Failure}
    (given : inquiry.order = some text) (refused : OrderRefused text failure) :
    Parameters.read "GET" pairs = .error failure := by
  have member : ("order", text) ∈ pairs := by
    rw [← mem_valuesOf, asks.order, given]
    exact List.mem_singleton_self text
  rcases exists_firstRefused_iff.mpr ⟨_, member, failure, .order refused⟩ with ⟨other, first⟩
  -- The first pair that is refused is the order, whatever stands before it.
  rcases first.exists_mem with ⟨pair, inside, here⟩
  rcases asks.exists_order_of_refused inside here with ⟨same, again, found⟩
  cases given.symm.trans again
  cases refused.readOrder_eq.symm.trans found.readOrder_eq
  exact read_eq_error_iff.mpr ⟨rfl, first⟩

/-- The parameters of pairs whose order can be read. -/
theorem exists_read (asks : Asks pairs inquiry filters)
    (readable : ∀ text, inquiry.order = some text → ∀ failure, ¬ OrderRefused text failure) :
    ∃ parameters, Parameters.read "GET" pairs = .ok parameters ∧
      parameters.filters = filters ∧ Option.Rel OrderOf inquiry.order parameters.order ∧
      parameters.limit = inquiry.limit ∧
      parameters.select = if Text.isAllBlank inquiry.select then "*" else inquiry.select := by
  cases done : Parameters.read "GET" pairs with
  | error failure =>
      rcases (read_eq_error_iff.mp done).2.exists_mem with ⟨pair, inside, here⟩
      rcases asks.exists_order_of_refused inside here with ⟨text, given, refused⟩
      exact absurd refused (readable text given failure)
  | ok parameters =>
      have splits := splits_of_read done
      have order := splits.order
      have limit := splits.limit
      rcases asks.limit with ⟨written, only, said⟩
      rw [lastOf_of_valuesOf (by decide) asks.order] at order
      rw [lastOf_of_valuesOf (by decide) only] at limit
      refine ⟨parameters, rfl, splits.filters.trans asks.filters, order,
        limit_unique limit said, ?_⟩
      rw [splits.select, asks.select]
      cases blank : Text.isAllBlank inquiry.select <;> simp [blank]

end Asks

end CommandLine

/-! ## The main statement -/

open CommandLine Http.Parameters in
/-- An inquiry of the command line and a request whose pairs have the same parts.  If the
order is not well-formed, both reject it for the same reason.  Otherwise the steps of
both describe reads that are planned alike, and the request has the answer of the
inquiry and leaves the service as it does. -/
theorem front_ends_ask_same_question {σ : Type} [Store σ] (service : Service σ)
    (now : Time.Instant) (body : List UInt8) {pairs filters : List (String × String)}
    {inquiry : Inquiry} (asks : Asks pairs inquiry filters) :
    let opened := service.read inquiry.table
    let described := fun steps => (opened.2.extendAll opened.1 steps).1.request
    let dispatched := Http.dispatch service now "GET" inquiry.table pairs body
    (∃ text failure, inquiry.order = some text ∧ OrderRefused text failure ∧
      inquiry.steps = .error ⟨.argument, failure.message⟩ ∧ read "GET" pairs = .error failure ∧
      (Text.isAllBlank inquiry.table = false → dispatched = (.error failure, service))) ∨
    ∃ steps parameters, inquiry.steps = .ok steps ∧ read "GET" pairs = .ok parameters ∧
      (∀ catalog, Plan.select catalog (described steps) =
        Plan.select catalog (described (Http.readSteps parameters))) ∧
      (Text.isAllBlank inquiry.table = false →
        let answered := service.readNow inquiry.table steps
        dispatched = (answered.1.result, answered.2)) := by
  intro opened described dispatched
  by_cases refused : ∃ text failure, inquiry.order = some text ∧ OrderRefused text failure
  · rcases refused with ⟨text, failure, given, refused⟩
    have failed := asks.read_of_refused given refused
    refine .inl ⟨text, failure, given, refused, asks.steps_of_refused given refused, failed, ?_⟩
    intro named
    simp only [dispatched, Http.dispatch, named, failed, Bool.false_eq_true, if_false, if_true]
  · right
    have readable : ∀ text, inquiry.order = some text → ∀ failure, ¬ OrderRefused text failure :=
      fun text given failure wrong => refused ⟨text, failure, given, wrong⟩
    rcases asks.exists_read readable with ⟨parameters, done, kept, said, limit, select⟩
    have behind : Http.readSteps parameters =
        .select parameters.select :: stepsBehind filters parameters.order inquiry.limit := by
      rw [Http.readSteps, Http.Parameters.predicates, kept, limit]
      rfl
    have same : ∀ catalog name, Plan.projection catalog name inquiry.select =
        Plan.projection catalog name parameters.select := by
      intro catalog name
      rw [select]
      split
      · next blank => rw [Plan.projection_of_blank blank, Plan.projection_star]
      · rfl
    refine ⟨_, parameters, asks.steps_of_rel said, done, ?_, ?_⟩
    · intro catalog
      simp only [behind, described]
      exact (service.describe_alike inquiry.table _ (same catalog)).1.request.select_eq
    · intro named
      simp only [dispatched, Http.dispatch, named, done, Bool.false_eq_true, if_false, if_true]
      rw [behind, service.readNow_select_eq inquiry.table _ (same service.catalog)]

open CommandLine in
/-- The value of a filter may hold another equals sign, the limit may be written with a
plus sign, and blank columns are all columns. -/
theorem written_otherwise_answered_alike :
    let pairs := [("limit", " +07"), ("id", "eq.a=b."), ("order", "rank.DESC"), ("select", " ")]
    let inquiry : Inquiry := ⟨"items", " ", ["id=eq.a=b."], some "rank.DESC", some 7⟩
    Asks pairs inquiry [("id", "eq.a=b.")] ∧
      ∃ steps, inquiry.steps = .ok steps ∧
        Http.dispatch Service.ofItems (.ofMillis 0) "GET" "items" pairs [] =
          ((Service.ofItems.readNow "items" steps).1.result,
            (Service.ofItems.readNow "items" steps).2) := by
  intro pairs inquiry
  have seven : Http.Parameters.LimitOf " +07" 7 :=
    Http.Parameters.readLimit_eq_ok_iff.mp (by decide +kernel)
  have asks : Asks pairs inquiry [("id", "eq.a=b.")] :=
    ⟨by decide, by decide, by decide, by decide, by decide, some " +07", by decide, .some seven⟩
  have done : Http.Parameters.read "GET" pairs =
      .ok ⟨"*", [("id", "eq.a=b.")], some ⟨"rank", false⟩, some 7⟩ := by
    decide +kernel
  have named : Text.isAllBlank "items" = false := by decide +kernel
  refine ⟨asks, ?_⟩
  rcases front_ends_ask_same_question Service.ofItems (.ofMillis 0) [] asks with
    ⟨_, _, _, _, _, failed, _⟩ | ⟨steps, _, answered, _, _, dispatched⟩
  · cases done.symm.trans failed
  · exact ⟨steps, answered, dispatched named⟩

end RowGate
