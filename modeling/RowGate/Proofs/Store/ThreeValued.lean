import RowGate.Proofs.Store.Compare

namespace RowGate

/-!
# Conditions in three-valued logic

In SQL a condition is true, false or unknown, and a row is taken if the
conjunction of the conditions is true.  A comparison with nothing to compare is
unknown, and stays unknown under a negation, so neither it nor its negation takes
the row.

The store evaluates without the third value: it gives up on a comparison before it
looks at the negation, and takes a row that no condition rejects.  It comes to the
same, as a conjunction is true only where each of its parts is.
-/

/-! ## Truth values -/

/-- A truth value of SQL. -/
inductive Truth where
  | holds
  | fails
  | unknown
deriving DecidableEq, Repr

namespace Truth

/-- The truth value of a test that has an outcome. -/
def ofBool (outcome : Bool) : Truth :=
  if outcome then holds else fails

/-- `NOT`. -/
def negation : Truth → Truth
  | holds => fails
  | fails => holds
  | unknown => unknown

/-- `AND`: one part that fails decides. -/
def conjunction : Truth → Truth → Truth
  | fails, _ => fails
  | _, fails => fails
  | holds, holds => holds
  | _, _ => unknown

/-- The conjunction of a list, which holds if the list is empty. -/
def all (parts : List Truth) : Truth :=
  parts.foldr conjunction holds

theorem ofBool_eq_holds_iff {outcome : Bool} : ofBool outcome = holds ↔ outcome = true := by
  cases outcome <;> decide

theorem ofBool_ne_unknown (outcome : Bool) : ofBool outcome ≠ unknown := by
  cases outcome <;> decide

theorem negation_ofBool (outcome : Bool) : (ofBool outcome).negation = ofBool !outcome := by
  cases outcome <;> rfl

theorem conjunction_eq_holds_iff {first second : Truth} :
    first.conjunction second = holds ↔ first = holds ∧ second = holds := by
  cases first <;> cases second <;> decide

theorem all_eq_holds_iff {parts : List Truth} : all parts = holds ↔ ∀ part ∈ parts, part = holds := by
  induction parts with
  | nil => simp [all]
  | cons part rest inductionHypothesis =>
      rw [List.forall_mem_cons, ← inductionHypothesis]
      exact conjunction_eq_holds_iff

end Truth

/-! ## Conditions -/

/-- Whether two values in an order pass a comparison. -/
def Comparison.admits : Comparison → Ordering → Bool
  | eq => Ordering.isEq
  | neq => Ordering.isNe
  | lte => Ordering.isLE
  | gte => Ordering.isGE

theorem Comparison.holds_eq_admits (comparison : Comparison) (order : Ordering) :
    comparison.holds order = comparison.admits order := by
  cases comparison <;> cases order <;> rfl

namespace Condition

/-- The order of a cell and the operand of a condition, if both are there and can be
compared. -/
def order? (condition : Condition) (row : Row) : Option Ordering :=
  (row.get? condition.column).bind fun cell => cell.compare? condition.param.value

/-- The truth value of the comparison in a condition. -/
def compared (condition : Condition) (row : Row) : Truth :=
  match condition.order? row with
  | none => .unknown
  | some order => .ofBool (condition.operator.comparison.admits order)

/-- The truth value of a condition: that of its comparison, under `NOT` if it is
negated. -/
def truth (condition : Condition) (row : Row) : Truth :=
  if condition.operator.negated then (condition.compared row).negation else condition.compared row

variable {row : Row} {condition : Condition}

theorem order?_eq_none_iff :
    condition.order? row = none ↔ row.get? condition.column = none ∨
      ∃ cell, row.get? condition.column = some cell ∧
        cell.compare? condition.param.value = none := by
  unfold order?
  cases row.get? condition.column <;> simp

theorem order?_eq_none_of_null (null : condition.param.value = .null ∨
    row.isAbsent condition.column = true) : condition.order? row = none := by
  rw [order?_eq_none_iff]
  cases found : row.get? condition.column with
  | none => exact .inl rfl
  | some cell =>
      refine .inr ⟨cell, rfl, ?_⟩
      rcases null with operand | absent
      · rw [operand]
        cases cell <;> rfl
      · have empty : cell.isNull = true := by simpa [Row.isAbsent, found] using absent
        cases cell with
        | null => rfl
        | bool _ | number _ | string _ | array _ | object _ => cases empty

theorem compared_eq_unknown_iff :
    condition.compared row = .unknown ↔ condition.order? row = none := by
  unfold compared
  cases condition.order? row with
  | none => exact iff_of_true rfl rfl
  | some order => exact iff_of_false (Truth.ofBool_ne_unknown _) nofun

/-- Where there is an order, a negation turns the outcome of the test around. -/
theorem truth_eq_elim (condition : Condition) (row : Row) :
    condition.truth row = (condition.order? row).elim .unknown fun order =>
      .ofBool (condition.operator.comparison.admits order != condition.operator.negated) := by
  unfold truth compared
  cases condition.order? row with
  | none => cases condition.operator.negated <;> rfl
  | some order =>
      cases condition.operator.negated with
      | false => simp
      | true => simp [Truth.negation_ofBool]

theorem evaluate_eq_map (condition : Condition) (row : Row) :
    condition.evaluate row = (condition.order? row).map fun order =>
      condition.operator.comparison.admits order != condition.operator.negated := by
  simp only [evaluate, order?, ← Comparison.holds_eq_admits]
  cases row.get? condition.column with
  | none => rfl
  | some cell =>
      change (cell.compare? condition.param.value).bind _ = Option.map _ (cell.compare? _)
      cases cell.compare? condition.param.value <;> rfl

theorem evaluate_eq_true_iff : condition.evaluate row = some true ↔ condition.truth row = .holds := by
  rw [truth_eq_elim, evaluate_eq_map]
  cases condition.order? row with
  | none => exact iff_of_false nofun nofun
  | some order =>
      rw [Option.map_some, Option.some.injEq, Option.elim_some, Truth.ofBool_eq_holds_iff]

end Condition

/-! ## Rows -/

namespace Row

variable {row : Row}

theorem satisfies_iff {conditions : List Condition} :
    row.satisfies conditions = true ↔ ∀ condition ∈ conditions, condition.truth row = .holds := by
  simp only [satisfies, List.all_eq_true, beq_iff_eq, Condition.evaluate_eq_true_iff]

theorem satisfies_iff_all {conditions : List Condition} :
    row.satisfies conditions = true ↔
      Truth.all (conditions.map fun condition => condition.truth row) = .holds := by
  rw [satisfies_iff, Truth.all_eq_holds_iff, List.forall_mem_map]

theorem satisfies_singleton {condition : Condition} :
    row.satisfies [condition] = (condition.order? row).any fun order =>
      condition.operator.comparison.admits order != condition.operator.negated := by
  simp only [satisfies, List.all_cons, List.all_nil, Bool.and_true, Condition.evaluate_eq_map]
  cases condition.order? row <;> simp

/-- A row that satisfies conditions satisfies any of them. -/
theorem satisfies_of_subset {conditions more : List Condition} (inside : conditions ⊆ more)
    (satisfied : row.satisfies more = true) : row.satisfies conditions = true := by
  rw [satisfies_iff] at satisfied ⊢
  exact fun condition member => satisfied condition (inside member)

theorem satisfies_of_mem_iff {first second : List Condition}
    (same : ∀ condition, condition ∈ first ↔ condition ∈ second) :
    row.satisfies first = row.satisfies second := by
  rw [Bool.eq_iff_iff]
  exact ⟨satisfies_of_subset fun _ member => (same _).mpr member,
    satisfies_of_subset fun _ member => (same _).mp member⟩

section

variable (row) (column : String) (comparison : Comparison) (param : Param)

theorem not_satisfies_of_null (null : param.value = .null ∨ row.isAbsent column = true)
    (negated : Bool) : row.satisfies [⟨column, ⟨comparison, negated⟩, param⟩] = false := by
  have unordered : Condition.order? ⟨column, ⟨comparison, negated⟩, param⟩ row = none :=
    Condition.order?_eq_none_of_null null
  rw [satisfies_singleton, unordered, Option.any_none]

theorem satisfies_negated {cell : Json} (found : row.get? column = some cell)
    (comparable : cell.Comparable param.value) :
    row.satisfies [⟨column, ⟨comparison, true⟩, param⟩] =
      !row.satisfies [⟨column, ⟨comparison, false⟩, param⟩] := by
  rcases comparable with ⟨order, ordered⟩
  have known : ∀ negated,
      Condition.order? ⟨column, ⟨comparison, negated⟩, param⟩ row = some order := by
    intro negated
    rw [Condition.order?, found, Option.bind_some, ordered]
  rw [satisfies_singleton, satisfies_singleton, known, known, Option.any_some, Option.any_some]
  cases comparison.admits order <;> rfl

/-- The opposite of a comparison takes the rows that the negated comparison takes. -/
theorem satisfies_opposite {opposite : Comparison}
    (opposed : ∀ order, opposite.admits order = !comparison.admits order) (negated : Bool) :
    row.satisfies [⟨column, ⟨opposite, negated⟩, param⟩] =
      row.satisfies [⟨column, ⟨comparison, !negated⟩, param⟩] := by
  have turned : ∀ order, (opposite.admits order != negated) =
      (comparison.admits order != !negated) := by
    intro order
    rw [opposed, Bool.not_bne, Bool.bne_not]
  simp only [satisfies_singleton, turned]
  rfl

end

end Row

/-! ## The main statement -/

/-- A row satisfies conditions exactly where their conjunction is true in the
three-valued logic of SQL, in which a comparison is unknown exactly if the cell is
missing or does not compare with the operand.  So neither a comparison nor its
negation takes a row if the operand or the cell is null, and exactly one of them
does if the two compare; a negated equality takes the rows of the inequality, and
the other way round; order and number of the conditions do not matter; and a
condition more takes no row more. -/
theorem conditions_follow_three_valued_logic :
    (∀ (row : Row) (conditions : List Condition), row.satisfies conditions = true ↔
      Truth.all (conditions.map fun condition => condition.truth row) = .holds) ∧
    (∀ (row : Row) (condition : Condition), condition.compared row = .unknown ↔
      row.get? condition.column = none ∨ ∃ cell, row.get? condition.column = some cell ∧
        cell.compare? condition.param.value = none) ∧
    (∀ (row : Row) (column : String) (comparison : Comparison) (param : Param),
      let plain : Condition := ⟨column, ⟨comparison, false⟩, param⟩
      let negated : Condition := ⟨column, ⟨comparison, true⟩, param⟩
      (param.value = .null ∨ row.isAbsent column = true →
        row.satisfies [plain] = false ∧ row.satisfies [negated] = false) ∧
      ∀ cell, row.get? column = some cell → cell.Comparable param.value →
        row.satisfies [negated] = !row.satisfies [plain]) ∧
    (∀ (row : Row) (column : String) (param : Param) (negated : Bool),
      row.satisfies [⟨column, ⟨.neq, negated⟩, param⟩] =
        row.satisfies [⟨column, ⟨.eq, !negated⟩, param⟩]) ∧
    ∀ (rows : List Row) (conditions more : List Condition),
      ((∀ condition, condition ∈ more ↔ condition ∈ conditions) →
        (rows.filter fun row => row.satisfies more) =
          rows.filter fun row => row.satisfies conditions) ∧
      (conditions ⊆ more → (rows.filter fun row => row.satisfies more).Sublist
        (rows.filter fun row => row.satisfies conditions)) := by
  refine ⟨fun _ _ => Row.satisfies_iff_all, ?_, ?_, ?_, ?_⟩
  · intro row condition
    rw [Condition.compared_eq_unknown_iff, Condition.order?_eq_none_iff]
  · intro row column comparison param plain negated
    constructor
    · intro null
      exact ⟨row.not_satisfies_of_null column comparison param null false,
        row.not_satisfies_of_null column comparison param null true⟩
    · intro cell found comparable
      exact row.satisfies_negated column comparison param found comparable
  · intro row column param negated
    refine row.satisfies_opposite column .eq param ?_ negated
    intro order
    cases order <;> rfl
  · intro rows conditions more
    constructor
    · intro same
      exact List.filter_congr fun row _ => Row.satisfies_of_mem_iff same
    · intro inside
      exact List.monotone_filter_right rows fun row => Row.satisfies_of_subset inside

/-- A row without a rank is taken by no comparison of ranks, and by one of two
opposite comparisons of names. -/
theorem unranked_row_taken_by_name :
    let row : Row := .ofList [("name", .string "b"), ("rank", .null)]
    let rank : Param := ⟨.ofNat 2, .integer⟩
    let name : Param := ⟨.string "a", .text⟩
    let ranked : Condition := ⟨"rank", ⟨.lte, true⟩, rank⟩
    let named : Condition := ⟨"name", ⟨.lte, true⟩, name⟩
    (row.isAbsent "rank" = true ∧ row.satisfies [⟨"rank", ⟨.lte, false⟩, rank⟩] = false ∧
        row.satisfies [ranked] = false) ∧
      ((Json.string "b").Comparable name.value ∧
        row.satisfies [named] = !row.satisfies [⟨"name", ⟨.lte, false⟩, name⟩]) ∧
      [row].filter (fun row => row.satisfies [named, named]) = [row] ∧
      ([row].filter fun row => row.satisfies [ranked, named]).Sublist
        ([row].filter fun row => row.satisfies [named]) := by
  intro row rank name ranked named
  rcases conditions_follow_three_valued_logic with ⟨_, _, compared, _, lists⟩
  have absent : row.isAbsent "rank" = true := by decide +kernel
  have comparable : (Json.string "b").Comparable name.value := ⟨.gt, by decide +kernel⟩
  have once : ([row].filter fun row => row.satisfies [named]) = [row] := by decide +kernel
  refine ⟨⟨absent, (compared row "rank" .lte rank).1 (.inr absent)⟩, ⟨comparable, ?_⟩, ?_, ?_⟩
  · exact (compared row "name" .lte name).2 (.string "b") (by decide +kernel) comparable
  · exact ((lists [row] [named] [named, named]).1 (by simp)).trans once
  · exact (lists [row] [named] [ranked, named]).2 (List.subset_cons_self ranked [named])

end RowGate
