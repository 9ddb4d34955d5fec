import RowGate.Proofs.Decimal.Rounding
import RowGate.Proofs.Plan.Request
import RowGate.Proofs.Store.Keys

namespace RowGate

/-!
# Numbers in conditions

A number denotes a rational number, and a condition on a column of numbers asks
for a relation of the stored number to its operand.  The store compares the
nearest binary numbers.  Rounding keeps the order, so the comparison is exact
unless it takes two different numbers for one, or one of the two is too large to
have a binary number at all.

The main statement says this of the comparison, and of what reads, updates and
deletes do to a table: they act on exactly the rows that stand in the relation,
under every operator, if and only if no number of the column is confused with the
operand.
-/

/-! ## Exact values -/

namespace Json
namespace Number

/-- The rational number that a number text denotes. -/
def value (n : Number) : ℚ :=
  n.decimal.value

theorem value_ofInt (i : Int) : (ofInt i).value = i := by
  have coefficient : (ofInt i).decimal = ⟨decide (i < 0), i.natAbs, 0⟩ := by
    simp [decimal, ofInt, Digits.value_ofNat]
  rw [value, coefficient]
  unfold Decimal.value Decimal.magnitude
  by_cases negative : i < 0
  · simp [negative, abs_of_neg]
  · simp [negative, abs_of_nonneg (not_lt.mp negative)]

/-- Rounding never exchanges two numbers. -/
theorem value_lt_of_binary? {a b : Number} {x y : Binary64} (first : a.binary? = some x)
    (second : b.binary? = some y) (less : x.value < y.value) : a.value < b.value := by
  by_contra crossed
  exact absurd (Binary64.value_ofDecimal?_mono second first (not_lt.mp crossed)) (not_le.mpr less)

/-- Two numbers are written alike, or both have binary numbers, which are not
the same one for different values. -/
def Discerned (a b : Number) : Prop :=
  a = b ∨ ∃ x y, a.binary? = some x ∧ b.binary? = some y ∧ (x.value = y.value → a.value = b.value)

end Number

/-- The comparison of binary numbers has the order of the exact values exactly
where it does not confuse two numbers. -/
theorem compareNumbers?_eq_cmp_iff (a b : Number) :
    compareNumbers? a b = some (cmp a.value b.value) ↔ a.Discerned b := by
  unfold compareNumbers? Number.Discerned
  by_cases alike : a = b
  · rw [if_pos alike, alike, (cmp_eq_eq_iff _ _).mpr rfl]
    exact iff_of_true rfl (.inl rfl)
  · rw [if_neg alike]
    cases first : a.binary? with
    | none => exact iff_of_false nofun (by simp [alike])
    | some x =>
        cases second : b.binary? with
        | none => exact iff_of_false nofun (by simp [alike])
        | some y =>
            change some (x.compare y) = _ ↔ _
            rw [Binary64.compare_eq_cmp]
            constructor
            · intro same
              refine .inr ⟨x, y, rfl, rfl, fun equal => ?_⟩
              have order := Option.some.inj same
              rw [(cmp_eq_eq_iff _ _).mpr equal] at order
              exact (cmp_eq_eq_iff _ _).mp order.symm
            · rintro (equal | ⟨_, _, ⟨⟩, ⟨⟩, apart⟩)
              · exact absurd equal alike
              · rcases lt_trichotomy x.value y.value with less | equal | greater
                · rw [(cmp_eq_lt_iff _ _).mpr less,
                    (cmp_eq_lt_iff _ _).mpr (Number.value_lt_of_binary? first second less)]
                · rw [(cmp_eq_eq_iff _ _).mpr equal, (cmp_eq_eq_iff _ _).mpr (apart equal)]
                · rw [(cmp_eq_gt_iff _ _).mpr greater,
                    (cmp_eq_gt_iff _ _).mpr (Number.value_lt_of_binary? second first greater)]

end Json

/-! ## Conditions on numbers -/

namespace Comparison

/-- The relation that a comparison asks for. -/
def Relates : Comparison → ℚ → ℚ → Prop
  | eq, a, b => a = b
  | neq, a, b => a ≠ b
  | lte, a, b => a ≤ b
  | gte, a, b => b ≤ a

instance (comparison : Comparison) (a b : ℚ) : Decidable (comparison.Relates a b) :=
  match comparison with
  | eq => inferInstanceAs (Decidable (a = b))
  | neq => inferInstanceAs (Decidable (a ≠ b))
  | lte => inferInstanceAs (Decidable (a ≤ b))
  | gte => inferInstanceAs (Decidable (b ≤ a))

theorem holds_cmp (comparison : Comparison) (a b : ℚ) :
    comparison.holds (cmp a b) = decide (comparison.Relates a b) := by
  rcases lt_trichotomy a b with less | equal | greater
  · rw [(cmp_eq_lt_iff _ _).mpr less]
    cases comparison <;> simp [holds, Relates, less.ne, less.le, not_le.mpr less]
  · rw [(cmp_eq_eq_iff _ _).mpr equal]
    cases comparison <;> simp [holds, Relates, equal]
  · rw [(cmp_eq_gt_iff _ _).mpr greater]
    cases comparison <;> simp [holds, Relates, greater.ne', greater.le, not_le.mpr greater]

/-- An order is known by the comparisons that hold for it. -/
theorem eq_of_holds_eq {first second : Ordering}
    (same : ∀ comparison : Comparison, comparison.holds first = comparison.holds second) :
    first = second := by
  have atMost := same lte
  have atLeast := same gte
  revert atMost atLeast
  cases first <;> cases second <;> decide

end Comparison

namespace Condition

/-- The number in the column of a row stands in the relation of a condition to
the operand, exact values taken.  Without a number on both sides none does. -/
def holdsExactly (condition : Condition) (row : Row) : Bool :=
  match row.get? condition.column, condition.param.value with
  | some (.number stored), .number operand =>
      decide (condition.operator.comparison.Relates stored.value operand.value) !=
        condition.operator.negated
  | _, _ => false

/-- On one stored number, all operators are evaluated by exact values if and only
if the comparison with the operand has their order. -/
theorem evaluate_exact_iff {row : Row} {column : String} {stored operand : Json.Number}
    (type : ColumnType) (cell : row.get? column = some (.number stored)) :
    (∀ operator : Operator,
        (evaluate ⟨column, operator, ⟨.number operand, type⟩⟩ row == some true) =
          holdsExactly ⟨column, operator, ⟨.number operand, type⟩⟩ row) ↔
      Json.compareNumbers? stored operand = some (cmp stored.value operand.value) := by
  have evaluated : ∀ operator : Operator,
      evaluate ⟨column, operator, ⟨.number operand, type⟩⟩ row =
        (Json.compareNumbers? stored operand).map fun order =>
          operator.comparison.holds order != operator.negated := by
    intro operator
    simp only [evaluate, cell, Option.bind_eq_bind, Option.bind_some, Json.compare?]
    cases Json.compareNumbers? stored operand <;> rfl
  constructor
  · intro exact
    have tested : ∀ comparison : Comparison,
        ((Json.compareNumbers? stored operand).map comparison.holds == some true) =
          decide (comparison.Relates stored.value operand.value) := by
      intro comparison
      have here := exact ⟨comparison, false⟩
      rw [evaluated] at here
      simpa [holdsExactly, cell] using here
    cases order : Json.compareNumbers? stored operand with
    | none =>
        -- An unknown comparison is neither equal nor different, but the values are one of it.
        have equal := tested .eq
        have unequal := tested .neq
        rw [order] at equal unequal
        simp only [Option.map_none, Comparison.Relates] at equal unequal
        by_cases same : stored.value = operand.value
        · simp [same] at equal
        · simp [same] at unequal
    | some order =>
        refine congrArg some (Comparison.eq_of_holds_eq ?_)
        intro comparison
        have here := tested comparison
        rw [order] at here
        rw [Comparison.holds_cmp]
        simpa using here
  · intro ordered operator
    rw [evaluated, ordered, Option.map_some, Comparison.holds_cmp]
    simp [holdsExactly, cell]

end Condition

namespace Memory

/-- A read, an update and a delete with a condition act on exactly the rows for
which it holds by exact values.  A read is the read of those rows alone; an
update writes those rows, unless one of them must not be written; a delete
removes them. -/
structure ActsExactly (table : Table) (rows : List Row) (condition : Condition) : Prop where
  read : ∀ selection : Selection, selection.conditions = [condition] →
    selectRows rows selection =
      selectRows (rows.filter condition.holdsExactly) { selection with conditions := [] }
  update : ∀ name assignments touch,
    (∀ answer after,
      run table rows (.update name assignments touch [condition]) = .ok (answer, after) →
        answer = (rows.filter condition.holdsExactly).map (updatedRow assignments touch) ∧
        after = rows.map fun row =>
          if condition.holdsExactly row then updatedRow assignments touch row else row) ∧
    ((∃ answer after,
      run table rows (.update name assignments touch [condition]) = .ok (answer, after)) ↔
        ∀ place (inside : place < rows.length), condition.holdsExactly rows[place] = true →
          checkRow name table (updatedRow assignments touch rows[place]) = .ok () ∧
          checkKey name (rows.eraseIdx place) (updatedRow assignments touch rows[place]) = .ok ())
  delete : ∀ name, run table rows (.delete name [condition]) =
    .ok (rows.filter condition.holdsExactly, rows.filter fun row => !condition.holdsExactly row)

section

variable {name : String} {table : Table} {rows : List Row} {assignments : List (String × Param)}
  {touch : Option Touch} {conditions : List Condition}

/-- A row that satisfies the conditions is written if its checks pass, and any
other is passed over. -/
theorem revise_eq_ok_iff {row : Row} {place : Nat} {new : Option Row} :
    revise name table rows assignments touch conditions (row, place) = .ok new ↔
      if row.satisfies conditions = true then
        (checkRow name table (updatedRow assignments touch row) = .ok () ∧
          checkKey name (rows.eraseIdx place) (updatedRow assignments touch row) = .ok ()) ∧
          new = some (updatedRow assignments touch row)
      else new = none := by
  cases matching : row.satisfies conditions with
  | false =>
      simp only [revise, matching, Bool.false_eq_true, not_false_eq_true, if_true, if_false,
        Except.ok.injEq]
      exact eq_comm
  | true =>
      simp only [revise, matching, not_true_eq_false, if_true, if_false]
      constructor
      · intro revised
        rcases Fallible.bind_eq_ok.mp revised with ⟨_, filled, revised⟩
        rcases Fallible.bind_eq_ok.mp revised with ⟨_, unique, revised⟩
        cases revised
        exact ⟨⟨filled, unique⟩, rfl⟩
      · rintro ⟨⟨filled, unique⟩, rfl⟩
        exact Fallible.bind_eq_ok.mpr ⟨(), filled, Fallible.bind_eq_ok.mpr ⟨(), unique, rfl⟩⟩

theorem answer_run_update {answer after : List Row}
    (done : run table rows (.update name assignments touch conditions) = .ok (answer, after)) :
    answer = written assignments touch conditions rows := by
  rcases Fallible.bind_eq_ok.mp done with ⟨revised, all, done⟩
  cases done
  have known : revised = (rows.zipIdx.map Prod.fst).map fun row =>
      if row.satisfies conditions = true then some (updatedRow assignments touch row)
      else none := by
    rw [List.map_map]
    refine Fallible.eq_map_of_mapM ?_ all
    rintro ⟨row, place⟩ _ new step
    have revision := revise_eq_ok_iff.mp step
    split at revision
    · next matching => rw [revision.2, Function.comp_apply, if_pos matching]
    · next other => rw [revision, Function.comp_apply, if_neg other]
  rw [known, List.zipIdx_map_fst, List.filterMap_map]
  clear all known done
  unfold written
  induction rows with
  | nil => rfl
  | cons row rest inductionHypothesis =>
      rw [List.filterMap_cons, inductionHypothesis]
      cases matching : row.satisfies conditions <;> simp [matching]

theorem exists_run_update_iff :
    (∃ answer after,
      run table rows (.update name assignments touch conditions) = .ok (answer, after)) ↔
      ∀ place (inside : place < rows.length), rows[place].satisfies conditions = true →
        checkRow name table (updatedRow assignments touch rows[place]) = .ok () ∧
        checkKey name (rows.eraseIdx place) (updatedRow assignments touch rows[place]) =
          .ok () := by
  have revisions : (∃ answer after,
      run table rows (.update name assignments touch conditions) = .ok (answer, after)) ↔
      ∃ revised, rows.zipIdx.mapM (revise name table rows assignments touch conditions) =
        .ok revised := by
    constructor
    · rintro ⟨answer, after, done⟩
      rcases Fallible.bind_eq_ok.mp done with ⟨revised, all, _⟩
      exact ⟨revised, all⟩
    · rintro ⟨revised, all⟩
      exact ⟨_, _, Fallible.bind_eq_ok.mpr ⟨revised, all, rfl⟩⟩
  rw [revisions, Fallible.exists_mapM_eq_ok_iff, List.forall_mem_iff_forall_getElem]
  simp only [List.length_zipIdx, List.getElem_zipIdx, Nat.zero_add]
  refine forall_congr' fun place => forall_congr' fun inside => ?_
  constructor
  · rintro ⟨new, step⟩ matching
    have revision := revise_eq_ok_iff.mp step
    rw [if_pos matching] at revision
    exact revision.1
  · intro checks
    cases matching : rows[place].satisfies conditions with
    | true =>
        refine ⟨some (updatedRow assignments touch rows[place]), revise_eq_ok_iff.mpr ?_⟩
        rw [if_pos matching]
        exact ⟨checks matching, rfl⟩
    | false => exact ⟨none, revise_eq_ok_iff.mpr (by simp [matching])⟩

end

/-- Statements of all kinds reach a condition through the rows that satisfy it,
so they act exactly if and only if the condition does. -/
theorem actsExactly_iff {table : Table} {rows : List Row} {condition : Condition} :
    ActsExactly table rows condition ↔
      ∀ row ∈ rows, row.satisfies [condition] = condition.holdsExactly row := by
  constructor
  · intro acts row member
    have removed := acts.delete ""
    simp only [run, Except.ok.injEq, Prod.mk.injEq] at removed
    have same : row ∈ rows.filter (·.satisfies [condition]) ↔
        row ∈ rows.filter condition.holdsExactly := by rw [removed.1]
    simpa [member, ← Bool.eq_iff_iff] using same
  · intro exact
    have chosen : rows.filter (·.satisfies [condition]) = rows.filter condition.holdsExactly :=
      List.filter_congr exact
    refine ⟨?_, ?_, ?_⟩
    · intro selection only
      have everything : ∀ row : Row, row.satisfies [] = true := fun _ => rfl
      simp only [selectRows, only, chosen, everything, List.filter_true]
    · intro name assignments touch
      constructor
      · intro answer after done
        refine ⟨(answer_run_update done).trans ?_, (run_update_eq_ok done).1.trans ?_⟩
        · unfold written
          rw [chosen]
        · refine List.map_congr_left fun row member => ?_
          unfold rewritten
          rw [exact row member]
      · rw [exists_run_update_iff]
        refine forall_congr' fun place => forall_congr' fun inside => ?_
        rw [exact _ (List.getElem_mem inside)]
    · intro name
      have others : rows.filter (fun row => !row.satisfies [condition]) =
          rows.filter fun row => !condition.holdsExactly row :=
        List.filter_congr fun row member => by rw [exact row member]
      simp only [run, chosen, others]

end Memory

/-! ## The main statement -/

/-- Two numbers compare in the order of their exact values exactly when they are
told apart from each other.  Under every operator, reads, updates and deletes
act on exactly the rows whose number stands in the relation to an operand, if and
only if all numbers in the column are told apart from it. -/
theorem compares_exactly_iff (a b : Json.Number) (table : Table) (rows : List Row)
    (column : String) (operand : Json.Number) (type : ColumnType) :
    ((Json.number a).compare? (.number b) = some (cmp a.value b.value) ↔ a.Discerned b) ∧
      ((∀ operator, Memory.ActsExactly table rows ⟨column, operator, ⟨.number operand, type⟩⟩) ↔
        ∀ row ∈ rows, ∀ stored, row.get? column = some (.number stored) →
          stored.Discerned operand) := by
  refine ⟨Json.compareNumbers?_eq_cmp_iff a b, ?_⟩
  simp only [Memory.actsExactly_iff, Row.satisfies, List.all_cons, List.all_nil, Bool.and_true]
  constructor
  · intro exact row member stored cell
    rw [← Json.compareNumbers?_eq_cmp_iff, ← Condition.evaluate_exact_iff type cell]
    exact fun operator => exact operator row member
  · intro discerned operator row member
    cases cell : row.get? column with
    | none => simp [Condition.evaluate, Condition.holdsExactly, cell]
    | some value =>
        cases value with
        | number stored =>
            have ordered := (Json.compareNumbers?_eq_cmp_iff stored operand).mpr
              (discerned row member stored cell)
            exact (Condition.evaluate_exact_iff type cell).mpr ordered operator
        | null => simp [Condition.evaluate, Condition.holdsExactly, cell, Json.compare?]
        | bool _ => simp [Condition.evaluate, Condition.holdsExactly, cell, Json.compare?]
        | string _ => simp [Condition.evaluate, Condition.holdsExactly, cell, Json.compare?]
        | array _ => simp [Condition.evaluate, Condition.holdsExactly, cell, Json.compare?]
        | object _ => simp [Condition.evaluate, Condition.holdsExactly, cell, Json.compare?]

/-- Two neighbours beyond the reach of 53 bits compare as equal, so not all
comparisons are exact, and not all conditions on a stored number act on exactly
the rows that they ask for. -/
theorem neighbours_confused :
    (¬ ∀ a b : Json.Number,
        (Json.number a).compare? (.number b) = some (cmp a.value b.value)) ∧
      ¬ ∀ (table : Table) (rows : List Row) (column : String) (operator : Operator)
          (operand : Json.Number) (type : ColumnType),
        Memory.ActsExactly table rows ⟨column, operator, ⟨.number operand, type⟩⟩ := by
  have confused : Json.compareNumbers? (.ofInt 9007199254740992) (.ofInt 9007199254740993) ≠
      some (cmp (Json.Number.ofInt 9007199254740992).value
        (Json.Number.ofInt 9007199254740993).value) := by
    have equal : Json.compareNumbers? (.ofInt 9007199254740992) (.ofInt 9007199254740993) =
        some .eq := by decide +kernel
    have less : cmp (Json.Number.ofInt 9007199254740992).value
        (Json.Number.ofInt 9007199254740993).value = .lt := by
      rw [Json.Number.value_ofInt, Json.Number.value_ofInt, cmp_eq_lt_iff]
      norm_num
    rw [equal, less]
    decide
  constructor
  · intro exact
    exact confused (exact _ _)
  · intro acts
    let row : Row := Keyed.empty.insert "rank" (.number (.ofInt 9007199254740992))
    have cell : row.get? "rank" = some (.number (.ofInt 9007199254740992)) := by
      rw [Keyed.get?_insert, if_pos rfl]
    refine confused ((Condition.evaluate_exact_iff .integer cell).mp fun operator => ?_)
    have exact := Memory.actsExactly_iff.mp
      (acts ⟨[]⟩ [row] "rank" operator (.ofInt 9007199254740993) .integer) row
      List.mem_cons_self
    simpa [Row.satisfies] using exact

end RowGate
