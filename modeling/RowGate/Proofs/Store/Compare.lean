import RowGate.Proofs.Decimal.Rounding
import RowGate.Store.Compare

namespace RowGate
namespace Json

/-!
# Comparing two values

Two values compare if they are of one kind, and two numbers only if both have a
binary number or are written alike.  So the values fall into classes within
which any two compare: the texts, the truth values, the arrays, the objects, the
numbers with a binary number, and each other number for itself.  Within a class
the comparison is a total preorder, and null compares with nothing.
-/

/-! ## Numbers -/

section

variable {a b c : Number}

theorem compareNumbers?_self (a : Number) : compareNumbers? a a = some .eq :=
  if_pos rfl

/-- Numbers are compared as their binary numbers. -/
theorem compareNumbers?_of_binary {x y : Binary64} (first : a.binary? = some x)
    (second : b.binary? = some y) : compareNumbers? a b = some (cmp x.value y.value) := by
  by_cases alike : a = b
  · subst alike
    cases first.symm.trans second
    rw [compareNumbers?_self, cmp_self_eq_eq]
  · rw [compareNumbers?, if_neg alike, first, second]
    exact congrArg some (x.compare_eq_cmp y)

/-- Two numbers that compare are written alike, or both have a binary number. -/
theorem compareNumbers?_eq_some {order : Ordering} (compared : compareNumbers? a b = some order) :
    a = b ∧ order = .eq ∨ ∃ x y, a.binary? = some x ∧ b.binary? = some y ∧
      order = cmp x.value y.value := by
  by_cases alike : a = b
  · rw [alike, compareNumbers?_self] at compared
    exact .inl ⟨alike, (Option.some.inj compared).symm⟩
  · cases first : a.binary? with
    | none => simp [compareNumbers?, alike, first] at compared
    | some x =>
        cases second : b.binary? with
        | none => simp [compareNumbers?, alike, first, second] at compared
        | some y =>
            rw [compareNumbers?_of_binary first second] at compared
            exact .inr ⟨x, y, rfl, rfl, (Option.some.inj compared).symm⟩

theorem compareNumbers?_swap (a b : Number) :
    compareNumbers? b a = (compareNumbers? a b).map Ordering.swap := by
  cases compared : compareNumbers? a b with
  | some order =>
      rcases compareNumbers?_eq_some compared with ⟨rfl, rfl⟩ | ⟨x, y, first, second, rfl⟩
      · exact compared
      · rw [compareNumbers?_of_binary second first, Option.map_some, cmp_swap]
  | none =>
      cases back : compareNumbers? b a with
      | none => rfl
      | some order =>
          rcases compareNumbers?_eq_some back with ⟨rfl, _⟩ | ⟨y, x, second, first, _⟩
          · cases compared.symm.trans (compareNumbers?_self b)
          · cases compared.symm.trans (compareNumbers?_of_binary first second)

theorem cmp_ne_gt_iff {x y : ℚ} : cmp x y ≠ .gt ↔ x ≤ y :=
  (cmp_eq_gt_iff x y).not.trans not_lt

theorem compareNumbers?_trans {first second : Ordering}
    (here : compareNumbers? a b = some first) (there : compareNumbers? b c = some second) :
    ∃ third, compareNumbers? a c = some third ∧
      (first ≠ .gt → second ≠ .gt → third ≠ .gt) := by
  rcases compareNumbers?_eq_some here with ⟨rfl, rfl⟩ | ⟨x, y, ofA, ofB, rfl⟩
  · exact ⟨second, there, fun _ below => below⟩
  · rcases compareNumbers?_eq_some there with ⟨rfl, rfl⟩ | ⟨y', z, ofB', ofC, rfl⟩
    · exact ⟨_, here, fun below _ => below⟩
    · cases ofB.symm.trans ofB'
      refine ⟨_, compareNumbers?_of_binary ofA ofC, fun below above => ?_⟩
      exact cmp_ne_gt_iff.mpr ((cmp_ne_gt_iff.mp below).trans (cmp_ne_gt_iff.mp above))

end

/-! ## Texts and truth values -/

theorem compareBools_swap (a b : Bool) : compareBools b a = (compareBools a b).swap := by
  cases a <;> cases b <;> rfl

theorem compareBools_trans (a b c : Bool) :
    compareBools a b ≠ .gt → compareBools b c ≠ .gt → compareBools a c ≠ .gt := by
  cases a <;> cases b <;> cases c <;> decide

theorem compareTexts_trans {a b c : String} (here : compare a b ≠ .gt) (there : compare b c ≠ .gt) :
    compare a c ≠ .gt :=
  Ordering.isLE_iff_ne_gt.mp (Std.TransCmp.isLE_trans (Ordering.isLE_iff_ne_gt.mpr here)
    (Ordering.isLE_iff_ne_gt.mpr there))

/-! ## Values -/

theorem compare?_swap (a b : Json) : b.compare? a = (a.compare? b).map Ordering.swap := by
  cases a with
  | null => cases b <;> rfl
  | bool x =>
      cases b with
      | bool y => exact congrArg some (compareBools_swap x y)
      | null | number _ | string _ | array _ | object _ => rfl
  | number x =>
      cases b with
      | number y => exact compareNumbers?_swap x y
      | null | bool _ | string _ | array _ | object _ => rfl
  | string x =>
      cases b with
      | string y => exact congrArg some Std.OrientedCmp.eq_swap
      | null | bool _ | number _ | array _ | object _ => rfl
  | array x =>
      cases b with
      | array y => exact congrArg some Std.OrientedCmp.eq_swap
      | null | bool _ | number _ | string _ | object _ => rfl
  | object x =>
      cases b with
      | object y => exact congrArg some Std.OrientedCmp.eq_swap
      | null | bool _ | number _ | string _ | array _ => rfl

/-- What compares with one value compares with each other, and in order if both
comparisons are. -/
theorem compare?_trans {a b c : Json} {first second : Ordering} (here : a.compare? b = some first)
    (there : b.compare? c = some second) :
    ∃ third, a.compare? c = some third ∧ (first ≠ .gt → second ≠ .gt → third ≠ .gt) := by
  cases a with
  | null => cases here
  | bool x =>
      cases b with
      | bool y =>
          cases c with
          | bool z =>
              cases here
              cases there
              exact ⟨_, rfl, compareBools_trans x y z⟩
          | null | number _ | string _ | array _ | object _ => cases there
      | null | number _ | string _ | array _ | object _ => cases here
  | number x =>
      cases b with
      | number y =>
          cases c with
          | number z => exact compareNumbers?_trans here there
          | null | bool _ | string _ | array _ | object _ => cases there
      | null | bool _ | string _ | array _ | object _ => cases here
  | string x =>
      cases b with
      | string y =>
          cases c with
          | string z =>
              cases here
              cases there
              exact ⟨_, rfl, compareTexts_trans⟩
          | null | bool _ | number _ | array _ | object _ => cases there
      | null | bool _ | number _ | array _ | object _ => cases here
  | array x =>
      cases b with
      | array y =>
          cases c with
          | array z =>
              cases here
              cases there
              exact ⟨_, rfl, compareTexts_trans⟩
          | null | bool _ | number _ | string _ | object _ => cases there
      | null | bool _ | number _ | string _ | object _ => cases here
  | object x =>
      cases b with
      | object y =>
          cases c with
          | object z =>
              cases here
              cases there
              exact ⟨_, rfl, compareTexts_trans⟩
          | null | bool _ | number _ | string _ | array _ => cases there
      | null | bool _ | number _ | string _ | array _ => cases here

/-- The two values compare. -/
def Comparable (a b : Json) : Prop :=
  ∃ order, a.compare? b = some order

theorem Comparable.symm {a b : Json} (comparable : a.Comparable b) : b.Comparable a := by
  rcases comparable with ⟨order, compared⟩
  exact ⟨order.swap, by rw [compare?_swap, compared, Option.map_some]⟩

theorem Comparable.trans {a b c : Json} (here : a.Comparable b) (there : b.Comparable c) :
    a.Comparable c := by
  rcases here with ⟨_, compared⟩
  rcases there with ⟨_, compared'⟩
  rcases compare?_trans compared compared' with ⟨third, result, _⟩
  exact ⟨third, result⟩

/-- Two numbers compare if they are written alike, or neither is too large for a
binary number. -/
theorem comparable_number_iff {a b : Number} :
    (Json.number a).Comparable (.number b) ↔
      a = b ∨ (∃ x, a.binary? = some x) ∧ ∃ y, b.binary? = some y := by
  constructor
  · rintro ⟨order, compared⟩
    rcases compareNumbers?_eq_some compared with ⟨alike, _⟩ | ⟨x, y, first, second, _⟩
    · exact .inl alike
    · exact .inr ⟨⟨x, first⟩, y, second⟩
  · rintro (rfl | ⟨⟨x, first⟩, y, second⟩)
    · exact ⟨_, compareNumbers?_self a⟩
    · exact ⟨_, compareNumbers?_of_binary first second⟩

end Json
end RowGate
