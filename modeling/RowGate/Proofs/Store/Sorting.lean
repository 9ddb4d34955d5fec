import Mathlib.Data.List.Basic
import RowGate.Proofs.Schema.Forms
import RowGate.Proofs.Schema.Integers
import RowGate.Proofs.Store.Compare
import RowGate.Proofs.Store.Numbers
import RowGate.Store.Memory

namespace RowGate

/-!
# Ordered reads

A read with an order sorts its rows by the cells of one column, where two values
that do not compare count as equal.  On cells that all compare this is a total
preorder, and the sort does what is expected of it: no row stands before one
that belongs before it, empty cells are last, or first if the order is
descending, and rows with equal cells stay in the order of their insertion.

With values that do not compare this breaks down.  If two values differ and a
third one compares with neither, the third is equal to both, and the rows can be
inserted so that no list of them meets these conditions.  The main statement is
exact: on which values the order is a total preorder, that all reads are in order
on those and on no others, and for which column types these are all values that
a column stores.
-/

/-! ## Stable sorting -/

namespace Sorting

variable {α : Type} {le : α → α → Bool} {R : α → α → Prop} {items : List α}

/-- The items at one place of a sorted list are those of the list, in its
order. -/
theorem filter_mergeSort (trans : ∀ a b c, le a b → le b c → le a c)
    (total : ∀ a b, le a b || le b a) (a : α) :
    (items.mergeSort le).filter (fun b => le a b && le b a) =
      items.filter fun b => le a b && le b a := by
  have level : (items.filter fun b => le a b && le b a).Pairwise fun b c => le b c := by
    refine List.pairwise_of_forall_mem_list fun b first c second => ?_
    simp only [List.mem_filter, Bool.and_eq_true] at first second
    exact trans b a c first.2.2 second.2.1
  have kept := (List.sublist_mergeSort trans total level List.filter_sublist).filter
    fun b => le a b && le b a
  rw [List.filter_filter] at kept
  simp only [Bool.and_self] at kept
  exact (kept.eq_of_length ((items.mergeSort_perm le).filter _).length_eq.symm).symm

theorem pairwise_mergeSort_of_stable (trans : ∀ a b c, le a b → le b c → le a c)
    (total : ∀ a b, le a b || le b a) (placed : items.Pairwise R) :
    (items.mergeSort le).Pairwise fun a b => le a b ∧ (le b a → R a b) := by
  have sorted := List.pairwise_mergeSort trans total items
  rw [List.pairwise_iff_forall_sublist] at *
  intro a b inside
  refine ⟨sorted inside, fun back => placed ?_⟩
  have level : [a, b].filter (fun c => le a c && le c a) = [a, b] := by
    have self : le a a := by simpa using total a a
    simp [self, sorted inside, back]
  have kept := inside.filter fun c => le a c && le c a
  rw [level, filter_mergeSort trans total a] at kept
  exact kept.trans List.filter_sublist

/-- A stable sort needs its laws on the items only.  It sorts them, and items at
one place keep whatever relation they had in the list. -/
theorem pairwise_mergeSort {P : α → Prop} (all : ∀ a ∈ items, P a)
    (trans : ∀ a b c, P a → P b → P c → le a b → le b c → le a c)
    (total : ∀ a b, P a → P b → le a b || le b a) (placed : items.Pairwise R) :
    (items.mergeSort le).Pairwise fun a b => le a b ∧ (le b a → R a b) := by
  let within : { a // P a } → { a // P a } → Bool := fun a b => le a.1 b.1
  have listed : ((items.attachWith P all).mergeSort within).map Subtype.val =
      items.mergeSort le := by
    rw [List.map_mergeSort (s := le) fun a _ b _ => rfl, List.attachWith_map_subtype_val]
  rw [← List.attachWith_map_subtype_val all, List.pairwise_map] at placed
  rw [← listed, List.pairwise_map]
  exact pairwise_mergeSort_of_stable (fun a b c => trans a.1 b.1 c.1 a.2 b.2 c.2)
    (fun a b => total a.1 b.1 a.2 b.2) placed

end Sorting

/-! ## The order of cells -/

namespace Json

/-- The cell is missing or null, or has one of the values. -/
def Within (values : Json → Prop) (cell : Option Json) : Prop :=
  ∀ value, cell = some value → value.isNull = false → values value

/-- The comparison of cells is a total preorder on the values, missing cells and
null included.  Cells that change places change the order to its opposite: of two
cells one is not behind the other, and neither only if they are equal. -/
structure Preordered (values : Json → Prop) : Prop where
  swap : ∀ a b, Within values a → Within values b → compareKeys b a = (compareKeys a b).swap
  trans : ∀ a b c, Within values a → Within values b → Within values c →
    compareKeys a b ≠ .gt → compareKeys b c ≠ .gt → compareKeys a c ≠ .gt

/-- Any two of the values compare. -/
def AllComparable (values : Json → Prop) : Prop :=
  ∀ a b, values a → values b → a.isNull = false → b.isNull = false → a.Comparable b

/-- Any two of the values count as equal. -/
def AllLevel (values : Json → Prop) : Prop :=
  ∀ a b, values a → values b → a.isNull = false → b.isNull = false →
    compareKeys (some a) (some b) = .eq

section

variable {values : Json → Prop} {a b : Json}

/-- The cell has no value other than null. -/
def isBlank (cell : Option Json) : Bool :=
  (cell.map isNull).getD true

theorem eq_some_of_not_isBlank {cell : Option Json} (filled : isBlank cell = false) :
    ∃ value, cell = some value ∧ value.isNull = false := by
  cases cell with
  | none => cases filled
  | some value => exact ⟨value, rfl, filled⟩

theorem filter_of_isBlank {cell : Option Json} (blank : isBlank cell = true) :
    cell.filter (fun value => !value.isNull) = none := by
  cases cell with
  | none => rfl
  | some value =>
      have null : value.isNull = true := blank
      simp [null]

theorem filter_of_filled (filled : a.isNull = false) :
    (some a).filter (fun value => !value.isNull) = some a := by
  rw [Option.filter_some, filled]
  rfl

theorem compareKeys_of_filled (first : a.isNull = false) (second : b.isNull = false) :
    compareKeys (some a) (some b) = (a.compare? b).getD .eq := by
  rw [compareKeys, filter_of_filled first, filter_of_filled second]

theorem compareKeys_of_isBlank {first second : Option Json} (blank : isBlank first = true) :
    compareKeys first second = if isBlank second then .eq else .gt := by
  unfold compareKeys
  rw [filter_of_isBlank blank]
  cases other : isBlank second with
  | true => rw [filter_of_isBlank other, if_pos rfl]
  | false =>
      rcases eq_some_of_not_isBlank other with ⟨value, rfl, filled⟩
      rw [filter_of_filled filled]
      rfl

theorem compareKeys_swap (first second : Option Json) :
    compareKeys second first = (compareKeys first second).swap := by
  unfold compareKeys
  cases first.filter _ with
  | none => cases second.filter _ <;> rfl
  | some a =>
      cases second.filter _ with
      | none => rfl
      | some b =>
          dsimp only
          rw [compare?_swap a b]
          cases a.compare? b <;> rfl

/-- A cell with a value comes before the blank ones. -/
theorem compareKeys_ne_gt_of_isBlank {first second : Option Json}
    (ordered : compareKeys first second ≠ .gt) (blank : isBlank first = true) :
    isBlank second = true := by
  rw [compareKeys_of_isBlank blank] at ordered
  by_contra filled
  rw [if_neg filled] at ordered
  exact ordered rfl

theorem compareKeys_trans_of_filled
    (regular : AllComparable values ∨ AllLevel values) {a b c : Json} (first : values a)
    (second : values b) (third : values c) (filled : a.isNull = false)
    (filled' : b.isNull = false) (filled'' : c.isNull = false)
    (here : compareKeys (some a) (some b) ≠ .gt) (there : compareKeys (some b) (some c) ≠ .gt) :
    compareKeys (some a) (some c) ≠ .gt := by
  rcases regular with comparable | level
  · rcases comparable a b first second filled filled' with ⟨order, compared⟩
    rcases comparable b c second third filled' filled'' with ⟨order', compared'⟩
    rcases compare?_trans compared compared' with ⟨order'', compared'', ordered⟩
    rw [compareKeys_of_filled filled filled', compared] at here
    rw [compareKeys_of_filled filled' filled'', compared'] at there
    rw [compareKeys_of_filled filled filled'', compared'']
    exact ordered here there
  · rw [level a c first third filled filled'']
    decide

theorem preordered_of_regular (regular : AllComparable values ∨ AllLevel values) :
    Preordered values := by
  refine ⟨fun a b _ _ => compareKeys_swap a b, ?_⟩
  intro a b c first second third here there
  cases blank : isBlank c with
  | true =>
      -- Nothing is behind a blank cell.
      rw [compareKeys_swap, compareKeys_of_isBlank blank]
      split <;> decide
  | false =>
      have blank' : isBlank b = false := by
        by_contra empty
        rw [compareKeys_ne_gt_of_isBlank there (by simpa using empty)] at blank
        cases blank
      have blank'' : isBlank a = false := by
        by_contra empty
        rw [compareKeys_ne_gt_of_isBlank here (by simpa using empty)] at blank'
        cases blank'
      rcases eq_some_of_not_isBlank blank with ⟨_, rfl, filled⟩
      rcases eq_some_of_not_isBlank blank' with ⟨_, rfl, filled'⟩
      rcases eq_some_of_not_isBlank blank'' with ⟨_, rfl, filled''⟩
      exact compareKeys_trans_of_filled regular (first _ rfl filled'') (second _ rfl filled')
        (third _ rfl filled) filled'' filled' filled here there

/-- Two values in order, and one that counts as equal to both. -/
structure Straddled (values : Json → Prop) (low middle high : Json) : Prop where
  values : values low ∧ values middle ∧ values high
  filled : low.isNull = false ∧ middle.isNull = false ∧ high.isNull = false
  apart : compareKeys (some low) (some high) = .lt
  below : compareKeys (some low) (some middle) = .eq
  above : compareKeys (some middle) (some high) = .eq

/-- Two values that do not compare, and two that differ: one of the first two
compares with none of the others. -/
theorem exists_straddled (mixed : ¬ AllComparable values) (uneven : ¬ AllLevel values) :
    ∃ low middle high, Straddled values low middle high := by
  unfold AllComparable at mixed
  unfold AllLevel at uneven
  push Not at mixed uneven
  rcases mixed with ⟨a, b, ofA, ofB, filledA, filledB, apart⟩
  rcases uneven with ⟨c, d, ofC, ofD, filledC, filledD, differ⟩
  have ordered : ∃ low high, values low ∧ values high ∧ low.isNull = false ∧
      high.isNull = false ∧ low.compare? high = some .lt := by
    rw [compareKeys_of_filled filledC filledD] at differ
    cases compared : c.compare? d with
    | none => exact absurd (by rw [compared]; rfl) differ
    | some order =>
        cases order with
        | eq => exact absurd (by rw [compared]; rfl) differ
        | lt => exact ⟨c, d, ofC, ofD, filledC, filledD, compared⟩
        | gt => exact ⟨d, c, ofD, ofC, filledD, filledC, by rw [compare?_swap c d, compared]; rfl⟩
  rcases ordered with ⟨low, high, ofLow, ofHigh, filledLow, filledHigh, compared⟩
  have foreign : ∃ middle, values middle ∧ middle.isNull = false ∧ ¬ middle.Comparable low := by
    by_cases near : a.Comparable low
    · exact ⟨b, ofB, filledB, fun also => apart (near.trans also.symm)⟩
    · exact ⟨a, ofA, filledA, near⟩
  rcases foreign with ⟨middle, ofMiddle, filledMiddle, alien⟩
  have unknown : low.compare? middle = none := by
    by_contra known
    exact alien (Comparable.symm (Option.ne_none_iff_exists'.mp known))
  have unknown' : middle.compare? high = none := by
    by_contra known
    have near : middle.Comparable high := Option.ne_none_iff_exists'.mp known
    exact alien (near.trans (Comparable.symm ⟨_, compared⟩))
  refine ⟨low, middle, high, ⟨ofLow, ofMiddle, ofHigh⟩, ⟨filledLow, filledMiddle, filledHigh⟩,
    ?_, ?_, ?_⟩
  · rw [compareKeys_of_filled filledLow filledHigh, compared]
    rfl
  · rw [compareKeys_of_filled filledLow filledMiddle, unknown]
    rfl
  · rw [compareKeys_of_filled filledMiddle filledHigh, unknown']
    rfl

theorem within_of_value {value : Json} (inside : values value) : Within values (some value) := by
  intro other same _
  cases same
  exact inside

/-- The comparison is a total preorder exactly on values that all compare, or
that all count as equal. -/
theorem preordered_iff :
    Preordered values ↔ AllComparable values ∨ AllLevel values := by
  refine ⟨fun preordered => ?_, preordered_of_regular⟩
  by_contra irregular
  rw [not_or] at irregular
  rcases exists_straddled irregular.1 irregular.2 with ⟨low, middle, high, straddled⟩
  rcases straddled.values with ⟨ofLow, ofMiddle, ofHigh⟩
  have back : compareKeys (some high) (some middle) ≠ .gt := by
    rw [compareKeys_swap, straddled.above]
    decide
  have back' : compareKeys (some middle) (some low) ≠ .gt := by
    rw [compareKeys_swap, straddled.below]
    decide
  refine preordered.trans _ _ _ (within_of_value ofHigh) (within_of_value ofMiddle)
    (within_of_value ofLow) back back' ?_
  rw [compareKeys_swap, straddled.apart]
  rfl

end

end Json

/-! ## The values of a column -/

namespace ColumnType

/-- The values that a column of a type stores. -/
def Stored (type : ColumnType) (value : Json) : Prop :=
  ∃ given, type.coerce? given = some value

theorem exists_binary?_ofInt {i : Int} (fits : inRange i = true) :
    ∃ b, (Json.Number.ofInt i).binary? = some b := by
  rcases exists_binary_of_inRange (Json.Number.value_ofInt i) fits with ⟨b, _, found, _⟩
  exact ⟨b, found⟩

/-- Texts, truth values, integers, identifiers and times all compare within their
column. -/
theorem allComparable_stored {type : ColumnType} (plain : type ≠ .numeric ∧ type ≠ .json) :
    Json.AllComparable type.Stored := by
  rintro a b ⟨_, first⟩ ⟨_, second⟩ filled filled'
  cases form_of_coerce? first with
  | null => cases filled
  | text s =>
      cases form_of_coerce? second with
      | null => cases filled'
      | text t => exact ⟨_, rfl⟩
  | integer i fits =>
      cases form_of_coerce? second with
      | null => cases filled'
      | integer j fits' =>
          exact Json.comparable_number_iff.mpr
            (.inr ⟨exists_binary?_ofInt fits, exists_binary?_ofInt fits'⟩)
  | boolean x =>
      cases form_of_coerce? second with
      | null => cases filled'
      | boolean y => exact ⟨_, rfl⟩
  | uuid id =>
      cases form_of_coerce? second with
      | null => cases filled'
      | uuid other => exact ⟨_, rfl⟩
  | timestamp t =>
      cases form_of_coerce? second with
      | null => cases filled'
      | timestamp u => exact ⟨_, rfl⟩
  | numeric n => exact absurd rfl plain.1
  | json value => exact absurd rfl plain.2

end ColumnType

/-- A number of 401 digits, which has no binary number. -/
def Json.Number.huge : Json.Number where
  negative := false
  whole := Digits.ofNat 1
  fraction := []
  exponent := some ⟨false, Digits.ofNat 400, Digits.ofNat_ne_nil _⟩
  whole_plain := Digits.plain_ofNat _

/-- Among one, two and the huge number there are two that do not compare, and two
that differ. -/
theorem Json.not_preordered_of_huge {values : Json → Prop}
    (all : ∀ n : Json.Number, values (.number n)) : ¬ Preordered values := by
  rw [preordered_iff, not_or]
  constructor
  · intro comparable
    rcases comparable (.number .huge) (.number (.ofInt 1)) (all _) (all _) rfl rfl with
      ⟨order, compared⟩
    have unknown : compare? (.number .huge) (.number (.ofInt 1)) = none := by decide +kernel
    cases unknown.symm.trans compared
  · intro level
    have same := level (.number (.ofInt 1)) (.number (.ofInt 2)) (all _) (all _) rfl rfl
    have less : compareKeys (some (.number (.ofInt 1))) (some (.number (.ofInt 2))) = .lt := by
      decide +kernel
    cases less.symm.trans same

theorem ColumnType.preordered_stored_iff (type : ColumnType) :
    Json.Preordered type.Stored ↔ type ≠ .numeric ∧ type ≠ .json := by
  constructor
  · intro preordered
    constructor
    · rintro rfl
      exact Json.not_preordered_of_huge (fun n => ⟨.number n, rfl⟩) preordered
    · rintro rfl
      exact Json.not_preordered_of_huge (fun n => ⟨.number n, rfl⟩) preordered
  · intro plain
    exact Json.preordered_iff.mpr (.inl (allComparable_stored plain))

/-! ## Ordered reads -/

/-- The comparison of two rows by their cells, in the direction of the order. -/
def SortOrder.compare (order : SortOrder) (first second : Row) : Ordering :=
  let comparison := Json.compareKeys (first.get? order.column) (second.get? order.column)
  if order.ascending then comparison else comparison.swap

/-- A list of numbered rows that is in order.  It has the rows of a table that
satisfy the conditions, each once and with its place in the table.  No row is
behind one that comes after it, and of two rows with equal cells the one inserted
first comes first.  The blank cells are at the end, or at the front if the order
is descending. -/
structure Listing (order : SortOrder) (conditions : List Condition) (rows : List Row)
    (listing : List (Row × Nat)) : Prop where
  complete : listing.Perm (rows.zipIdx.filter fun place => place.1.satisfies conditions)
  ordered : listing.Pairwise fun first second => order.compare first.1 second.1 ≠ .gt
  stable : listing.Pairwise fun first second =>
    order.compare first.1 second.1 = .eq → first.2 < second.2
  blanks : listing.Pairwise fun first second =>
    if order.ascending then first.1.isAbsent order.column → second.1.isAbsent order.column
    else second.1.isAbsent order.column → first.1.isAbsent order.column

/-- Every ordered read of rows with these values in the column lists them in
order, cuts the list off at its limit and takes the columns asked for. -/
def ReadInOrder (values : Json → Prop) : Prop :=
  ∀ (rows : List Row) (selection : Selection) (order : SortOrder),
    selection.order = some order → selection.counting = false →
    (∀ row ∈ rows, Json.Within values (row.get? order.column)) →
    ∃ listing, Listing order selection.conditions rows listing ∧
      Memory.selectRows rows selection =
        (Memory.limited selection.limit (listing.map Prod.fst)).map
          (Memory.project selection.projection)

namespace SortOrder

variable {order : SortOrder} {first second third : Row}

theorem compare_swap (order : SortOrder) (first second : Row) :
    order.compare second first = (order.compare first second).swap := by
  unfold compare
  dsimp only
  rw [Json.compareKeys_swap (first.get? order.column) (second.get? order.column)]
  split <;> rfl

theorem precedes_iff :
    Memory.precedes order first second = true ↔ order.compare first second ≠ .gt := by
  unfold Memory.precedes compare
  dsimp only
  split
  · exact bne_iff_ne
  · rw [bne_iff_ne]
    cases Json.compareKeys (first.get? order.column) (second.get? order.column) <;> decide

theorem precedes_total (order : SortOrder) (first second : Row) :
    (Memory.precedes order first second || Memory.precedes order second first) = true := by
  rw [Bool.or_eq_true, precedes_iff, precedes_iff, compare_swap order first second]
  cases order.compare first second <;> decide

theorem compare_trans {values : Json → Prop} (preordered : Json.Preordered values)
    (ofFirst : Json.Within values (first.get? order.column))
    (ofSecond : Json.Within values (second.get? order.column))
    (ofThird : Json.Within values (third.get? order.column))
    (here : order.compare first second ≠ .gt) (there : order.compare second third ≠ .gt) :
    order.compare first third ≠ .gt := by
  unfold compare at *
  dsimp only at *
  split at here
  · next ascending =>
    rw [if_pos ascending] at there ⊢
    exact preordered.trans _ _ _ ofFirst ofSecond ofThird here there
  · next descending =>
    rw [if_neg descending, ← Json.compareKeys_swap] at *
    exact preordered.trans _ _ _ ofThird ofSecond ofFirst there here

/-- A row with a blank cell is behind all others in the ascending order, and before
them in the descending one. -/
theorem isAbsent_of_compare_ne_gt (ordered : order.compare first second ≠ .gt) :
    if order.ascending then first.isAbsent order.column → second.isAbsent order.column
    else second.isAbsent order.column → first.isAbsent order.column := by
  unfold compare at ordered
  dsimp only at ordered
  split at ordered
  · next ascending =>
    rw [if_pos ascending]
    exact Json.compareKeys_ne_gt_of_isBlank ordered
  · next descending =>
    rw [if_neg descending]
    rw [← Json.compareKeys_swap] at ordered
    exact Json.compareKeys_ne_gt_of_isBlank ordered

end SortOrder

theorem pairwise_zipIdx_lt {α : Type} (items : List α) :
    items.zipIdx.Pairwise fun first second => first.2 < second.2 := by
  have places : (items.zipIdx.map Prod.snd).Pairwise (· < ·) := by
    rw [List.zipIdx_map_snd]
    exact List.pairwise_lt_range'
  exact List.pairwise_map.mp places

/-- On a total preorder the sorted rows are in order. -/
theorem Json.Preordered.listing {values : Json → Prop} (preordered : Preordered values)
    {order : SortOrder} (conditions : List Condition) {rows : List Row}
    (within : ∀ row ∈ rows, Within values (row.get? order.column)) :
    Listing order conditions rows
      ((rows.zipIdx.filter fun place => place.1.satisfies conditions).mergeSort
        fun first second => Memory.precedes order first.1 second.1) := by
  have listed : ∀ place ∈ rows.zipIdx.filter fun place => place.1.satisfies conditions,
      Within values (place.1.get? order.column) := by
    intro place member
    have inside := List.mem_map_of_mem (f := Prod.fst) (List.mem_filter.mp member).1
    rw [List.zipIdx_map_fst] at inside
    exact within place.1 inside
  have placed := (pairwise_zipIdx_lt rows).filter fun place => place.1.satisfies conditions
  have sorted := Sorting.pairwise_mergeSort
    (R := fun first second : Row × Nat => first.2 < second.2) listed
    (by
      simp only [SortOrder.precedes_iff]
      exact fun _ _ _ => SortOrder.compare_trans preordered)
    (fun first second _ _ => SortOrder.precedes_total order first.1 second.1) placed
  simp only [SortOrder.precedes_iff] at sorted
  refine ⟨List.mergeSort_perm _ _, sorted.imp fun related => related.1, ?_, ?_⟩
  · refine sorted.imp fun {first second} related level => related.2 ?_
    rw [SortOrder.compare_swap, level]
    decide
  · exact sorted.imp fun related => SortOrder.isAbsent_of_compare_ne_gt related.1

theorem readInOrder_of_preordered {values : Json → Prop} (preordered : Json.Preordered values) :
    ReadInOrder values := by
  intro rows selection order sortedBy whole within
  refine ⟨_, preordered.listing selection.conditions within, ?_⟩
  have chosen : (rows.zipIdx.filter fun place => place.1.satisfies selection.conditions).map
      Prod.fst = rows.filter fun row => row.satisfies selection.conditions := by
    conv_rhs => rw [← List.zipIdx_map_fst 0 rows, List.filter_map]
    rfl
  rw [List.map_mergeSort (s := Memory.precedes order) fun _ _ _ _ => rfl, chosen]
  simp only [Memory.selectRows, whole, Bool.false_eq_true, if_false, sortedBy, Memory.sorted]

/-! ## Rows that cannot be put in order -/

section

variable {order : SortOrder} {rows : List Row} {listing : List (Row × Nat)}

/-- Without conditions all rows are listed. -/
theorem Listing.exists_getElem (inOrder : Listing order [] rows listing) {row : Row} (place : Nat)
    (stored : rows[place]? = some row) :
    ∃ (index : Nat) (inside : index < listing.length), listing[index] = (row, place) := by
  apply List.getElem_of_mem
  rw [inOrder.complete.mem_iff, List.mem_filter]
  exact ⟨List.mem_zipIdx_iff_getElem?.mpr stored, rfl⟩

/-- Rows with equal cells are listed in the order of their insertion. -/
theorem Listing.lt_of_compare_eq (inOrder : Listing order [] rows listing) {first second : Row}
    {place place' index index' : Nat} {inside : index < listing.length}
    {inside' : index' < listing.length} (listed : listing[index] = (first, place))
    (listed' : listing[index'] = (second, place')) (level : order.compare first second = .eq)
    (earlier : place < place') : index < index' := by
  rcases Nat.lt_trichotomy index index' with before | same | behind
  · exact before
  · subst same
    cases listed.symm.trans listed'
    exact absurd earlier (Nat.lt_irrefl _)
  · have stable := List.pairwise_iff_getElem.mp inOrder.stable index' index inside' inside behind
    rw [listed, listed'] at stable
    have later := stable (by rw [SortOrder.compare_swap, level]; rfl)
    omega

end

/-- The row with one cell. -/
def Json.asRow (value : Json) : Row :=
  Keyed.empty.insert "key" value

/-- If a value counts as equal to a greater and to a lesser one, then the three
cannot be put in order after they are inserted in this order, the lesser one
last. -/
theorem Json.Straddled.not_readInOrder {values : Json → Prop} {low middle high : Json}
    (straddled : Straddled values low middle high) : ¬ ReadInOrder values := by
  intro reads
  let order : SortOrder := ⟨"key", true⟩
  have compared : ∀ a b : Json,
      order.compare a.asRow b.asRow = compareKeys (some a) (some b) := by
    intro a b
    simp [SortOrder.compare, order, asRow, Keyed.get?_insert]
  have within : ∀ row ∈ [high.asRow, middle.asRow, low.asRow],
      Within values (row.get? order.column) := by
    rcases straddled.values with ⟨ofLow, ofMiddle, ofHigh⟩
    simp only [List.forall_mem_cons, asRow, order, Keyed.get?_insert, if_true]
    exact ⟨within_of_value ofHigh, within_of_value ofMiddle, within_of_value ofLow,
      fun _ none => absurd none List.not_mem_nil⟩
  rcases reads _ ⟨"", .all, [], some order, none, false⟩ order rfl rfl within with
    ⟨listing, inOrder, _⟩
  rcases inOrder.exists_getElem 0 rfl with ⟨first, inside, listed⟩
  rcases inOrder.exists_getElem 1 rfl with ⟨second, inside', listed'⟩
  rcases inOrder.exists_getElem 2 rfl with ⟨third, inside'', listed''⟩
  have above : order.compare high.asRow middle.asRow = .eq := by
    rw [compared, compareKeys_swap, straddled.above]
    rfl
  have below : order.compare middle.asRow low.asRow = .eq := by
    rw [compared, compareKeys_swap, straddled.below]
    rfl
  have front := inOrder.lt_of_compare_eq listed listed' above (by decide)
  have back := inOrder.lt_of_compare_eq listed' listed'' below (by decide)
  have ordered := List.pairwise_iff_getElem.mp inOrder.ordered first third inside inside''
    (Nat.lt_trans front back)
  rw [listed, listed''] at ordered
  refine ordered ?_
  rw [compared, compareKeys_swap, straddled.apart]
  rfl

theorem preordered_of_readInOrder {values : Json → Prop} (reads : ReadInOrder values) :
    Json.Preordered values := by
  rw [Json.preordered_iff]
  by_contra irregular
  rw [not_or] at irregular
  rcases Json.exists_straddled irregular.1 irregular.2 with ⟨low, middle, high, straddled⟩
  exact straddled.not_readInOrder reads

/-! ## The main statement -/

/-- The comparison is a total preorder on what a column stores, and every ordered
read of such a column is in order, for all types but those of decimals and documents.
On any values it is a total preorder exactly if they all compare or all count as
equal; and these are the values on which every ordered read is in order. -/
theorem ordered_reads_iff (type : ColumnType) (values : Json → Prop) :
    (Json.Preordered type.Stored ↔ type ≠ .numeric ∧ type ≠ .json) ∧
      (ReadInOrder type.Stored ↔ type ≠ .numeric ∧ type ≠ .json) ∧
      (Json.Preordered values ↔ Json.AllComparable values ∨ Json.AllLevel values) ∧
      (Json.Preordered values ↔ ReadInOrder values) := by
  have stored := ColumnType.preordered_stored_iff type
  have reads : ∀ values, Json.Preordered values ↔ ReadInOrder values := fun _ =>
    ⟨readInOrder_of_preordered, preordered_of_readInOrder⟩
  exact ⟨stored, (reads type.Stored).symm.trans stored, Json.preordered_iff, reads values⟩

/-- Two, the huge number twice, and one, in the order of their insertion. -/
def Json.unsorted : List Row :=
  [asRow (.number (.ofInt 2)), asRow (.number .huge), asRow (.number .huge),
    asRow (.number (.ofInt 1))]

/-- A number that is too large for a binary number counts as equal to one and to
two, so the comparison is no total preorder on the numbers of a column.  Not all
reads ordered by such a column are in order: this one returns two before one. -/
theorem huge_number_out_of_order :
    (¬ ∀ type : ColumnType, Json.Preordered type.Stored) ∧
      (¬ ∀ type : ColumnType, ReadInOrder type.Stored) ∧
      Memory.selectRows Json.unsorted ⟨"items", .all, [], some ⟨"key", true⟩, none, false⟩ =
        Json.unsorted ∧
      Json.compareKeys (some (.number (.ofInt 2))) (some (.number (.ofInt 1))) = .gt := by
  have irregular : ¬ Json.Preordered ColumnType.numeric.Stored :=
    Json.not_preordered_of_huge fun n => ⟨.number n, rfl⟩
  refine ⟨fun all => irregular (all .numeric),
    fun all => irregular (preordered_of_readInOrder (all .numeric)), ?_, by decide +kernel⟩
  -- The first half and the second half are each in order, and no row of the first
  -- one is behind the first row of the second.
  have front : Memory.precedes ⟨"key", true⟩ (Json.asRow (.number (.ofInt 2)))
      (Json.asRow (.number .huge)) = true := by decide +kernel
  have middle : Memory.precedes ⟨"key", true⟩ (Json.asRow (.number .huge))
      (Json.asRow (.number .huge)) = true := by decide +kernel
  have back : Memory.precedes ⟨"key", true⟩ (Json.asRow (.number .huge))
      (Json.asRow (.number (.ofInt 1))) = true := by decide +kernel
  have sorted : Memory.sorted (some ⟨"key", true⟩) Json.unsorted = Json.unsorted := by
    simp [Memory.sorted, Json.unsorted, List.mergeSort, front, middle, back]
  have chosen : Json.unsorted.filter (fun row => row.satisfies []) = Json.unsorted :=
    List.filter_true _
  simp only [Memory.selectRows, Bool.false_eq_true, if_false, chosen, sorted, Memory.limited]
  exact List.map_id _

end RowGate
