import Mathlib.Data.List.Forall2
import Mathlib.Data.List.Induction
import Mathlib.Data.List.TakeWhile
import RowGate.Http.Parameters
import RowGate.Proofs.Decimal.Spelling
import RowGate.Proofs.Fallible

namespace RowGate

/-!
# The pairs of a query string

What the pairs of a request say is told here without the loop that reads them.  A
pair is a filter unless its key is reserved, and of the pairs with one reserved key
the last counts.  Pairs that cannot be read are the exception: each of them is an
error, also where a later pair with its key could be read.

What the loop holds after some pairs is what these pairs say, so one more pair is
the step of the proof, and the induction takes the list from its end.  A pair is
refused whatever has been read before it, so the error is that of the first one.
-/

/-! ## Blanks and letters -/

namespace Text

theorem trimmed_eq_nil_iff {cs : List Char} : trimmed cs = [] ↔ cs.all isBlank = true := by
  have front : ∀ ds : List Char, trimStart ds = [] ↔ ds.all isBlank = true := by
    intro ds
    rw [trimStart, List.dropWhile_eq_nil_iff, List.all_eq_true]
  rw [trimmed, List.reverse_eq_nil_iff, front, List.all_reverse]
  constructor
  · intro blank
    have parts : cs = cs.takeWhile isBlank ++ trimStart cs := List.takeWhile_append_dropWhile.symm
    rw [parts, List.all_append, blank, Bool.and_true, List.all_eq_true]
    intro c member
    exact List.mem_takeWhile_imp member
  · intro blank
    rw [(front cs).mpr blank]
    rfl

theorem trim_eq_empty_iff {s : String} : trim s = "" ↔ isAllBlank s = true := by
  rw [trim, String.ofList_eq_empty_iff, trimmed_eq_nil_iff, isAllBlank]

theorem toLower_eq_iff {c letter : Char} (lower : letter.isLower = true) :
    c.toLower = letter ↔ c = letter ∨ c = letter.toUpper := by
  rcases Bool.and_eq_true_iff.mp lower with ⟨first, last⟩
  have bounds : 'a'.val ≤ letter.val ∧ letter.val ≤ 'z'.val :=
    ⟨of_decide_eq_true first, of_decide_eq_true last⟩
  delta Char.toLower Char.toUpper
  rw [dif_pos bounds]
  split
  · simp only [Char.ext_iff]
    simp only [← UInt32.toNat_inj, UInt32.le_iff_toNat_le, ge_iff_le, Char.reduceVal,
      UInt32.toNat_add, UInt32.reduceToNat, UInt32.reduceSub] at *
    omega
  · simp only [Char.ext_iff]
    simp only [← UInt32.toNat_inj, UInt32.le_iff_toNat_le, ge_iff_le, Char.reduceVal,
      UInt32.toNat_add, UInt32.reduceToNat, UInt32.reduceSub] at *
    omega

/-- Letter by letter a word is another one, in lower or in upper case. -/
def InAnyCase (lower word : String) : Prop :=
  List.Forall₂ (fun c letter => c = letter ∨ c = letter.toUpper) word.toList lower.toList

theorem toLower_eq_iff_inAnyCase {lower word : String}
    (letters : lower.toList.all Char.isLower = true) :
    word.toLower = lower ↔ InAnyCase lower word := by
  rw [List.all_eq_true] at letters
  have lowered : word.toLower.toList = word.toList.map Char.toLower := String.toList_map
  rw [← String.toList_inj, lowered, ← List.forall₂_eq_eq_eq,
    List.forall₂_map_left_iff, InAnyCase, List.forall₂_iff_zip, List.forall₂_iff_zip]
  apply and_congr_right
  intro _
  constructor
  · intro same c letter member
    exact (toLower_eq_iff (letters letter (List.of_mem_zip member).2)).mp (same member)
  · intro same c letter member
    exact (toLower_eq_iff (letters letter (List.of_mem_zip member).2)).mpr (same member)

end Text

namespace Http
namespace Parameters

/-! ## Orders -/

/-- The word stands for ascending or for descending order. -/
def Directs (word : String) (ascending : Bool) : Prop :=
  Text.InAnyCase (if ascending then "asc" else "desc") word

/-- What a well-formed order says: a column alone, or a column and a direction
behind the last dot. -/
inductive OrderOf : String → SortOrder → Prop where
  | column {value : String} (dotless : '.' ∉ value.toList)
      (filled : Text.isAllBlank value = false) : OrderOf value ⟨Text.trim value, true⟩
  | directed {column word : String} {ascending : Bool} (last : '.' ∉ word.toList)
      (directs : Directs word ascending) (filled : Text.isAllBlank column = false) :
      OrderOf (column ++ "." ++ word) ⟨Text.trim column, ascending⟩

/-- What is wrong with an order: the direction, or else the column. -/
inductive OrderRefused : String → Failure → Prop where
  | blank {value : String} (dotless : '.' ∉ value.toList)
      (blank : Text.isAllBlank value = true) :
      OrderRefused value (.invalidParameter "order requires a column")
  | undirected {column word : String} (last : '.' ∉ word.toList)
      (unknown : ∀ ascending, ¬ Directs word ascending) :
      OrderRefused (column ++ "." ++ word) (.invalidParameter ("Invalid order direction: " ++ word))
  | blankDirected {column word : String} {ascending : Bool} (last : '.' ∉ word.toList)
      (directs : Directs word ascending) (blank : Text.isAllBlank column = true) :
      OrderRefused (column ++ "." ++ word) (.invalidParameter "order requires a column")

theorem direction_eq_ok_iff {word : String} {ascending : Bool} :
    direction word = .ok ascending ↔ Directs word ascending := by
  have rising : word.toLower = "asc" ↔ Text.InAnyCase "asc" word :=
    Text.toLower_eq_iff_inAnyCase (by decide)
  have falling : word.toLower = "desc" ↔ Text.InAnyCase "desc" word :=
    Text.toLower_eq_iff_inAnyCase (by decide)
  unfold direction Directs
  cases ascending with
  | true =>
      rw [if_pos rfl, ← rising]
      split
      · next here => simp [here]
      · next other => split <;> simp [other]
  | false =>
      rw [if_neg Bool.false_ne_true, ← falling]
      split
      · next here => simp [here]
      · split
        · next here => simp [here]
        · next other => simp [other]

theorem direction_of_unknown {word : String} (unknown : ∀ ascending, ¬ Directs word ascending) :
    direction word = .error (.invalidParameter ("Invalid order direction: " ++ word)) := by
  cases read : direction word with
  | ok ascending => exact absurd (direction_eq_ok_iff.mp read) (unknown ascending)
  | error failure =>
      unfold direction at read
      split at read
      · cases read
      · split at read
        · cases read
        · exact read.symm

theorem orderBy_of_filled {column : String} (filled : Text.isAllBlank column = false)
    (ascending : Bool) : orderBy column.toList ascending = .ok ⟨Text.trim column, ascending⟩ := by
  have named : Text.trim column ≠ "" := by
    rw [Ne, Text.trim_eq_empty_iff, filled]
    exact Bool.false_ne_true
  exact if_neg named

theorem orderBy_of_blank {column : String} (blank : Text.isAllBlank column = true)
    (ascending : Bool) :
    orderBy column.toList ascending = .error (.invalidParameter "order requires a column") :=
  if_pos (Text.trim_eq_empty_iff.mpr blank)

theorem readOrder_of_dotless {value : String} (dotless : '.' ∉ value.toList) :
    readOrder value = orderBy value.toList true := by
  cases cut : Text.cutLast '.' value.toList with
  | none => simp only [readOrder, cut]
  | some parts =>
      have dotted : '.' ∈ value.toList := by
        rw [(Text.cutLast_eq_some cut).1]
        exact List.mem_append_right _ List.mem_cons_self
      exact absurd dotted dotless

theorem toList_directed (column word : String) :
    (column ++ "." ++ word).toList = column.toList ++ '.' :: word.toList := by
  rw [String.toList_append, String.toList_append, List.append_assoc]
  rfl

theorem readOrder_append {column word : String} (last : '.' ∉ word.toList) :
    readOrder (column ++ "." ++ word) = (direction word).bind (orderBy column.toList) := by
  simp only [readOrder, toList_directed, Text.cutLast_append _ last, String.ofList_toList]

theorem OrderOf.readOrder_eq {value : String} {order : SortOrder} (said : OrderOf value order) :
    readOrder value = .ok order := by
  cases said with
  | column dotless filled => rw [readOrder_of_dotless dotless, orderBy_of_filled filled]
  | directed last directs filled =>
      rw [readOrder_append last, direction_eq_ok_iff.mpr directs]
      exact orderBy_of_filled filled _

theorem OrderRefused.readOrder_eq {value : String} {failure : Failure}
    (refused : OrderRefused value failure) : readOrder value = .error failure := by
  cases refused with
  | blank dotless blank => rw [readOrder_of_dotless dotless, orderBy_of_blank blank]
  | undirected last unknown =>
      rw [readOrder_append last, direction_of_unknown unknown]
      rfl
  | blankDirected last directs blank =>
      rw [readOrder_append last, direction_eq_ok_iff.mpr directs]
      exact orderBy_of_blank blank _

theorem exists_last_dot {value : String} (dotted : '.' ∈ value.toList) :
    ∃ column word, value = column ++ "." ++ word ∧ '.' ∉ word.toList := by
  cases cut : Text.cutLast '.' value.toList with
  | none =>
      have dotless := Text.cutFirst_eq_none.mp (Option.map_eq_none_iff.mp cut)
      exact absurd (List.mem_reverse.mpr dotted) dotless
  | some parts =>
      rcases Text.cutLast_eq_some cut with ⟨whole, last⟩
      refine ⟨.ofList parts.1, .ofList parts.2, ?_, by rwa [String.toList_ofList]⟩
      rw [← String.toList_inj, whole, toList_directed, String.toList_ofList, String.toList_ofList]

/-- Every text is an order or has something wrong. -/
theorem orderOf_or_refused (value : String) :
    (∃ order, OrderOf value order) ∨ ∃ failure, OrderRefused value failure := by
  by_cases dotted : '.' ∈ value.toList
  · rcases exists_last_dot dotted with ⟨column, word, rfl, last⟩
    by_cases known : ∃ ascending, Directs word ascending
    · rcases known with ⟨ascending, directs⟩
      cases blank : Text.isAllBlank column with
      | false => exact .inl ⟨_, .directed last directs blank⟩
      | true => exact .inr ⟨_, .blankDirected last directs blank⟩
    · exact .inr ⟨_, .undirected last (not_exists.mp known)⟩
  · cases blank : Text.isAllBlank value with
    | false => exact .inl ⟨_, .column dotted blank⟩
    | true => exact .inr ⟨_, .blank dotted blank⟩

theorem readOrder_eq_ok_iff {value : String} {order : SortOrder} :
    readOrder value = .ok order ↔ OrderOf value order := by
  constructor
  · intro read
    rcases orderOf_or_refused value with ⟨other, said⟩ | ⟨failure, refused⟩
    · cases read.symm.trans said.readOrder_eq
      exact said
    · cases read.symm.trans refused.readOrder_eq
  · exact OrderOf.readOrder_eq

theorem readOrder_eq_error_iff {value : String} {failure : Failure} :
    readOrder value = .error failure ↔ OrderRefused value failure := by
  constructor
  · intro read
    rcases orderOf_or_refused value with ⟨order, said⟩ | ⟨other, refused⟩
    · cases read.symm.trans said.readOrder_eq
    · cases read.symm.trans refused.readOrder_eq
      exact refused
  · exact OrderRefused.readOrder_eq

/-! ## Limits -/

/-- What a well-formed limit says: the digits of a number of 64 bits, with a plus sign
before them or none, and blanks at the ends. -/
def LimitOf (value : String) (limit : Nat) : Prop :=
  Spelling.OfNat (Text.trimmed value.toList) limit ∧ limit ≤ Bounded.maxNat64

theorem readLimit_eq_ok_iff {value : String} {limit : Nat} :
    readLimit value = .ok limit ↔ LimitOf value limit := by
  rw [LimitOf, ← Spelling.natural_eq_ok_iff]
  unfold readLimit Bounded.natural?
  cases Bounded.natural Bounded.maxNat64 (Text.trimmed value.toList) with
  | ok other => simp [Except.toOption]
  | error fault => simp [Except.toOption]

theorem readLimit_eq_error_iff {value : String} {failure : Failure} :
    readLimit value = .error failure ↔
      (∀ limit, ¬ LimitOf value limit) ∧
        failure = .invalidParameter ("Invalid limit: " ++ value) := by
  simp only [← readLimit_eq_ok_iff]
  unfold readLimit
  split
  · simp
  · simp [eq_comm]

/-! ## Pairs -/

/-- The keys that are no columns; order and limit are reserved on reads only. -/
def reserved (reads : Bool) : List String :=
  if reads then ["select", "table", "order", "limit"] else ["select", "table"]

/-- The values of the pairs with a key, in their order. -/
def valuesOf (key : String) (pairs : List (String × String)) : List String :=
  (pairs.filter fun pair => pair.1 = key).map Prod.snd

/-- The value of the last pair with a key, if the key is reserved. -/
def lastOf (reads : Bool) (key : String) (pairs : List (String × String)) : Option String :=
  if key ∈ reserved reads then (valuesOf key pairs).getLast? else Option.none

@[simp]
theorem select_mem_reserved (reads : Bool) : "select" ∈ reserved reads := by
  cases reads <;> decide

@[simp]
theorem table_mem_reserved (reads : Bool) : "table" ∈ reserved reads := by
  cases reads <;> decide

theorem valuesOf_snoc (key value : String) (pairs : List (String × String)) :
    valuesOf key (pairs ++ [(key, value)]) = valuesOf key pairs ++ [value] := by
  simp [valuesOf]

theorem valuesOf_snoc_of_ne {key : String} {pair : String × String} (other : pair.1 ≠ key)
    (pairs : List (String × String)) : valuesOf key (pairs ++ [pair]) = valuesOf key pairs := by
  simp [valuesOf, other]

theorem mem_valuesOf {key value : String} {pairs : List (String × String)} :
    value ∈ valuesOf key pairs ↔ (key, value) ∈ pairs := by
  simp [valuesOf]

theorem lastOf_snoc {reads : Bool} {key : String} (named : key ∈ reserved reads) (value : String)
    (pairs : List (String × String)) : lastOf reads key (pairs ++ [(key, value)]) = some value := by
  rw [lastOf, if_pos named, valuesOf_snoc, List.getLast?_concat]

theorem lastOf_snoc_of_ne {key : String} {pair : String × String} (other : pair.1 ≠ key)
    (reads : Bool) (pairs : List (String × String)) :
    lastOf reads key (pairs ++ [pair]) = lastOf reads key pairs := by
  rw [lastOf, lastOf, valuesOf_snoc_of_ne other]

/-- A filter is not the last pair with any reserved key. -/
theorem lastOf_snoc_of_free {reads : Bool} {pair : String × String} (free : pair.1 ∉ reserved reads)
    (key : String) (pairs : List (String × String)) :
    lastOf reads key (pairs ++ [pair]) = lastOf reads key pairs := by
  by_cases named : key ∈ reserved reads
  · apply lastOf_snoc_of_ne
    rintro rfl
    exact free named
  · rw [lastOf, lastOf, if_neg named, if_neg named]

/-- The value of a reserved key that occurs once at most. -/
theorem lastOf_of_valuesOf {reads : Bool} {key : String} {pairs : List (String × String)}
    {given : Option String} (named : key ∈ reserved reads)
    (only : valuesOf key pairs = given.toList) : lastOf reads key pairs = given := by
  rw [lastOf, if_pos named, only]
  cases given <;> rfl

/-- A pair that cannot be read, and what is wrong with it. -/
inductive Refused : String × String → Failure → Prop where
  | order {value : String} {failure : Failure} (refused : OrderRefused value failure) :
      Refused ("order", value) failure
  | limit {value : String} (malformed : ∀ limit, ¬ LimitOf value limit) :
      Refused ("limit", value) (.invalidParameter ("Invalid limit: " ++ value))

/-- What a pair is for, by its key. -/
inductive Kind : Bool → String × String → Prop where
  | select {reads : Bool} (value : String) : Kind reads ("select", value)
  | table {reads : Bool} (value : String) : Kind reads ("table", value)
  | order (value : String) : Kind true ("order", value)
  | limit (value : String) : Kind true ("limit", value)
  | free {reads : Bool} {pair : String × String} (free : pair.1 ∉ reserved reads) :
      Kind reads pair

theorem Kind.of (reads : Bool) (pair : String × String) : Kind reads pair := by
  rcases pair with ⟨key, value⟩
  by_cases named : key ∈ reserved reads
  · cases reads with
    | false =>
        simp only [reserved, Bool.false_eq_true, if_false, List.mem_cons, List.not_mem_nil,
          or_false] at named
        rcases named with rfl | rfl
        · exact .select value
        · exact .table value
    | true =>
        simp only [reserved, if_true, List.mem_cons, List.not_mem_nil, or_false] at named
        rcases named with rfl | rfl | rfl | rfl
        · exact .select value
        · exact .table value
        · exact .order value
        · exact .limit value
  · exact .free named

variable {reads : Bool} {parameters next : Parameters} {pair : String × String} {failure : Failure}

section

variable (reads parameters) (value : String)

theorem add_select : add reads parameters ("select", value) =
    .ok (if Text.isAllBlank value then parameters else { parameters with select := value }) := by
  unfold add
  rw [if_pos rfl]
  split <;> rfl

theorem add_table : add reads parameters ("table", value) = .ok parameters := by
  simp [add]

theorem add_order : add true parameters ("order", value) =
    (readOrder value).map fun order => { parameters with order := some order } := by
  simp [add]

theorem add_limit : add true parameters ("limit", value) =
    (readLimit value).map fun limit => { parameters with limit := some limit } := by
  simp [add]

end

theorem add_of_free (free : pair.1 ∉ reserved reads) :
    add reads parameters pair =
      .ok { parameters with filters := parameters.filters ++ [pair] } := by
  cases reads <;> simp_all [add, reserved]

/-- Whether a pair is refused does not depend on the pairs before it. -/
theorem add_eq_error_iff :
    add reads parameters pair = .error failure ↔ reads = true ∧ Refused pair failure := by
  constructor
  · intro failed
    cases Kind.of reads pair with
    | select value =>
        rw [add_select] at failed
        cases failed
    | table value =>
        rw [add_table] at failed
        cases failed
    | order value =>
        rw [add_order] at failed
        exact ⟨rfl, .order (readOrder_eq_error_iff.mp (Fallible.map_eq_error.mp failed))⟩
    | limit value =>
        rw [add_limit] at failed
        rcases readLimit_eq_error_iff.mp (Fallible.map_eq_error.mp failed) with ⟨malformed, rfl⟩
        exact ⟨rfl, .limit malformed⟩
    | free free =>
        rw [add_of_free free] at failed
        cases failed
  · rintro ⟨rfl, refused⟩
    cases refused with
    | order refused =>
        rw [add_order]
        exact Fallible.map_eq_error.mpr refused.readOrder_eq
    | limit malformed =>
        rw [add_limit]
        exact Fallible.map_eq_error.mpr (readLimit_eq_error_iff.mpr ⟨malformed, rfl⟩)

theorem not_refused_of_add (added : add true parameters pair = .ok next) :
    ¬ Refused pair failure := by
  intro refused
  cases added.symm.trans (add_eq_error_iff.mpr ⟨rfl, refused⟩)

/-! ## Lists of pairs -/

/-- The failure is what is wrong with the first pair that cannot be read. -/
def FirstRefused (pairs : List (String × String)) (failure : Failure) : Prop :=
  ∃ before pair after, pairs = before ++ pair :: after ∧
    (∀ earlier ∈ before, ∀ other, ¬ Refused earlier other) ∧ Refused pair failure

theorem firstRefused_nil : ¬ FirstRefused [] failure := by
  rintro ⟨before, pair, after, parts, _⟩
  cases before <;> cases parts

theorem firstRefused_cons {rest : List (String × String)} :
    FirstRefused (pair :: rest) failure ↔
      Refused pair failure ∨ (∀ other, ¬ Refused pair other) ∧ FirstRefused rest failure := by
  constructor
  · rintro ⟨before, found, after, parts, earlier, refused⟩
    cases before with
    | nil =>
        cases parts
        exact .inl refused
    | cons first more =>
        cases parts
        rcases List.forall_mem_cons.mp earlier with ⟨here, there⟩
        exact .inr ⟨here, more, found, after, rfl, there, refused⟩
  · rintro (refused | ⟨here, before, found, after, rfl, there, refused⟩)
    · exact ⟨[], pair, rest, rfl, List.forall_mem_nil _, refused⟩
    · exact ⟨pair :: before, found, after, rfl, List.forall_mem_cons.mpr ⟨here, there⟩, refused⟩

theorem FirstRefused.exists_mem {pairs : List (String × String)}
    (first : FirstRefused pairs failure) : ∃ pair ∈ pairs, Refused pair failure := by
  rcases first with ⟨before, pair, after, rfl, _, refused⟩
  exact ⟨pair, List.mem_append_right _ List.mem_cons_self, refused⟩

/-- Where a pair cannot be read, there is a first one. -/
theorem exists_firstRefused_iff {pairs : List (String × String)} :
    (∃ failure, FirstRefused pairs failure) ↔ ∃ pair ∈ pairs, ∃ failure, Refused pair failure := by
  induction pairs with
  | nil =>
      constructor
      · rintro ⟨_, refused⟩
        exact absurd refused firstRefused_nil
      · rintro ⟨pair, member, _⟩
        cases member
  | cons pair rest inductionHypothesis =>
      simp only [firstRefused_cons, List.exists_mem_cons_iff, ← inductionHypothesis]
      constructor
      · rintro ⟨failure, refused | ⟨_, later⟩⟩
        · exact .inl ⟨failure, refused⟩
        · exact .inr ⟨failure, later⟩
      · rintro (⟨failure, refused⟩ | ⟨failure, later⟩)
        · exact ⟨failure, .inl refused⟩
        · by_cases here : ∃ other, Refused pair other
          · rcases here with ⟨other, refused⟩
            exact ⟨other, .inl refused⟩
          · exact ⟨failure, .inr ⟨not_exists.mp here, later⟩⟩

theorem foldlM_add_eq_error_iff {pairs : List (String × String)} :
    pairs.foldlM (add reads) parameters = .error failure ↔
      reads = true ∧ FirstRefused pairs failure := by
  induction pairs generalizing parameters with
  | nil =>
      constructor
      · intro failed
        cases failed
      · rintro ⟨_, refused⟩
        exact absurd refused firstRefused_nil
  | cons pair rest inductionHypothesis =>
      rw [List.foldlM_cons, firstRefused_cons]
      refine Fallible.bind_eq_error.trans ?_
      constructor
      · rintro (failed | ⟨next, added, failed⟩)
        · rcases add_eq_error_iff.mp failed with ⟨reading, refused⟩
          exact ⟨reading, .inl refused⟩
        · rcases inductionHypothesis.mp failed with ⟨reading, refused⟩
          subst reading
          exact ⟨rfl, .inr ⟨fun _ => not_refused_of_add added, refused⟩⟩
      · rintro ⟨reading, refused | ⟨here, refused⟩⟩
        · exact .inl (add_eq_error_iff.mpr ⟨reading, refused⟩)
        · cases added : add reads parameters pair with
          | error other => exact absurd (add_eq_error_iff.mp added).2 (here other)
          | ok next => exact .inr ⟨next, rfl, inductionHypothesis.mpr ⟨reading, refused⟩⟩

/-- What pairs that can be read say about the parameters. -/
structure Splits (reads : Bool) (pairs : List (String × String)) (parameters : Parameters) :
    Prop where
  filters : parameters.filters = pairs.filter fun pair => pair.1 ∉ reserved reads
  select : parameters.select =
    ((valuesOf "select" pairs).filter fun value => !Text.isAllBlank value).getLast?.getD "*"
  order : Option.Rel OrderOf (lastOf reads "order" pairs) parameters.order
  limit : Option.Rel LimitOf (lastOf reads "limit" pairs) parameters.limit

theorem splits_none (reads : Bool) : Splits reads [] none := by
  have nothing : ∀ key, lastOf reads key [] = Option.none := by
    intro key
    simp [lastOf, valuesOf]
  refine ⟨rfl, rfl, ?_, ?_⟩
  · rw [nothing]
    exact .none
  · rw [nothing]
    exact .none

/-- What pairs say after one more pair that can be read. -/
theorem Splits.snoc {pairs : List (String × String)} (splits : Splits reads pairs parameters)
    (added : add reads parameters pair = .ok next) : Splits reads (pairs ++ [pair]) next := by
  rcases splits with ⟨filters, select, order, limit⟩
  cases Kind.of reads pair with
  | select value =>
      rw [add_select] at added
      cases added
      cases blank : Text.isAllBlank value <;> constructor <;>
        simp [valuesOf_snoc, lastOf_snoc_of_ne, *]
  | table value =>
      rw [add_table] at added
      cases added
      constructor <;> simp [valuesOf_snoc_of_ne, lastOf_snoc_of_ne, *]
  | order value =>
      rw [add_order] at added
      rcases Fallible.map_eq_ok.mp added with ⟨key, read, rfl⟩
      have said := readOrder_eq_ok_iff.mp read
      have named : "order" ∈ reserved true := by decide
      constructor <;> simp [valuesOf_snoc_of_ne, lastOf_snoc, lastOf_snoc_of_ne, *]
  | limit value =>
      rw [add_limit] at added
      rcases Fallible.map_eq_ok.mp added with ⟨most, read, rfl⟩
      have said := readLimit_eq_ok_iff.mp read
      have named : "limit" ∈ reserved true := by decide
      constructor <;> simp [valuesOf_snoc_of_ne, lastOf_snoc, lastOf_snoc_of_ne, *]
  | free free =>
      rw [add_of_free free] at added
      cases added
      have notSelect : pair.1 ≠ "select" := fun same => free (same ▸ select_mem_reserved reads)
      constructor <;> simp [valuesOf_snoc_of_ne, lastOf_snoc_of_free, *]

theorem splits_of_foldlM {pairs : List (String × String)}
    (read : pairs.foldlM (add reads) none = .ok parameters) : Splits reads pairs parameters := by
  induction pairs using List.reverseRecOn generalizing parameters with
  | nil =>
      cases read
      exact splits_none reads
  | append_singleton pairs pair inductionHypothesis =>
      rw [List.foldlM_append] at read
      rcases Fallible.bind_eq_ok.mp read with ⟨before, here, read⟩
      rcases Fallible.bind_eq_ok.mp read with ⟨after, added, same⟩
      cases same
      exact (inductionHypothesis here).snoc added

/-! ## Whole requests -/

theorem read_eq_error_iff {method : String} {pairs : List (String × String)} :
    read method pairs = .error failure ↔ method = "GET" ∧ FirstRefused pairs failure := by
  rw [read, foldlM_add_eq_error_iff, beq_iff_eq]

theorem splits_of_read {method : String} {pairs : List (String × String)}
    (done : read method pairs = .ok parameters) : Splits (method == "GET") pairs parameters :=
  splits_of_foldlM done

theorem refused_order_iff {value : String} :
    Refused ("order", value) failure ↔ OrderRefused value failure := by
  constructor
  · intro refused
    generalize same : ("order", value) = pair at refused
    cases refused with
    | order refused =>
        cases same
        exact refused
    | limit malformed => exact absurd (congrArg Prod.fst same) (by decide : "order" ≠ "limit")
  · exact .order

theorem exists_refused_order_iff {value : String} :
    (∃ failure, Refused ("order", value) failure) ↔ ∀ order, ¬ OrderOf value order := by
  simp only [refused_order_iff, ← readOrder_eq_error_iff, ← readOrder_eq_ok_iff]
  cases readOrder value with
  | ok order => simp
  | error failure => simp

end Parameters

/-! ## The main statement -/

open Parameters in
/-- The pairs of a request cannot be read if and only if it is a read and one of them is
an order or a limit that is not well-formed; the error is that of the first of these.
Otherwise each parameter is what the pairs say.  An order is read if and only if it is
well-formed, and then as what it says. -/
theorem query_string_splits_exactly (method : String) (pairs : List (String × String)) :
    ((∃ failure, read method pairs = .error failure) ↔
      method = "GET" ∧ ∃ pair ∈ pairs, ∃ failure, Refused pair failure) ∧
    (∀ failure, read method pairs = .error failure → FirstRefused pairs failure) ∧
    (∀ parameters, read method pairs = .ok parameters →
      Splits (method == "GET") pairs parameters) ∧
    ∀ value,
      ((∃ failure, Refused ("order", value) failure) ↔ ∀ order, ¬ OrderOf value order) ∧
        ∀ order, readOrder value = .ok order ↔ OrderOf value order := by
  refine ⟨?_, fun failure failed => (read_eq_error_iff.mp failed).2,
    fun parameters done => splits_of_read done,
    fun value => ⟨exists_refused_order_iff, fun order => readOrder_eq_ok_iff⟩⟩
  rw [← exists_firstRefused_iff]
  simp only [read_eq_error_iff, exists_and_left]

/-- The last order counts, in letters of either case, and a name may hold dots. -/
example :
    Parameters.read "GET" [("order", "rank"), ("a", "eq.1"), ("order", " a.b .DeSC"), ("a", "2")] =
      .ok ⟨"*", [("a", "eq.1"), ("a", "2")], some ⟨"a.b", false⟩, none⟩ := by
  decide +kernel

end Http
end RowGate
