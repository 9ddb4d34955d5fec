namespace RowGate

/-!
# Finite maps listed in key order

Rows, JSON objects and the allow-list are finite maps from text keys.  A map is
the list of its entries with strictly increasing keys, so equal maps are equal
lists and everything that walks a map walks it in key order.  Keys are ordered
by code point, which is also the order of their UTF-8 bytes.
-/

/-! ## Lists of entries -/

namespace Entries

variable {α : Type}

/-- The value of the first entry under a key. -/
def find? (key : String) : List (String × α) → Option α
  | [] => none
  | (other, value) :: rest => if other = key then some value else find? key rest

/-- Put a value under a key: replace the entry, or add one at its place. -/
def insert (key : String) (value : α) : List (String × α) → List (String × α)
  | [] => [(key, value)]
  | (other, old) :: rest =>
      if key < other then (key, value) :: (other, old) :: rest
      else if other = key then (key, value) :: rest
      else (other, old) :: insert key value rest

/-- Remove all entries under a key. -/
def erase (key : String) (entries : List (String × α)) : List (String × α) :=
  entries.filter fun entry => decide (entry.1 ≠ key)

/-- Bring entries into key order; a later entry wins over an earlier one. -/
def arrange (entries : List (String × α)) : List (String × α) :=
  entries.foldl (fun arranged entry => insert entry.1 entry.2 arranged) []

/-- Strictly increasing keys. -/
abbrev Sorted (entries : List (String × α)) : Prop :=
  entries.Pairwise fun first second => first.1 < second.1

theorem mem_insert {key : String} {value : α} {entries : List (String × α)}
    {entry : String × α} (member : entry ∈ insert key value entries) :
    entry = (key, value) ∨ entry ∈ entries := by
  induction entries with
  | nil => simpa [insert] using member
  | cons head rest inductionHypothesis =>
      rcases head with ⟨other, old⟩
      simp only [insert] at member
      split at member
      · simpa using member
      · split at member
        · rcases List.mem_cons.1 member with here | later
          · exact .inl here
          · exact .inr (List.mem_cons_of_mem _ later)
        · rcases List.mem_cons.1 member with here | later
          · exact .inr (here ▸ List.mem_cons_self)
          · exact (inductionHypothesis later).imp id (List.mem_cons_of_mem _)

theorem sorted_insert (key : String) (value : α) {entries : List (String × α)}
    (sorted : Sorted entries) : Sorted (insert key value entries) := by
  induction entries with
  | nil => simp [insert, Sorted]
  | cons head rest inductionHypothesis =>
      rcases head with ⟨other, old⟩
      rcases List.pairwise_cons.1 sorted with ⟨below, tail⟩
      simp only [insert]
      split
      · next less =>
        refine List.pairwise_cons.2 ⟨fun entry member => ?_, sorted⟩
        rcases List.mem_cons.1 member with rfl | later
        · exact less
        · exact String.lt_trans less (below entry later)
      · next notLess =>
        split
        · next same =>
          subst same
          exact List.pairwise_cons.2 ⟨below, tail⟩
        · next different =>
          refine List.pairwise_cons.2 ⟨fun entry member => ?_, inductionHypothesis tail⟩
          rcases mem_insert member with rfl | later
          · rcases Std.lt_trichotomy key other with less | same | greater
            · exact absurd less notLess
            · exact absurd same.symm different
            · exact greater
          · exact below entry later

theorem sorted_erase (key : String) {entries : List (String × α)} (sorted : Sorted entries) :
    Sorted (erase key entries) :=
  sorted.filter _

theorem sorted_foldl_insert (more : List (String × α)) {entries : List (String × α)}
    (sorted : Sorted entries) :
    Sorted (more.foldl (fun arranged entry => insert entry.1 entry.2 arranged) entries) := by
  induction more generalizing entries with
  | nil => exact sorted
  | cons entry rest inductionHypothesis => exact inductionHypothesis (sorted_insert _ _ sorted)

theorem sorted_arrange (entries : List (String × α)) : Sorted (arrange entries) :=
  sorted_foldl_insert entries List.Pairwise.nil

theorem find?_insert (key wanted : String) (value : α) (entries : List (String × α)) :
    find? wanted (insert key value entries) =
      if wanted = key then some value else find? wanted entries := by
  induction entries with
  | nil => simp [insert, find?, eq_comm]
  | cons head rest inductionHypothesis =>
      rcases head with ⟨other, old⟩
      simp only [insert]
      split
      · simp [find?, eq_comm]
      · split
        · next same =>
          subst same
          by_cases here : wanted = other
          · simp [find?, here]
          · have different : ¬ other = wanted := fun equal => here equal.symm
            simp [find?, here, different]
        · next different =>
          simp only [find?]
          by_cases here : other = wanted
          · subst here
            simp [different]
          · simp only [if_neg here, inductionHypothesis]

theorem find?_erase (key wanted : String) (entries : List (String × α)) :
    find? wanted (erase key entries) = if wanted = key then none else find? wanted entries := by
  induction entries with
  | nil => simp [erase, find?]
  | cons head rest inductionHypothesis =>
      rcases head with ⟨other, old⟩
      simp only [erase] at inductionHypothesis
      by_cases removed : other = key
      · subst removed
        simp only [erase, ne_eq, List.filter_cons, decide_not, decide_true, Bool.not_true,
          Bool.false_eq_true, if_false, find?]
        simp only [ne_eq, decide_not] at inductionHypothesis
        rw [inductionHypothesis]
        by_cases here : wanted = other
        · simp [here]
        · have different : ¬ other = wanted := fun equal => here equal.symm
          simp [here, different]
      · simp only [erase, ne_eq, List.filter_cons, removed, decide_not, decide_false,
          Bool.not_false, if_true, find?]
        simp only [ne_eq, decide_not] at inductionHypothesis
        rw [inductionHypothesis]
        by_cases here : other = wanted
        · subst here
          simp [removed]
        · simp [here]

theorem find?_eq_none {key : String} {entries : List (String × α)}
    (absent : ∀ entry ∈ entries, entry.1 ≠ key) : find? key entries = none := by
  induction entries with
  | nil => rfl
  | cons head rest inductionHypothesis =>
      rcases head with ⟨other, value⟩
      have different : other ≠ key := absent (other, value) List.mem_cons_self
      have later : ∀ entry ∈ rest, entry.1 ≠ key := by
        intro entry member
        exact absent entry (List.mem_cons_of_mem _ member)
      simp only [find?, if_neg different, inductionHypothesis later]

/-- A key that lies before all others has no value. -/
theorem find?_of_before {key : String} {entries : List (String × α)}
    (before : ∀ entry ∈ entries, key < entry.1) : find? key entries = none := by
  apply find?_eq_none
  intro entry member same
  exact String.lt_irrefl _ (same ▸ before entry member)

/-- Entries in key order are determined by what is found under each key. -/
theorem eq_of_find?_eq {first second : List (String × α)} (firstSorted : Sorted first)
    (secondSorted : Sorted second) (same : ∀ key, find? key first = find? key second) :
    first = second := by
  induction first generalizing second with
  | nil =>
      cases second with
      | nil => rfl
      | cons head rest =>
          have found := same head.1
          simp [find?] at found
  | cons head rest inductionHypothesis =>
      rcases head with ⟨key, value⟩
      rcases List.pairwise_cons.1 firstSorted with ⟨below, tail⟩
      cases second with
      | nil =>
          have found := same key
          simp [find?] at found
      | cons head' rest' =>
          rcases head' with ⟨key', value'⟩
          rcases List.pairwise_cons.1 secondSorted with ⟨below', tail'⟩
          have keys : key = key' := by
            rcases Std.lt_trichotomy key key' with less | equal | greater
            · have found := same key
              have missing : find? key ((key', value') :: rest') = none := by
                apply find?_of_before
                intro entry member
                rcases List.mem_cons.1 member with rfl | later
                · exact less
                · exact String.lt_trans less (below' entry later)
              rw [missing] at found
              simp [find?] at found
            · exact equal
            · have found := same key'
              have missing : find? key' ((key, value) :: rest) = none := by
                apply find?_of_before
                intro entry member
                rcases List.mem_cons.1 member with rfl | later
                · exact greater
                · exact String.lt_trans greater (below entry later)
              rw [missing] at found
              simp [find?] at found
          subst keys
          have values : value = value' := by
            have found := same key
            simpa [find?] using found
          subst values
          have rests : ∀ wanted, find? wanted rest = find? wanted rest' := by
            intro wanted
            by_cases here : key = wanted
            · subst here
              rw [find?_of_before below, find?_of_before below']
            · have found := same wanted
              simpa only [find?, if_neg here] using found
          rw [inductionHypothesis tail tail' rests]

end Entries

/-! ## Maps -/

/-- A finite map from text keys, listed in key order. -/
structure Keyed (α : Type) where
  entries : List (String × α)
  sorted : Entries.Sorted entries

namespace Keyed

variable {α β : Type}

instance [DecidableEq α] : DecidableEq (Keyed α) := fun first second =>
  if equal : first.entries = second.entries then
    .isTrue (by cases first; cases second; cases equal; rfl)
  else .isFalse fun same => equal (congrArg Keyed.entries same)

/-- The map without entries. -/
def empty : Keyed α :=
  ⟨[], List.Pairwise.nil⟩

instance : Inhabited (Keyed α) := ⟨empty⟩

/-- The value under a key. -/
def get? (map : Keyed α) (key : String) : Option α :=
  Entries.find? key map.entries

/-- Put a value under a key. -/
def insert (map : Keyed α) (key : String) (value : α) : Keyed α :=
  ⟨Entries.insert key value map.entries, Entries.sorted_insert key value map.sorted⟩

/-- Remove a key. -/
def erase (map : Keyed α) (key : String) : Keyed α :=
  ⟨Entries.erase key map.entries, Entries.sorted_erase key map.sorted⟩

/-- The map of a list of entries; a later entry wins over an earlier one. -/
def ofList (entries : List (String × α)) : Keyed α :=
  ⟨Entries.arrange entries, Entries.sorted_arrange entries⟩

/-- Whether a key has a value. -/
def contains (map : Keyed α) (key : String) : Bool :=
  (map.get? key).isSome

/-- The keys, in order. -/
def keys (map : Keyed α) : List String :=
  map.entries.map Prod.fst

/-- Whether there is no entry. -/
def isEmpty (map : Keyed α) : Bool :=
  map.entries.isEmpty

/-- Put every pair of a list into a map, from left to right. -/
def insertAll (map : Keyed α) (entries : List (String × α)) : Keyed α :=
  entries.foldl (fun map entry => map.insert entry.1 entry.2) map

/-- A map is determined by its values. -/
theorem eq_of_get?_eq {first second : Keyed α} (same : ∀ key, first.get? key = second.get? key) :
    first = second := by
  cases first with
  | mk entries sorted =>
      cases second with
      | mk entries' sorted' =>
          have equal : entries = entries' := Entries.eq_of_find?_eq sorted sorted' same
          subst equal
          rfl

theorem get?_empty (key : String) : (empty : Keyed α).get? key = none := rfl

theorem get?_insert (map : Keyed α) (key wanted : String) (value : α) :
    (map.insert key value).get? wanted = if wanted = key then some value else map.get? wanted :=
  Entries.find?_insert key wanted value map.entries

theorem get?_erase (map : Keyed α) (key wanted : String) :
    (map.erase key).get? wanted = if wanted = key then none else map.get? wanted :=
  Entries.find?_erase key wanted map.entries

end Keyed
end RowGate
