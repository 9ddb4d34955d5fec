import Mathlib.Data.List.Induction
import RowGate.Keyed

namespace RowGate

/-!
# Keys of finite maps

Which keys a map has, that it has each of them once, and that the order in which
distinct keys are listed does not matter.
-/

namespace Entries

variable {α β : Type}

theorem find?_isSome_iff {key : String} {entries : List (String × α)} :
    (find? key entries).isSome = true ↔ key ∈ entries.map Prod.fst := by
  induction entries with
  | nil => simp [find?]
  | cons head rest inductionHypothesis =>
      rcases head with ⟨other, value⟩
      by_cases here : other = key
      · simp [find?, here]
      · have different : ¬ key = other := fun same => here same.symm
        simp only [find?, if_neg here, inductionHypothesis, List.map_cons, List.mem_cons,
          different, false_or]

theorem mem_of_find? {key : String} {value : α} {entries : List (String × α)}
    (found : find? key entries = some value) : (key, value) ∈ entries := by
  induction entries with
  | nil => simp [find?] at found
  | cons head rest inductionHypothesis =>
      rcases head with ⟨other, old⟩
      simp only [find?] at found
      split at found
      · next same =>
        cases found
        rw [same]
        exact List.mem_cons_self
      · exact List.mem_cons_of_mem _ (inductionHypothesis found)

/-- Where no key occurs twice, every entry is found under its key. -/
theorem find?_eq_some_iff_mem {key : String} {value : α} {entries : List (String × α)}
    (distinct : (entries.map Prod.fst).Nodup) :
    find? key entries = some value ↔ (key, value) ∈ entries := by
  refine ⟨mem_of_find?, fun member => ?_⟩
  induction entries with
  | nil => exact absurd member List.not_mem_nil
  | cons head rest inductionHypothesis =>
      rcases head with ⟨other, old⟩
      rcases List.nodup_cons.mp distinct with ⟨apart, others⟩
      rw [find?]
      rcases List.mem_cons.mp member with here | later
      · cases here
        exact if_pos rfl
      · -- A second entry of the key would have the key of the first one.
        have different : other ≠ key := by
          rintro rfl
          exact apart (List.mem_map.mpr ⟨_, later, rfl⟩)
        rw [if_neg different, inductionHypothesis others later]

theorem nodup_of_sorted {entries : List (String × α)} (sorted : Sorted entries) :
    (entries.map Prod.fst).Nodup := by
  have increasing : (entries.map Prod.fst).Pairwise (· < ·) := List.pairwise_map.mpr sorted
  refine increasing.imp ?_
  intro first second less same
  exact String.lt_irrefl _ (same ▸ less)

/-- The order of entries with distinct keys does not matter. -/
theorem find?_perm {first second : List (String × α)} (perm : first.Perm second)
    (distinct : (first.map Prod.fst).Nodup) (key : String) :
    find? key first = find? key second := by
  have distinct' := (perm.map Prod.fst).nodup_iff.mp distinct
  apply Option.ext
  intro value
  rw [find?_eq_some_iff_mem distinct, find?_eq_some_iff_mem distinct', perm.mem_iff]

theorem find?_mapValues (f : α → β) (entries : List (String × α)) (key : String) :
    find? key (entries.map fun entry => (entry.1, f entry.2)) = (find? key entries).map f := by
  induction entries with
  | nil => rfl
  | cons head rest inductionHypothesis =>
      rw [List.map_cons, find?, find?, inductionHypothesis]
      split <;> rfl

theorem mem_foldl_insert {entry : String × α} {more entries : List (String × α)}
    (member : entry ∈ more.foldl (fun arranged entry => insert entry.1 entry.2 arranged) entries) :
    entry ∈ more ∨ entry ∈ entries := by
  induction more generalizing entries with
  | nil => exact .inr member
  | cons first rest inductionHypothesis =>
      rcases inductionHypothesis member with later | before
      · exact .inl (List.mem_cons_of_mem _ later)
      · rcases mem_insert before with here | old
        · exact .inl (here ▸ List.mem_cons_self)
        · exact .inr old

/-- A key behind all others is put at the end. -/
theorem insert_of_behind {key : String} {value : α} {entries : List (String × α)}
    (behind : ∀ entry ∈ entries, entry.1 < key) :
    insert key value entries = entries ++ [(key, value)] := by
  induction entries with
  | nil => rfl
  | cons head rest inductionHypothesis =>
      rcases head with ⟨other, old⟩
      rcases List.forall_mem_cons.mp behind with ⟨here, later⟩
      have notLess : ¬ key < other := fun less => String.lt_irrefl _ (String.lt_trans here less)
      have different : other ≠ key := fun same => String.lt_irrefl _ (same ▸ here)
      simp only [insert, if_neg notLess, if_neg different, inductionHypothesis later,
        List.cons_append]

/-- Entries that are in order stay as they are. -/
theorem foldl_insert_of_sorted {more entries : List (String × α)}
    (sorted : Sorted (entries ++ more)) :
    more.foldl (fun arranged entry => insert entry.1 entry.2 arranged) entries =
      entries ++ more := by
  induction more generalizing entries with
  | nil => simp
  | cons first rest inductionHypothesis =>
      rcases List.pairwise_append.mp sorted with ⟨_, _, across⟩
      have behind : ∀ entry ∈ entries, entry.1 < first.1 := by
        intro entry member
        exact across entry member first List.mem_cons_self
      rw [List.foldl_cons, insert_of_behind behind, inductionHypothesis]
      · simp
      · simpa using sorted

end Entries

namespace Keyed

variable {α : Type}

theorem contains_eq_false_iff {map : Keyed α} {key : String} :
    map.contains key = false ↔ map.get? key = none := by
  rw [contains, Option.isSome_eq_false_iff, Option.isNone_iff_eq_none]

/-- The entries of a map are what is found in it. -/
theorem mem_entries_iff {map : Keyed α} {key : String} {value : α} :
    (key, value) ∈ map.entries ↔ map.get? key = some value :=
  (Entries.find?_eq_some_iff_mem (Entries.nodup_of_sorted map.sorted)).symm

theorem mem_keys_iff {map : Keyed α} {key : String} :
    key ∈ map.keys ↔ map.contains key = true :=
  Entries.find?_isSome_iff.symm

theorem nodup_keys (map : Keyed α) : map.keys.Nodup :=
  Entries.nodup_of_sorted map.sorted

theorem contains_insert (map : Keyed α) (key wanted : String) (value : α) :
    (map.insert key value).contains wanted = (decide (wanted = key) || map.contains wanted) := by
  unfold contains
  rw [get?_insert]
  by_cases here : wanted = key <;> simp [here]

theorem contains_erase (map : Keyed α) (key wanted : String) :
    (map.erase key).contains wanted = (decide (wanted ≠ key) && map.contains wanted) := by
  unfold contains
  rw [get?_erase]
  by_cases here : wanted = key <;> simp [here]

/-- A pair that is put into a map hides what the map had under its key. -/
theorem erase_of_not_contains {map : Keyed α} {key : String} (missing : map.contains key = false) :
    map.erase key = map := by
  apply eq_of_get?_eq
  intro wanted
  rw [get?_erase]
  split
  · next same => rw [same, contains_eq_false_iff.mp missing]
  · rfl

theorem get?_insertAll (map : Keyed α) (entries : List (String × α)) (key : String) :
    (map.insertAll entries).get? key =
      ((empty.insertAll entries).get? key).or (map.get? key) := by
  induction entries generalizing map with
  | nil => simp [insertAll, get?_empty]
  | cons entry rest inductionHypothesis =>
      have onMap := inductionHypothesis (map.insert entry.1 entry.2)
      have onEmpty := inductionHypothesis (empty.insert entry.1 entry.2)
      simp only [insertAll, List.foldl_cons] at onMap onEmpty ⊢
      rw [onMap, onEmpty, get?_insert, get?_insert, get?_empty, Option.or_assoc]
      split <;> simp

theorem contains_insertAll (map : Keyed α) (entries : List (String × α)) (key : String) :
    (map.insertAll entries).contains key =
      (map.contains key || entries.any fun entry => entry.1 == key) := by
  induction entries generalizing map with
  | nil => simp [insertAll]
  | cons entry rest inductionHypothesis =>
      have behind := inductionHypothesis (map.insert entry.1 entry.2)
      simp only [insertAll, List.foldl_cons] at behind ⊢
      rw [behind, contains_insert, List.any_cons, Bool.or_comm (decide _), Bool.or_assoc]
      simp [beq_eq_decide, eq_comm]

/-- What a map of a list has under a key stands in the list. -/
theorem mem_of_get?_ofList {entries : List (String × α)} {key : String} {value : α}
    (found : (ofList entries).get? key = some value) : (key, value) ∈ entries := by
  rcases Entries.mem_foldl_insert (Entries.mem_of_find? found) with member | none
  · exact member
  · exact absurd none List.not_mem_nil

theorem ofList_concat (entries : List (String × α)) (entry : String × α) :
    ofList (entries ++ [entry]) = (ofList entries).insert entry.1 entry.2 := by
  simp only [ofList, Entries.arrange, insert, List.foldl_append, List.foldl_cons, List.foldl_nil]

/-- A map of a list has the last value of the list under each key. -/
theorem get?_ofList (entries : List (String × α)) (key : String) :
    (ofList entries).get? key = Entries.find? key entries.reverse := by
  induction entries using List.reverseRecOn with
  | nil => rfl
  | append_singleton entries entry inductionHypothesis =>
      rw [ofList_concat, get?_insert, inductionHypothesis, List.reverse_append,
        List.reverse_singleton, List.singleton_append, Entries.find?]
      simp only [eq_comm]

theorem get?_ofList_of_nodup {entries : List (String × α)}
    (distinct : (entries.map Prod.fst).Nodup) (key : String) :
    (ofList entries).get? key = Entries.find? key entries := by
  rw [get?_ofList]
  exact (Entries.find?_perm (List.reverse_perm entries).symm distinct key).symm

theorem ofList_perm {first second : List (String × α)} (perm : first.Perm second)
    (distinct : (first.map Prod.fst).Nodup) : ofList first = ofList second := by
  have distinct' := (perm.map Prod.fst).nodup_iff.mp distinct
  apply eq_of_get?_eq
  intro key
  rw [get?_ofList_of_nodup distinct, get?_ofList_of_nodup distinct',
    Entries.find?_perm perm distinct]

theorem contains_ofList (entries : List (String × α)) (key : String) :
    (ofList entries).contains key = entries.any fun entry => entry.1 == key := by
  induction entries using List.reverseRecOn with
  | nil => rfl
  | append_singleton entries entry inductionHypothesis =>
      rw [ofList_concat, contains_insert, inductionHypothesis, List.any_append, Bool.or_comm]
      simp [beq_eq_decide, eq_comm]

theorem ofList_entries (map : Keyed α) : ofList map.entries = map := by
  have arranged : Entries.arrange map.entries = map.entries := by
    unfold Entries.arrange
    rw [Entries.foldl_insert_of_sorted (by simpa using map.sorted), List.nil_append]
  apply eq_of_get?_eq
  intro key
  change Entries.find? key (Entries.arrange map.entries) = _
  rw [arranged]
  rfl

theorem exists_contains_of_not_isEmpty {map : Keyed α} (filled : map.isEmpty = false) :
    ∃ key, map.contains key = true := by
  cases entries : map.entries with
  | nil => simp [isEmpty, entries] at filled
  | cons head rest =>
      refine ⟨head.1, mem_keys_iff.mp ?_⟩
      simp [keys, entries]

end Keyed
end RowGate
