import RowGate.Json.Basic
import RowGate.Proofs.Keyed

namespace RowGate

/-!
# Canonical form

An object in canonical form lists its members in key order, each key once, and
their values are in canonical form.  The canonical form of a row has a cell
under the same columns.
-/

namespace Entries

variable {α β : Type}

theorem arrange_of_sorted {entries : List (String × α)} (sorted : Sorted entries) :
    arrange entries = entries := by
  unfold arrange
  rw [foldl_insert_of_sorted (by simpa using sorted), List.nil_append]

/-- Whether entries are in order is a matter of their keys. -/
theorem sorted_of_keys_eq {first : List (String × α)} {second : List (String × β)}
    (keys : first.map Prod.fst = second.map Prod.fst) (sorted : Sorted second) : Sorted first := by
  have increasing : (second.map Prod.fst).Pairwise (· < ·) := List.pairwise_map.mpr sorted
  rw [← keys] at increasing
  exact List.pairwise_map.mp increasing

end Entries

namespace Json

theorem keys_canonicalMembers (members : List (String × Json)) :
    (canonicalMembers members).map Prod.fst = members.map Prod.fst := by
  induction members with
  | nil => rfl
  | cons member rest inductionHypothesis =>
      rcases member with ⟨key, value⟩
      simp [canonicalMembers, inductionHypothesis]

theorem find?_canonicalMembers (members : List (String × Json)) (key : String) :
    Entries.find? key (canonicalMembers members) = (Entries.find? key members).map canonical := by
  induction members with
  | nil => rfl
  | cons member rest inductionHypothesis =>
      rcases member with ⟨other, value⟩
      simp only [canonicalMembers, Entries.find?]
      split
      · rfl
      · exact inductionHypothesis

/-- An object is in canonical form exactly when its members are in key order and
their values are in canonical form. -/
theorem canonical_object_eq_self_iff {members : List (String × Json)} :
    canonical (.object members) = .object members ↔
      Entries.Sorted members ∧ canonicalMembers members = members := by
  rw [canonical, Json.object.injEq]
  constructor
  · intro same
    have sorted : Entries.Sorted members := same ▸ Entries.sorted_arrange _
    have inOrder := Entries.sorted_of_keys_eq (keys_canonicalMembers members) sorted
    exact ⟨sorted, (Entries.arrange_of_sorted inOrder).symm.trans same⟩
  · rintro ⟨sorted, same⟩
    rw [same, Entries.arrange_of_sorted sorted]

/-- If the keys are in order, bringing an object into canonical form changes its
values only. -/
theorem canonicalMembers_eq {members read : List (String × Json)} (sorted : Entries.Sorted members)
    (keys : read.map Prod.fst = members.map Prod.fst)
    (same : canonical (.object read) = .object members) : canonicalMembers read = members := by
  have inOrder : Entries.Sorted (canonicalMembers read) := by
    apply Entries.sorted_of_keys_eq _ sorted
    rw [keys_canonicalMembers, keys]
  rwa [canonical, Json.object.injEq, Entries.arrange_of_sorted inOrder] at same

/-- The canonical form of an object keeps the key of its first member. -/
theorem key_mem_of_canonical {key : String} {value : Json} {more members : List (String × Json)}
    (same : canonical (.object ((key, value) :: more)) = .object members) :
    key ∈ members.map Prod.fst := by
  rw [canonical, Json.object.injEq] at same
  have kept : (Keyed.ofList (canonicalMembers ((key, value) :: more))).contains key = true := by
    simp [Keyed.contains_ofList, canonicalMembers]
  rw [← Keyed.mem_keys_iff] at kept
  rw [← same]
  exact kept

end Json

namespace Row

/-- A row with its cells in canonical form. -/
def canonical (row : Row) : Row where
  entries := Json.canonicalMembers row.entries
  sorted := Entries.sorted_of_keys_eq (Json.keys_canonicalMembers row.entries) row.sorted

theorem get?_canonical (row : Row) (column : String) :
    row.canonical.get? column = (row.get? column).map Json.canonical :=
  Json.find?_canonicalMembers row.entries column

theorem contains_canonical (row : Row) (column : String) :
    row.canonical.contains column = row.contains column := by
  rw [Keyed.contains, get?_canonical, Option.isSome_map]
  rfl

theorem canonical_toJson (row : Row) : row.toJson.canonical = row.canonical.toJson :=
  congrArg Json.object (Entries.arrange_of_sorted row.canonical.sorted)

theorem ofJson?_toJson (row : Row) : ofJson? row.toJson = some row :=
  congrArg some (Keyed.ofList_entries row)

end Row
end RowGate
