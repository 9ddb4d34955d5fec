import RowGate.Proofs.Schema.Decimals
import RowGate.Proofs.Schema.Integers

namespace RowGate

/-!
# Columns that store identifiers

A column of identifiers, of texts or of documents stores the text of an identifier as
it is, and no other column takes it.  The text is no time and no truth value.  It is
no number either: it has four hyphens, while a number has one in front of it at most,
and another one in its exponent.
-/

/-! ## Hyphens in numbers -/

namespace Spelling

theorem count_hyphen_digits (ds : List Digit) : (Digits.chars ds).count '-' = 0 := by
  apply List.count_eq_zero_of_not_mem
  intro member
  rcases List.mem_map.mp member with ⟨d, _, same⟩
  exact (toChar_unsigned d).2 same

theorem count_hyphen_le_of_signed {negative : Bool} {rest cs : List Char}
    (signed : Signed negative rest cs) : cs.count '-' ≤ rest.count '-' + 1 := by
  cases signed with
  | plain => exact Nat.le_succ _
  | plus | minus => simp

theorem count_hyphen_ofInt {cs : List Char} {i : Int} (spelled : OfInt cs i) :
    cs.count '-' ≤ 1 := by
  rcases spelled with ⟨_, ds, _, signed, _⟩
  have bound := count_hyphen_le_of_signed signed
  rwa [count_hyphen_digits] at bound

theorem count_hyphen_ofExponent {cs : List Char} {e : Int} (exponent : OfExponent cs e) :
    cs.count '-' ≤ 1 := by
  rcases exponent with ⟨rfl, _⟩ | ⟨letter, rest, rfl | rfl, rfl, spelled⟩
  · exact Nat.zero_le _
  · simpa using count_hyphen_ofInt spelled
  · simpa using count_hyphen_ofInt spelled

theorem count_hyphen_pointed {fraction : List Digit} {rest cs : List Char}
    (pointed : Pointed fraction rest cs) : cs.count '-' = rest.count '-' := by
  cases pointed with
  | plain => rfl
  | point => simp [count_hyphen_digits]

theorem count_hyphen_ofDecimal {cs : List Char} {d : Decimal} (spelled : OfDecimal cs d) :
    cs.count '-' ≤ 2 := by
  rcases spelled with ⟨whole, fraction, behind, rest, e, signed, pointed, exponent, _⟩
  have bound := count_hyphen_le_of_signed signed
  have last := count_hyphen_ofExponent exponent
  rw [List.count_append, count_hyphen_digits, count_hyphen_pointed pointed] at bound
  omega

end Spelling

namespace Uuid

theorem trimmed_text (id : Uuid) : Text.trimmed id.text.toList = id.chars := by
  rw [toList_text, trimmed_chars]

/-- What is left without the hyphens are the 32 digits. -/
theorem count_hyphen_chars (id : Uuid) : id.chars.count '-' = 4 := by
  have digits : id.chars.filter (· ≠ '-') = Text.Hex.digits 32 id.bits.toNat :=
    filter_hyphenate fun c member => (Text.Hex.isInner_of_mem member).1
  have others : (id.chars.filter fun c => decide (¬ (c == '-') = true)).length = 32 := by
    rw [← Text.Hex.length_digits 32 id.bits.toNat, ← digits]
    simp
  have parts := List.length_eq_countP_add_countP (· == '-') (l := id.chars)
  rw [length_chars, List.countP_eq_length_filter (p := fun c => decide (¬ (c == '-') = true)),
    others] at parts
  rw [List.count]
  omega

end Uuid

/-! ## Types that store identifiers -/

namespace ColumnType

variable (id : Uuid)

/-- The type stores the text of an identifier. -/
def StoresKey (type : ColumnType) : Prop :=
  type = .text ∨ type = .uuid ∨ type = .json

instance (type : ColumnType) : Decidable type.StoresKey :=
  inferInstanceAs (Decidable (_ ∨ _ ∨ _))

theorem integerOfText?_identifier : integerOfText? id.text = none := by
  unfold integerOfText?
  rw [Uuid.trimmed_text]
  refine Option.eq_none_iff_forall_not_mem.mpr fun i read => ?_
  have few := Spelling.count_hyphen_ofInt (Spelling.signed?_eq_some_iff.mp read).1
  rw [Uuid.count_hyphen_chars] at few
  omega

theorem numberOfText?_identifier : numberOfText? id.text = none := by
  refine Option.eq_none_iff_forall_not_mem.mpr fun n read => ?_
  rcases exists_ofDecimal_of_numberOfText? read with ⟨d, spelled⟩
  rw [Uuid.trimmed_text] at spelled
  have few := Spelling.count_hyphen_ofDecimal spelled
  rw [Uuid.count_hyphen_chars] at few
  omega

theorem boolOfText?_identifier : boolOfText? id.text = none := by
  have other : ∀ word : String, word.toList.count '-' = 0 → id.text ≠ word := by
    rintro word unbroken rfl
    rw [Uuid.toList_text, Uuid.count_hyphen_chars] at unbroken
    cases unbroken
  unfold boolOfText?
  rw [if_neg (not_or.mpr ⟨other _ (by decide), other _ (by decide)⟩),
    if_neg (not_or.mpr ⟨other _ (by decide), other _ (by decide)⟩)]

/-- A type stores the text of an identifier as it is or not at all. -/
theorem coerce?_identifier (type : ColumnType) :
    type.coerce? (.string id.text) =
      if type.StoresKey then some (.string id.text) else none := by
  cases type with
  | text => rw [if_pos (by simp [StoresKey]), coerce?]
  | uuid => rw [if_pos (by simp [StoresKey]), coerce?_uuid]
  | json => rw [if_pos (by simp [StoresKey]), coerce?_json]
  | integer =>
      rw [if_neg (by simp [StoresKey]), coerce?, integerOfText?_identifier, Option.map_none]
  | numeric =>
      rw [if_neg (by simp [StoresKey]), coerce?, numberOfText?_identifier, Option.map_none]
  | boolean =>
      rw [if_neg (by simp [StoresKey]), coerce?, boolOfText?_identifier, Option.map_none]
  | timestamp =>
      rw [if_neg (by simp [StoresKey]), coerce?, Time.read?_uuid, Option.map_none]

end ColumnType
end RowGate
