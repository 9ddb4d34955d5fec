import RowGate.Proofs.Schema.Decimals
import RowGate.Proofs.Schema.Integers

namespace RowGate

/-!
# Columns that store times

Not only a column of times stores the text of an instant.  A column of texts and a
column of documents store every text as it is, and a column of times stores the
instants of the years 0 to 9999.  All others refuse it.  The text of an instant
ends in the letter for the zone, and this letter is neither in the text of a number
nor in that of a truth value, nor may it end any form of an identifier.
-/

open Time (zone)

/-! ## Texts without the letter -/

namespace Spelling

theorem zone_notMem_digits (ds : List Digit) : zone ∉ Digits.chars ds := by
  intro member
  rcases List.mem_map.mp member with ⟨d, _, same⟩
  have read := Digit.ofChar?_toChar d
  rw [same, show Digit.ofChar? zone = none from by decide] at read
  cases read

theorem zone_mem_of_signed {negative : Bool} {rest cs : List Char}
    (signed : Signed negative rest cs) (member : zone ∈ cs) : zone ∈ rest := by
  cases signed with
  | plain => exact member
  | plus | minus => exact (List.mem_cons.mp member).resolve_left (by decide)

theorem zone_notMem_ofInt {cs : List Char} {i : Int} (spelled : OfInt cs i) : zone ∉ cs := by
  rcases spelled with ⟨_, ds, _, signed, _⟩
  exact fun member => zone_notMem_digits ds (zone_mem_of_signed signed member)

theorem zone_notMem_ofExponent {cs : List Char} {e : Int} (exponent : OfExponent cs e) :
    zone ∉ cs := by
  rcases exponent with ⟨rfl, _⟩ | ⟨letter, rest, rfl | rfl, rfl, spelled⟩
  · exact List.not_mem_nil
  · exact List.not_mem_cons_of_ne_of_not_mem (by decide) (zone_notMem_ofInt spelled)
  · exact List.not_mem_cons_of_ne_of_not_mem (by decide) (zone_notMem_ofInt spelled)

theorem zone_mem_of_pointed {fraction : List Digit} {rest cs : List Char}
    (pointed : Pointed fraction rest cs) (member : zone ∈ cs) : zone ∈ rest := by
  cases pointed with
  | plain => exact member
  | point =>
      have behind := (List.mem_cons.mp member).resolve_left (by decide)
      exact (List.mem_append.mp behind).resolve_left (zone_notMem_digits fraction)

theorem zone_notMem_ofDecimal {cs : List Char} {d : Decimal} (spelled : OfDecimal cs d) :
    zone ∉ cs := by
  rcases spelled with ⟨whole, _, _, _, _, signed, pointed, exponent, _⟩
  intro member
  have unsigned := zone_mem_of_signed signed member
  have behind := (List.mem_append.mp unsigned).resolve_left (zone_notMem_digits whole)
  exact zone_notMem_ofExponent exponent (zone_mem_of_pointed pointed behind)

end Spelling

namespace Text

theorem Hex.readFrom_eq_none {c : Char} {cs : List Char} (letter : value? c = none)
    (member : c ∈ cs) (high : Nat) : readFrom high cs = none := by
  induction cs generalizing high with
  | nil => exact absurd member List.not_mem_nil
  | cons first rest inductionHypothesis =>
      rw [readFrom]
      rcases List.mem_cons.mp member with rfl | later
      · rw [letter, Option.bind_none]
      · exact Option.bind_eq_none_iff.mpr fun value _ => inductionHypothesis later _

end Text

namespace Uuid

variable {cs : List Char}

theorem ofDigits?_eq_none (member : zone ∈ cs) : ofDigits? cs = none := by
  unfold ofDigits?
  split
  · rw [Text.Hex.read, Text.Hex.readFrom_eq_none (by decide) member, Option.map_none]
  · rfl

theorem ofHyphenated?_eq_none (member : zone ∈ cs) : ofHyphenated? cs = none := by
  unfold ofHyphenated?
  dsimp only
  split
  · exact ofDigits?_eq_none (List.mem_filter.mpr ⟨member, by decide⟩)
  · rfl

/-- No form of an identifier ends in the letter: it is no hexadecimal digit, and what
encloses an identifier ends in a brace or stands in front of it. -/
theorem ofChars?_eq_none (ending : cs.getLast? = some zone) : ofChars? cs = none := by
  have member : zone ∈ cs := List.mem_of_getLast? ending
  unfold ofChars?
  split
  · exact ofDigits?_eq_none member
  · split
    · exact ofHyphenated?_eq_none member
    · split
      · rw [if_neg]
        rintro ⟨_, brace⟩
        cases ending.symm.trans brace
      · split
        · next length =>
          split
          · apply ofHyphenated?_eq_none
            apply List.mem_of_getLast?
            rw [List.getLast?_drop, if_neg (by omega), ending]
          · rfl
        · rfl

end Uuid

/-! ## Types that store times -/

namespace Time

theorem getLast?_chars (t : Instant) : t.chars.getLast? = some zone :=
  List.getLast?_concat

theorem zone_mem_chars (t : Instant) : zone ∈ t.chars :=
  List.mem_of_getLast? (getLast?_chars t)

theorem toList_text (t : Instant) : t.text.toList = t.chars :=
  String.toList_ofList

theorem trimmed_text (t : Instant) : Text.trimmed t.text.toList = t.chars := by
  rw [toList_text, trimmed_chars]

end Time

namespace ColumnType

variable (t : Time.Instant)

/-- The type stores the text of an instant. -/
def StoresTime (type : ColumnType) (t : Time.Instant) : Prop :=
  type = .text ∨ type = .json ∨ (type = .timestamp ∧ t.IsPlain)

instance (type : ColumnType) : Decidable (type.StoresTime t) :=
  inferInstanceAs (Decidable (_ ∨ _ ∨ _))

theorem integerOfText?_text : integerOfText? t.text = none := by
  unfold integerOfText?
  rw [Time.trimmed_text]
  refine Option.eq_none_iff_forall_not_mem.mpr fun i read => ?_
  exact Spelling.zone_notMem_ofInt (Spelling.signed?_eq_some_iff.mp read).1 (Time.zone_mem_chars t)

theorem numberOfText?_text : numberOfText? t.text = none := by
  refine Option.eq_none_iff_forall_not_mem.mpr fun n read => ?_
  rcases exists_ofDecimal_of_numberOfText? read with ⟨d, spelled⟩
  rw [Time.trimmed_text] at spelled
  exact Spelling.zone_notMem_ofDecimal spelled (Time.zone_mem_chars t)

theorem boolOfText?_text : boolOfText? t.text = none := by
  have other : ∀ word : String, zone ∉ word.toList → t.text ≠ word := by
    rintro word absent rfl
    rw [Time.toList_text] at absent
    exact absent (Time.zone_mem_chars t)
  unfold boolOfText?
  rw [if_neg (not_or.mpr ⟨other _ (by decide), other _ (by decide)⟩),
    if_neg (not_or.mpr ⟨other _ (by decide), other _ (by decide)⟩)]

theorem read?_trim_text : Uuid.read? (Text.trim t.text) = none := by
  unfold Uuid.read?
  rw [toList_trim, Time.trimmed_text]
  exact Uuid.ofChars?_eq_none (Time.getLast?_chars t)

/-- A type stores the text of an instant as it is or not at all. -/
theorem coerce?_text (type : ColumnType) :
    type.coerce? (.string t.text) =
      if type.StoresTime t then some (.string t.text) else none := by
  cases type with
  | text => rw [if_pos (by simp [StoresTime]), coerce?]
  | json => rw [if_pos (by simp [StoresTime]), coerce?_json]
  | integer => rw [if_neg (by simp [StoresTime]), coerce?, integerOfText?_text, Option.map_none]
  | numeric => rw [if_neg (by simp [StoresTime]), coerce?, numberOfText?_text, Option.map_none]
  | boolean => rw [if_neg (by simp [StoresTime]), coerce?, boolOfText?_text, Option.map_none]
  | uuid => rw [if_neg (by simp [StoresTime]), coerce?, read?_trim_text, Option.map_none]
  | timestamp => simp [StoresTime, coerce?_timestamp]

end ColumnType
end RowGate
