import RowGate.Proofs.Time.Reading
import RowGate.Uuid

namespace RowGate

/-!
# Texts of identifiers

The text of an identifier is read back as that identifier.  It opens with eight
hexadecimal digits, and in every form of a timestamp a hyphen or a sign stands
among the first five characters, so the text of an identifier is never read as
a time.
-/

/-! ## Hexadecimal digits -/

namespace Text
namespace Hex

theorem mem_digits {c : Char} {count n : Nat} (member : c ∈ digits count n) :
    ∃ m : Fin 16, c = digit m := by
  induction count generalizing n with
  | zero => exact absurd member List.not_mem_nil
  | succ count inductionHypothesis =>
      rcases List.mem_append.mp member with before | last
      · exact inductionHypothesis before
      · exact ⟨⟨n % 16, Nat.mod_lt n (by decide)⟩, List.mem_singleton.mp last⟩

/-- A character that is neither a hyphen nor a plus sign nor blank. -/
def IsInner (c : Char) : Prop :=
  c ≠ '-' ∧ c ≠ '+' ∧ isBlank c = false

theorem isInner_of_mem {c : Char} {count n : Nat} (member : c ∈ digits count n) : IsInner c := by
  have all : ∀ m : Fin 16, digit m ≠ '-' ∧ digit m ≠ '+' ∧ isBlank (digit m) = false := by decide
  rcases mem_digits member with ⟨m, rfl⟩
  exact all m

end Hex
end Text

/-! ## Reading back -/

namespace Uuid

open Text

/-- The groups of digits, put together again. -/
theorem filter_hyphenate {ds : List Char} (inner : ∀ c ∈ ds, c ≠ '-') :
    (hyphenate ds).filter (· ≠ '-') = ds := by
  have kept : ∀ part : List Char, (∀ c ∈ part, c ∈ ds) → part.filter (· ≠ '-') = part := by
    intro part inside
    apply List.filter_eq_self.mpr
    intro c member
    simpa using inner c (inside c member)
  have group : ∀ start size : Nat, ((ds.drop start).take size).filter (· ≠ '-') =
      (ds.drop start).take size := by
    intro start size
    exact kept _ fun c member => List.mem_of_mem_drop (List.mem_of_mem_take member)
  have first : (ds.take 8).filter (· ≠ '-') = ds.take 8 := group 0 8
  have last : (ds.drop 20).filter (· ≠ '-') = ds.drop 20 :=
    kept _ fun c member => List.mem_of_mem_drop member
  simp only [hyphenate, List.filter_append, List.filter_cons, first, last, group]
  simp only [ne_eq, not_true_eq_false, decide_false, Bool.false_eq_true, if_false]
  calc
    _ = ds.take 8 ++ ((ds.drop 8).take 4 ++ ((ds.drop 12).take 4 ++
          ((ds.drop 16).take 4 ++ ds.drop 20))) := by simp only [List.append_assoc]
    _ = ds := by
      have glue : ∀ start size : Nat, (ds.drop start).take size ++ ds.drop (start + size) =
          ds.drop start := by
        intro start size
        rw [← List.drop_drop, List.take_append_drop]
      rw [glue 16 4, glue 12 4, glue 8 4, List.take_append_drop]

theorem length_chars (id : Uuid) : id.chars.length = 36 := by
  simp [chars, hyphenate, Hex.length_digits]

theorem toList_text (id : Uuid) : id.text.toList = id.chars :=
  String.toList_ofList

theorem ofDigits?_digits (id : Uuid) : ofDigits? (Hex.digits 32 id.bits.toNat) = some id := by
  have fits : id.bits.toNat < Nat.pow 16 32 := id.bits.isLt
  rw [ofDigits?, if_pos (Hex.length_digits 32 _), Hex.read_digits fits, Option.map_some,
    BitVec.ofNat_toNat, BitVec.setWidth_eq]

theorem read?_text (id : Uuid) : read? id.text = some id := by
  have digits : id.chars.filter (· ≠ '-') = Hex.digits 32 id.bits.toNat :=
    filter_hyphenate fun c member => (Hex.isInner_of_mem member).1
  rw [read?, toList_text, ofChars?, if_neg (by simp [length_chars]), if_pos (length_chars id),
    ofHyphenated?, digits, if_pos (by rfl), ofDigits?_digits]

/-! ## No identifier is a time -/

/-- What stands first in the text. -/
theorem isInner_of_mem_take {id : Uuid} {c : Char} (member : c ∈ id.chars.take 5) :
    Hex.IsInner c := by
  have opens : id.chars.take 5 = ((Hex.digits 32 id.bits.toNat).take 8).take 5 := by
    simp only [chars, hyphenate, List.append_assoc]
    rw [List.take_append_of_le_length (by simp [Hex.length_digits])]
  rw [opens] at member
  exact Hex.isInner_of_mem (List.mem_of_mem_take (List.mem_of_mem_take member))

theorem mem_hyphenate {c : Char} {ds : List Char} (member : c ∈ hyphenate ds) :
    c = '-' ∨ c ∈ ds := by
  simp only [hyphenate, List.mem_append, List.mem_cons] at member
  rcases member with (((group | rfl | group) | rfl | group) | rfl | group) | rfl | group
  · exact .inr (List.mem_of_mem_take group)
  · exact .inl rfl
  · exact .inr (List.mem_of_mem_drop (List.mem_of_mem_take group))
  · exact .inl rfl
  · exact .inr (List.mem_of_mem_drop (List.mem_of_mem_take group))
  · exact .inl rfl
  · exact .inr (List.mem_of_mem_drop (List.mem_of_mem_take group))
  · exact .inl rfl
  · exact .inr (List.mem_of_mem_drop group)

theorem trimmed_chars (id : Uuid) : trimmed id.chars = id.chars := by
  have visible : ∀ c ∈ id.chars, isBlank c = false := by
    intro c member
    rcases mem_hyphenate member with rfl | digit
    · decide
    · exact (Hex.isInner_of_mem digit).2.2
  apply Time.trimmed_eq_self
  · intro c head
    exact visible c (List.mem_of_head? head)
  · intro c ending
    exact visible c (List.mem_of_getLast? ending)

theorem trim_text (id : Uuid) : trim id.text = id.text := by
  rw [trim, toList_text, trimmed_chars, text]

end Uuid

namespace Time

open Text

theorem mem_take_of_digitsUpTo {most : Nat} {cs rest : List Char} {c : Char}
    (behind : (digitsUpTo most cs).2 = c :: rest) : c ∈ cs.take (most + 1) := by
  induction most generalizing cs with
  | zero =>
      have whole : cs = c :: rest := behind
      rw [whole]
      exact List.mem_cons_self
  | succ most inductionHypothesis =>
      cases cs with
      | nil => cases behind
      | cons first others =>
          simp only [digitsUpTo] at behind
          cases read : Digit.ofChar? first with
          | none =>
              rw [read] at behind
              cases behind
              exact List.mem_cons_self
          | some d =>
              rw [read] at behind
              exact List.mem_cons_of_mem _ (inductionHypothesis behind)

section

variable {cs : List Char} (inner : ∀ c ∈ cs.take 5, Hex.IsInner c)

include inner

theorem trimStart_of_isInner : trimStart cs = cs := by
  cases cs with
  | nil => rfl
  | cons first rest =>
      have visible := (inner first List.mem_cons_self).2.2
      rw [trimStart, List.dropWhile_cons_of_neg (by simp [visible])]

/-- No hyphen follows up to four digits. -/
theorem mark_hyphen_eq_none : mark '-' (digitsUpTo 4 cs).2 = none := by
  cases behind : (digitsUpTo 4 cs).2 with
  | nil => rfl
  | cons c rest =>
      have other := (inner c (mem_take_of_digitsUpTo behind)).1
      exact if_neg other

theorem strict?_of_isInner : strict? cs = none := by
  unfold strict?
  cases year : fixed 4 cs with
  | none => rfl
  | some read =>
      simp only [fixed] at year
      split at year
      · cases year
        simp only [Option.bind_eq_bind, Option.bind_some, mark_hyphen_eq_none inner,
          Option.bind_none]
      · cases year

theorem looseYear_of_isInner {year : Int} {rest : List Char}
    (read : looseYear cs = some (year, rest)) : rest = (digitsUpTo 4 cs).2 := by
  have unsigned : ∀ c tail, cs = c :: tail → c ≠ '+' ∧ c ≠ '-' := by
    intro c tail whole
    subst whole
    have first := inner c List.mem_cons_self
    exact ⟨first.2.1, first.1⟩
  unfold looseYear at read
  rw [trimStart_of_isInner inner] at read
  split at read
  · exact absurd rfl (unsigned _ _ rfl).1
  · exact absurd rfl (unsigned _ _ rfl).2
  · rcases Option.map_eq_some_iff.mp read with ⟨⟨n, tail⟩, digits, same⟩
    cases same
    unfold loose at digits
    rw [trimStart_of_isInner inner] at digits
    dsimp only at digits
    split at digits
    · cases digits
    · cases digits
      rfl

theorem looseDate_of_isInner : looseDate cs = none := by
  unfold looseDate
  cases year : looseYear cs with
  | none => rfl
  | some read =>
      rcases read with ⟨year, rest⟩
      have behind := looseYear_of_isInner inner ‹_›
      simp only [Option.bind_eq_bind, Option.bind_some, behind, mark_hyphen_eq_none inner,
        Option.bind_none]

end

/-- The text of an identifier is no time. -/
theorem read?_uuid (id : Uuid) : read? id.text = none := by
  have inner : ∀ c ∈ id.chars.take 5, Hex.IsInner c := fun _ => Uuid.isInner_of_mem_take
  have dates := looseDate_of_isInner inner
  simp only [read?, Uuid.toList_text, Uuid.trimmed_chars, strict?_of_isInner inner, markedForm?,
    blankForm?, dateForm?, dates]
  rfl

end Time
end RowGate
