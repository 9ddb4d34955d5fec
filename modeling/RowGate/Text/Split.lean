namespace RowGate
namespace Text

/-!
# Cutting text at a separator

All cuts are made at single characters and drop the separator.  What the
pieces are is said by the lemmas.  Joined by the separator they give the text
back, and no piece holds it; where the text is cut only once, this is said of
the piece before the first separator, or of the one behind the last.
-/

/-- Cut at the first occurrence of `separator`, if there is one. -/
def cutFirst (separator : Char) : List Char → Option (List Char × List Char)
  | [] => none
  | c :: rest =>
      if c = separator then some ([], rest)
      else (cutFirst separator rest).map fun pieces => (c :: pieces.1, pieces.2)

/-- Cut at the last occurrence of `separator`, if there is one. -/
def cutLast (separator : Char) (cs : List Char) : Option (List Char × List Char) :=
  (cutFirst separator cs.reverse).map fun pieces => (pieces.2.reverse, pieces.1.reverse)

/-- All pieces between the separators: one more than there are separators. -/
def pieces (separator : Char) : List Char → List (List Char)
  | [] => [[]]
  | c :: rest =>
      if c = separator then [] :: pieces separator rest
      else
        match pieces separator rest with
        | [] => [[c]]
        | first :: others => (c :: first) :: others

/-- Texts with a separator between them. -/
def joined (separator : List Char) : List (List Char) → List Char
  | [] => []
  | [text] => text
  | text :: rest => text ++ separator ++ joined separator rest

/-! ## One cut -/

theorem cutFirst_eq_some {separator : Char} {cs before after : List Char}
    (cut : cutFirst separator cs = some (before, after)) :
    cs = before ++ separator :: after ∧ separator ∉ before := by
  induction cs generalizing before with
  | nil => simp [cutFirst] at cut
  | cons c rest inductionHypothesis =>
      by_cases here : c = separator
      · simp only [cutFirst, here, if_true, Option.some.injEq, Prod.mk.injEq] at cut
        rcases cut with ⟨rfl, rfl⟩
        simp [here]
      · simp only [cutFirst, here, if_false, Option.map_eq_some_iff] at cut
        rcases cut with ⟨⟨first, second⟩, found, equal⟩
        simp only [Prod.mk.injEq] at equal
        rcases equal with ⟨rfl, rfl⟩
        rcases inductionHypothesis found with ⟨rfl, absent⟩
        refine ⟨rfl, ?_⟩
        simp only [List.mem_cons, not_or]
        exact ⟨fun same => here same.symm, absent⟩

theorem cutFirst_append {separator : Char} {before : List Char} (after : List Char)
    (absent : separator ∉ before) :
    cutFirst separator (before ++ separator :: after) = some (before, after) := by
  induction before with
  | nil => simp [cutFirst]
  | cons c rest inductionHypothesis =>
      simp only [List.mem_cons, not_or] at absent
      have different : ¬ c = separator := fun same => absent.1 same.symm
      simp [cutFirst, if_neg different, inductionHypothesis absent.2]

theorem cutFirst_eq_none {separator : Char} {cs : List Char} :
    cutFirst separator cs = none ↔ separator ∉ cs := by
  induction cs with
  | nil => simp [cutFirst]
  | cons c rest inductionHypothesis =>
      by_cases here : c = separator
      · simp [cutFirst, here]
      · have different : ¬ separator = c := fun same => here same.symm
        simp [cutFirst, here, inductionHypothesis, different]

theorem cutLast_eq_some {separator : Char} {cs before after : List Char}
    (cut : cutLast separator cs = some (before, after)) :
    cs = before ++ separator :: after ∧ separator ∉ after := by
  simp only [cutLast, Option.map_eq_some_iff] at cut
  rcases cut with ⟨⟨behind, front⟩, found, equal⟩
  simp only [Prod.mk.injEq] at equal
  rcases equal with ⟨rfl, rfl⟩
  rcases cutFirst_eq_some found with ⟨reversed, absent⟩
  refine ⟨?_, fun member => absent (List.mem_reverse.1 member)⟩
  have turned := congrArg List.reverse reversed
  simpa using turned

theorem cutLast_append {separator : Char} (before : List Char) {after : List Char}
    (absent : separator ∉ after) :
    cutLast separator (before ++ separator :: after) = some (before, after) := by
  have reversed : (before ++ separator :: after).reverse =
      after.reverse ++ separator :: before.reverse := by simp
  have missing : separator ∉ after.reverse := fun member => absent (List.mem_reverse.1 member)
  rw [cutLast, reversed, cutFirst_append _ missing]
  simp

/-! ## All cuts -/

theorem pieces_ne_nil (separator : Char) (cs : List Char) : pieces separator cs ≠ [] := by
  cases cs with
  | nil => exact List.cons_ne_nil _ _
  | cons c rest =>
      simp only [pieces]
      split
      · exact List.cons_ne_nil _ _
      · split <;> exact List.cons_ne_nil _ _

/-- A text without the separator is one piece. -/
theorem pieces_eq_singleton {separator : Char} {cs : List Char} (absent : separator ∉ cs) :
    pieces separator cs = [cs] := by
  induction cs with
  | nil => rfl
  | cons c rest inductionHypothesis =>
      simp only [List.mem_cons, not_or] at absent
      have different : ¬ c = separator := fun same => absent.1 same.symm
      simp only [pieces, if_neg different, inductionHypothesis absent.2]

theorem joined_cons (separator text : List Char) {rest : List (List Char)} (more : rest ≠ []) :
    joined separator (text :: rest) = text ++ separator ++ joined separator rest := by
  cases rest with
  | nil => exact absurd rfl more
  | cons next others => rfl

/-- A character in front of the first text stands in front of the whole. -/
theorem joined_cons_cons (separator : List Char) (c : Char) (first : List Char)
    (others : List (List Char)) :
    joined separator ((c :: first) :: others) = c :: joined separator (first :: others) := by
  cases others with
  | nil => rfl
  | cons next rest => rfl

theorem joined_pieces (separator : Char) (cs : List Char) :
    joined [separator] (pieces separator cs) = cs := by
  induction cs with
  | nil => rfl
  | cons c rest inductionHypothesis =>
      simp only [pieces]
      split
      · next here =>
        rw [joined_cons _ _ (pieces_ne_nil separator rest), inductionHypothesis, here]
        rfl
      · cases found : pieces separator rest with
        | nil => exact absurd found (pieces_ne_nil separator rest)
        | cons first others =>
            rw [found] at inductionHypothesis
            simp only [joined_cons_cons, inductionHypothesis]

theorem not_mem_of_mem_pieces {separator : Char} {cs piece : List Char}
    (member : piece ∈ pieces separator cs) : separator ∉ piece := by
  induction cs generalizing piece with
  | nil =>
      rw [List.mem_singleton.1 member]
      exact List.not_mem_nil
  | cons c rest inductionHypothesis =>
      simp only [pieces] at member
      split at member
      · rcases List.mem_cons.1 member with rfl | later
        · exact List.not_mem_nil
        · exact inductionHypothesis later
      · next different =>
        cases found : pieces separator rest with
        | nil => exact absurd found (pieces_ne_nil separator rest)
        | cons first others =>
            simp only [found] at member
            rcases List.mem_cons.1 member with rfl | later
            · intro inside
              rcases List.mem_cons.1 inside with same | tail
              · exact different same.symm
              · exact inductionHypothesis (found ▸ List.mem_cons_self) tail
            · exact inductionHypothesis (found ▸ List.mem_cons_of_mem _ later)

end Text
end RowGate
