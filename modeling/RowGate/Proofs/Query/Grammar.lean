import Mathlib.Data.List.Infix
import Mathlib.Data.List.TakeWhile
import RowGate.Query.Filter

namespace RowGate

/-!
# The grammar of filters

A text divides into an operator and an operand where a word and a dot open it.
No word holds a dot, so a text divides in one way at most, and the reader, which
takes word characters as long as it can, stops at the dot of that division: what
it finds is the division, and where it finds none there is none.

The token of each operator is a word, so an operand behind it is read as it is,
whatever dots, line breaks or further tokens it begins with.

A token is read by stripping what marks a negation, and no comparison has a word that
begins with the mark.  So reading a token undoes writing it, and nothing else is read.
-/

namespace Filter

/-! ## Divisions of a text -/

/-- The text is a word, a dot and the operand.  The dot is the first of the text,
as none stands in a word. -/
structure Divides (text word operand : String) : Prop where
  parts : text = word ++ "." ++ operand
  filled : word ≠ ""
  worded : ∀ c ∈ word.toList, Text.isWord c = true

/-- The reader takes the word and stops at the dot behind it. -/
theorem split?_append {word : List Char} (operand : List Char) (filled : word ≠ [])
    (worded : ∀ c ∈ word, Text.isWord c = true) :
    split? (word ++ '.' :: operand) = some (word, operand) := by
  have taken : (word ++ '.' :: operand).takeWhile Text.isWord = word := by
    rw [List.takeWhile_append_of_pos worded, List.takeWhile_cons, Text.isWord_dot,
      if_neg Bool.false_ne_true, List.append_nil]
  have left : (word ++ '.' :: operand).dropWhile Text.isWord = '.' :: operand := by
    rw [List.dropWhile_append_of_pos worded, List.dropWhile_cons, Text.isWord_dot,
      if_neg Bool.false_ne_true]
  cases word with
  | nil => exact absurd rfl filled
  | cons c rest =>
      rw [split?, taken, left]
      rfl

theorem eq_append_of_split? {cs word operand : List Char}
    (found : split? cs = some (word, operand)) :
    cs = word ++ '.' :: operand ∧ word ≠ [] ∧ ∀ c ∈ word, Text.isWord c = true := by
  unfold split? at found
  split at found
  · next c rest behind taken left =>
    cases found
    refine ⟨?_, List.cons_ne_nil c rest, ?_⟩
    · rw [← taken, ← left, List.takeWhile_append_dropWhile]
    · intro letter member
      rw [← taken] at member
      exact List.mem_takeWhile_imp member
  · cases found

theorem split?_eq_some_iff {text word operand : String} :
    split? text.toList = some (word.toList, operand.toList) ↔ Divides text word operand := by
  have joined : (word ++ "." ++ operand).toList = word.toList ++ '.' :: operand.toList := by
    rw [String.toList_append, String.toList_append, List.append_assoc]
    rfl
  constructor
  · intro found
    rcases eq_append_of_split? found with ⟨parts, filled, worded⟩
    refine ⟨?_, fun empty => filled (by rw [empty]; rfl), worded⟩
    rw [← String.toList_inj, parts, joined]
  · rintro ⟨rfl, filled, worded⟩
    rw [joined]
    exact split?_append operand.toList (fun empty => filled (String.toList_eq_nil_iff.mp empty))
      worded

theorem split?_eq_none_iff {text : String} :
    split? text.toList = none ↔ ∀ word operand, ¬ Divides text word operand := by
  constructor
  · intro whole word operand divides
    cases whole.symm.trans (split?_eq_some_iff.mpr divides)
  · intro whole
    cases found : split? text.toList with
    | none => rfl
    | some parts =>
        refine absurd (split?_eq_some_iff.mp ?_) (whole (.ofList parts.1) (.ofList parts.2))
        rw [found, String.toList_ofList, String.toList_ofList]

/-! ## Values of filters -/

/-- What the value of a filter says: the parts of a text that divides, or that
any other value is what to equal. -/
inductive Says : Json → String → Json → Prop where
  | parts {text word operand : String} (divides : Divides text word operand) :
      Says (.string text) word (.string operand)
  | text {text : String} (whole : ∀ word operand, ¬ Divides text word operand) :
      Says (.string text) "eq" (.string text)
  | value {value : Json} (textless : ∀ text, value ≠ .string text) : Says value "eq" value

theorem Says.read_eq {value operand : Json} {word : String} (said : Says value word operand) :
    read value = (word, operand) := by
  cases said with
  | parts divides =>
      simp only [read, split?_eq_some_iff.mpr divides, String.ofList_toList]
  | text whole =>
      simp only [read, split?_eq_none_iff.mpr whole]
      rfl
  | value textless =>
      cases value with
      | string text => exact absurd rfl (textless text)
      | null | bool _ | number _ | array _ | object _ => rfl

theorem Says.of_read (value : Json) : Says value (read value).1 (read value).2 := by
  cases value with
  | string text =>
      cases found : split? text.toList with
      | none =>
          simp only [read, found]
          exact .text (split?_eq_none_iff.mp found)
      | some parts =>
          simp only [read, found]
          apply Says.parts
          rw [← split?_eq_some_iff, found, String.toList_ofList, String.toList_ofList]
  | null | bool _ | number _ | array _ | object _ => exact .value nofun

/-- The reader gives what the value says, which is one thing only. -/
theorem read_eq_iff {value operand : Json} {word : String} :
    read value = (word, operand) ↔ Says value word operand := by
  constructor
  · intro found
    have said := Says.of_read value
    rw [found] at said
    exact said
  · exact Says.read_eq

end Filter

/-! ## Operators -/

namespace Comparison

theorem ofWord?_eq_some_iff {word : String} {comparison : Comparison} :
    ofWord? word = some comparison ↔ word = comparison.word := by
  constructor
  · intro read
    unfold ofWord? at read
    split at read <;> cases read <;> rfl
  · rintro rfl
    cases comparison <;> rfl

theorem ofWord?_word (comparison : Comparison) : ofWord? comparison.word = some comparison :=
  ofWord?_eq_some_iff.mpr rfl

/-- The word of a comparison is not taken for that of a negated one. -/
theorem isPrefixOf?_word (comparison : Comparison) :
    "not_".toList.isPrefixOf? comparison.word.toList = none := by
  cases comparison <;> decide

end Comparison

namespace Operator

theorem divides_token (operator : Operator) (operand : String) :
    Filter.Divides (operator.token ++ "." ++ operand) operator.token operand := by
  have filled : operator.token ≠ "" := by
    rcases operator with ⟨comparison, negated⟩
    cases comparison <;> cases negated <;> decide
  have worded : operator.token.toList.all Text.isWord = true := by
    rcases operator with ⟨comparison, negated⟩
    cases comparison <;> cases negated <;> rfl
  exact ⟨rfl, filled, List.all_eq_true.mp worded⟩

theorem ofToken?_token (operator : Operator) : ofToken? operator.token = some operator := by
  rcases operator with ⟨comparison, negated⟩
  cases negated with
  | false =>
      change ofToken? comparison.word = _
      rw [ofToken?, comparison.isPrefixOf?_word]
      exact congrArg (Option.map _) comparison.ofWord?_word
  | true =>
      have stripped : "not_".toList.isPrefixOf? ("not_" ++ comparison.word).toList =
          some comparison.word.toList := by
        rw [List.isPrefixOf?_eq_some_iff_append_eq, String.toList_append]
      change ofToken? ("not_" ++ comparison.word) = _
      rw [ofToken?, stripped]
      dsimp only
      rw [String.ofList_toList, comparison.ofWord?_word, Option.map_some]

theorem token_of_ofToken? {token : String} {operator : Operator}
    (read : ofToken? token = some operator) : operator.token = token := by
  unfold ofToken? at read
  split at read
  · next word stripped =>
    rcases Option.map_eq_some_iff.mp read with ⟨comparison, known, rfl⟩
    have spelled : word = comparison.word.toList := by
      rw [← Comparison.ofWord?_eq_some_iff.mp known, String.toList_ofList]
    change "not_" ++ comparison.word = token
    rw [← String.toList_inj, String.toList_append, ← spelled]
    exact List.append_eq_of_isPrefixOf?_eq_some stripped
  · rcases Option.map_eq_some_iff.mp read with ⟨comparison, known, rfl⟩
    exact (Comparison.ofWord?_eq_some_iff.mp known).symm

theorem ofToken?_eq_some_iff {token : String} {operator : Operator} :
    ofToken? token = some operator ↔ token = operator.token := by
  constructor
  · intro read
    exact (token_of_ofToken? read).symm
  · rintro rfl
    exact ofToken?_token operator

end Operator

theorem Predicate.operator?_equal (column : String) (value : Json) :
    Predicate.operator? ⟨column, Comparison.eq.word, value⟩ = some ⟨.eq, false⟩ :=
  Operator.ofToken?_token ⟨.eq, false⟩

/-- The pair that puts an operator before an operand is read back as both. -/
theorem Predicate.ofPair_token (column operand : String) (operator : Operator) :
    Predicate.ofPair column (operator.token ++ "." ++ operand) =
      ⟨column, operator.token, .string operand⟩ := by
  have read : Filter.read (.string (operator.token ++ "." ++ operand)) =
      (operator.token, .string operand) :=
    Filter.Says.read_eq (.parts (operator.divides_token operand))
  simp only [Predicate.ofPair, Predicate.ofFilter, read]

/-- A double negation is no operator. -/
example : Operator.ofToken? "not_not_eq" = none := by decide

/-! ## The main statement -/

/-- The value of a filter is read as its grammar says, and in no other way: a text
that a word and a dot open as the word and all that stands behind that dot, any
other value as what to equal.  So every recognized operator and every operand is
read back from the pair that puts them together, and an operator is read from its
own token and from no other. -/
theorem filters_read_by_grammar :
    (∀ (value operand : Json) (word : String),
      Filter.read value = (word, operand) ↔ Filter.Says value word operand) ∧
    (∀ (column operand : String) (operator : Operator),
      let predicate := Predicate.ofPair column (operator.token ++ "." ++ operand)
      predicate.column = column ∧ predicate.operator? = some operator ∧
        predicate.value = .string operand) ∧
    ∀ token : String,
      (∀ operator, Operator.ofToken? token = some operator ↔ token = operator.token) ∧
      (Operator.ofToken? token = none ↔ ∀ operator : Operator, token ≠ operator.token) := by
  refine ⟨fun _ _ _ => Filter.read_eq_iff, ?_, ?_⟩
  · intro column operand operator predicate
    have planned : predicate = ⟨column, operator.token, .string operand⟩ :=
      Predicate.ofPair_token column operand operator
    rw [planned]
    exact ⟨rfl, operator.ofToken?_token, rfl⟩
  · intro token
    refine ⟨fun _ => Operator.ofToken?_eq_some_iff, ?_⟩
    rw [Option.eq_none_iff_forall_ne_some]
    exact forall_congr' fun _ => not_congr Operator.ofToken?_eq_some_iff

end RowGate
