import Mathlib.Data.List.Forall2
import RowGate.Sql.Text

namespace RowGate
namespace Sql

/-!
# Reading clauses back

Each clause of a statement has a reader that gets it back from its SQL text,
whatever stands behind the clause in a statement.  Names are the hard part: they
may hold quotes, blanks and keywords, and end at the first quote that is not
doubled.  The values of placeholders are looked up by their numbers.
-/

variable {α : Type}

/-- A reader gives what it has read from the front of a text, and the rest. -/
abbrev Reader (α : Type) := List Char → Option (α × List Char)

/-- Nothing follows, or a character that neither continues a number nor makes a
closing quote a doubled one. -/
def Closes (rest : List Char) : Prop :=
  ∀ c ∈ rest.head?, c = ' ' ∨ c = ',' ∨ c = ')'

/-- The reader gets `value` from `text`, whatever closes it. -/
def Reads (read : Reader α) (text : List Char) (value : α) : Prop :=
  ∀ rest, Closes rest → read (text ++ rest) = some (value, rest)

theorem closes_nil : Closes [] := by
  simp [Closes]

theorem closes_cons {c : Char} {rest : List Char} :
    Closes (c :: rest) ↔ c = ' ' ∨ c = ',' ∨ c = ')' := by
  simp [Closes]

theorem closes_blank (rest : List Char) : Closes (' ' :: rest) :=
  closes_cons.mpr (.inl rfl)

theorem closes_comma (rest : List Char) : Closes (comma ++ rest) :=
  closes_cons.mpr (.inr (.inl rfl))

theorem closes_bracket (rest : List Char) : Closes (')' :: rest) :=
  closes_cons.mpr (.inr (.inr rfl))

theorem dropPrefix?_append (text rest : List Char) :
    (text ++ rest).dropPrefix? text = some rest :=
  List.dropPrefix?_append_of_beq rest (beq_self_eq_true text)

theorem dropPrefix?_cons (c : Char) (rest : List Char) :
    (c :: rest).dropPrefix? [c] = some rest :=
  dropPrefix?_append [c] rest

/-! ## Names and numbers -/

/-- The characters up to the quote that closes a name, doubled quotes as one. -/
def readDoubled : Reader (List Char)
  | [] => none
  | c :: rest =>
      if c = '"' then
        match rest with
        | '"' :: more => (readDoubled more).map fun found => ('"' :: found.1, found.2)
        | _ => some ([], rest)
      else (readDoubled rest).map fun found => (c :: found.1, found.2)

/-- A name in quotes. -/
def readName : Reader String := fun cs => do
  let cs ← cs.dropPrefix? ['"']
  let (name, cs) ← readDoubled cs
  some (String.ofList name, cs)

/-- A run of digits, as long as it goes on. -/
def readNumber : Reader Nat := fun cs =>
  let found := Digits.span cs
  if found.1 = [] then none else some (Digits.value found.1, found.2)

theorem readDoubled_doubled (name : List Char) {rest : List Char} (closes : Closes rest) :
    readDoubled (doubled name ++ '"' :: rest) = some (name, rest) := by
  induction name with
  | nil =>
      -- The quote behind the name is a closing one, as no quote follows it.
      cases rest with
      | nil => rfl
      | cons c tail =>
          rcases closes_cons.mp closes with rfl | rfl | rfl <;> rfl
  | cons c more inductionHypothesis =>
      by_cases quote : c = '"'
      · subst quote
        simp [doubled, readDoubled, inductionHypothesis]
      · simp only [doubled, if_neg quote, List.cons_append]
        unfold readDoubled
        simp [quote, inductionHypothesis]

theorem reads_quoted (name : String) : Reads readName (quoted name) name := by
  intro rest closes
  simp [readName, quoted, dropPrefix?_cons, readDoubled_doubled name.toList closes]

theorem readNumber_append (n : Nat) {rest : List Char}
    (ends : ∀ c tail, rest = c :: tail → Digit.ofChar? c = none) :
    readNumber (number n ++ rest) = some (n, rest) := by
  have split : Digits.span (number n ++ rest) = (Digits.ofNat n, rest) :=
    Digits.span_append (Digits.ofNat n) ends
  simp [readNumber, split, Digits.ofNat_ne_nil, Digits.value_ofNat]

theorem reads_number (n : Nat) : Reads readNumber (number n) n := by
  intro rest closes
  apply readNumber_append
  rintro c tail rfl
  rcases closes_cons.mp closes with rfl | rfl | rfl <;> rfl

theorem reads_names (names : List String) :
    List.Forall₂ (Reads readName) (names.map quoted) names := by
  induction names with
  | nil => exact .nil
  | cons name more inductionHypothesis => exact .cons (reads_quoted name) inductionHypothesis

theorem quote_names (names : List String) :
    ∀ text ∈ names.map quoted, text.head? = some '"' := by
  intro text member
  rcases List.mem_map.mp member with ⟨name, _, rfl⟩
  rfl

/-! ## Placeholders

The value of a placeholder is looked up by its number.  A cast is expected
where the value has a type that is cast.
-/

/-- The value with a number; numbers start at one. -/
def numbered? (params : List Param) : Nat → Option Param
  | 0 => none
  | index + 1 => params[index]?

/-- A placeholder, as the value that it stands for. -/
def readPlaceholder (params : List Param) : Reader Param := fun cs => do
  let cs ← cs.dropPrefix? ['$']
  let (index, cs) ← readNumber cs
  let param ← numbered? params index
  let cs ← cs.dropPrefix? (if param.type = .numeric then "::numeric".toList else [])
  some (param, cs)

theorem reads_placeholder {params : List Param} {param : Param} {index : Nat}
    (found : numbered? params index = some param) :
    Reads (readPlaceholder params) (placeholder param index) param := by
  intro rest closes
  by_cases cast : param.type = .numeric
  · -- The colon of a cast ends the number as well.
    have number : readNumber (number index ++ ("::numeric".toList ++ rest)) =
        some (index, "::numeric".toList ++ rest) := by
      apply readNumber_append
      intro c tail equal
      have colon : ':' = c := (List.cons.inj equal).1
      subst colon
      rfl
    simp only [readPlaceholder, placeholder, if_pos cast, List.cons_append, List.append_assoc,
      dropPrefix?_cons, Option.bind_eq_bind, Option.bind_some, number, found, dropPrefix?_append]
  · have number := reads_number index rest closes
    simp only [readPlaceholder, placeholder, if_neg cast, List.cons_append, List.append_nil,
      dropPrefix?_cons, Option.bind_eq_bind, Option.bind_some, number, found,
      List.dropPrefix?_nil]

/-! ## Lists -/

/-- Items with a separator between them, up to the first that no separator
follows; no more than `most` items. -/
def readItems (read : Reader α) (separator : List Char) : Nat → Reader (List α)
  | 0, _ => none
  | most + 1, cs => do
      let (first, rest) ← read cs
      match rest.dropPrefix? separator with
      | none => some ([first], rest)
      | some more =>
          let (others, rest) ← readItems read separator most more
          some (first :: others, rest)

/-- A list of at least one item. -/
def readSome (read : Reader α) (separator : List Char) : Reader (List α) := fun cs =>
  readItems read separator (cs.length + 1) cs

/-- What a keyword opens, if the keyword stands there. -/
def readOptional (keyword : List Char) (read : Reader α) : Reader (Option α) := fun cs =>
  match cs.dropPrefix? keyword with
  | none => some (none, cs)
  | some cs => (read cs).map fun found => (some found.1, found.2)

/-- A list that a blank follows.  It may be empty. -/
def readList (read : Reader α) (separator : List Char) : Reader (List α) := fun cs =>
  if cs.head? = some ' ' then some ([], cs) else readSome read separator cs

theorem length_le_joined {separator : List Char} (visible : separator ≠ [])
    (texts : List (List Char)) :
    texts.length ≤ (Text.joined separator texts).length + 1 := by
  induction texts with
  | nil => simp
  | cons text more inductionHypothesis =>
      cases more with
      | nil => simp
      | cons next others =>
          have longer := List.length_pos_iff.mpr visible
          rw [Text.joined_cons _ _ (List.cons_ne_nil next others)]
          simp only [List.length_cons, List.length_append] at inductionHypothesis ⊢
          omega

theorem readItems_joined {read : Reader α} {separator : List Char}
    (closing : ∀ rest, Closes (separator ++ rest)) {texts : List (List Char)} {values : List α}
    (each : List.Forall₂ (Reads read) texts values) (more : texts ≠ []) {most : Nat}
    (enough : texts.length ≤ most) {rest : List Char} (closes : Closes rest)
    (last : rest.dropPrefix? separator = none) :
    readItems read separator most (Text.joined separator texts ++ rest) = some (values, rest) := by
  induction each generalizing most with
  | nil => exact absurd rfl more
  | @cons text value texts values first others inductionHypothesis =>
      cases most with
      | zero => simp at enough
      | succ most =>
          by_cases done : texts = []
          · -- The last item, as no separator stands behind it.
            subst done
            cases others
            simp [readItems, Text.joined, first rest closes, last]
          · -- The separator closes the item and announces another one.
            have tail := inductionHypothesis done (by simpa using enough)
            have head := first (separator ++ (Text.joined separator texts ++ rest)) (closing _)
            rw [Text.joined_cons _ _ done, List.append_assoc, List.append_assoc]
            simp [readItems, head, dropPrefix?_append, tail]

theorem readSome_joined {read : Reader α} (separator : List Char) (visible : separator ≠ [])
    (closing : ∀ rest, Closes (separator ++ rest)) {texts : List (List Char)} {values : List α}
    (each : List.Forall₂ (Reads read) texts values) (more : texts ≠ []) {rest : List Char}
    (closes : Closes rest) (last : rest.dropPrefix? separator = none) :
    readSome read separator (Text.joined separator texts ++ rest) = some (values, rest) := by
  have enough : texts.length ≤ (Text.joined separator texts ++ rest).length + 1 := by
    have shorter := length_le_joined visible texts
    rw [List.length_append]
    omega
  exact readItems_joined closing each more enough closes last

theorem readOptional_append {read : Reader α} (keyword : List Char) {text rest : List Char}
    {value : α} (found : read (text ++ rest) = some (value, rest)) :
    readOptional keyword read (keyword ++ (text ++ rest)) = some (some value, rest) := by
  simp only [readOptional, dropPrefix?_append, found, Option.map_some]

theorem readOptional_absent {read : Reader α} {keyword rest : List Char}
    (absent : rest.dropPrefix? keyword = none) :
    readOptional keyword read rest = some (none, rest) := by
  simp only [readOptional, absent]

theorem joined_opens {texts : List (List Char)} (more : texts ≠ [])
    (quotes : ∀ text ∈ texts, text.head? = some '"') (separator rest : List Char) :
    ∃ behind, Text.joined separator texts ++ rest = '"' :: behind := by
  cases texts with
  | nil => exact absurd rfl more
  | cons first others =>
      rcases List.head?_eq_some_iff.mp (quotes first List.mem_cons_self) with ⟨tail, rfl⟩
      rw [Text.joined_cons_cons]
      exact ⟨_, rfl⟩

theorem readList_joined {read : Reader α} (separator : List Char) (visible : separator ≠ [])
    (closing : ∀ rest, Closes (separator ++ rest)) {texts : List (List Char)} {values : List α}
    (each : List.Forall₂ (Reads read) texts values)
    (quotes : ∀ text ∈ texts, text.head? = some '"') (tail : List Char)
    (last : (' ' :: tail).dropPrefix? separator = none) :
    readList read separator (Text.joined separator texts ++ ' ' :: tail) =
      some (values, ' ' :: tail) := by
  by_cases empty : texts = []
  · subst empty
    cases each
    rfl
  · have found := readSome_joined separator visible closing each empty (closes_blank tail) last
    rcases joined_opens empty quotes separator (' ' :: tail) with ⟨behind, quote⟩
    have notBlank : ¬ ('"' :: behind).head? = some ' ' := by simp
    rw [quote] at found ⊢
    rw [readList, if_neg notBlank, found]

/-! ## Values in order -/

/-- The values from a place on are found by the numbers that follow it. -/
theorem numbered?_of_inOrder {params values : List Param} {param : Param} {bound : Nat}
    (inOrder : param :: values <+: params.drop bound) :
    numbered? params (bound + 1) = some param ∧ values <+: params.drop (bound + 1) := by
  rcases inOrder with ⟨behind, equal⟩
  have split : params.drop bound = param :: (values ++ behind) := equal.symm
  constructor
  · have head := congrArg List.head? split
    simpa [numbered?] using head
  · have tail := congrArg List.tail split
    rw [List.tail_drop] at tail
    exact ⟨behind, tail.symm⟩

theorem reads_placeholders {params values : List Param} {bound : Nat}
    (inOrder : values <+: params.drop bound) :
    List.Forall₂ (Reads (readPlaceholder params)) (placeholders values (bound + 1)) values := by
  induction values generalizing bound with
  | nil => exact .nil
  | cons param more inductionHypothesis =>
      rcases numbered?_of_inOrder inOrder with ⟨found, rest⟩
      exact .cons (reads_placeholder found) (inductionHypothesis rest)

/-! ## Conditions -/

/-- The sign of a comparison. -/
def readSign : Reader Comparison := fun cs =>
  [Comparison.eq, .neq, .lte, .gte].findSome? fun comparison =>
    (cs.dropPrefix? comparison.sign.toList).map fun rest => (comparison, rest)

/-- A comparison of a column with a value, as a condition. -/
def readComparison (params : List Param) (negated : Bool) : Reader Condition := fun cs => do
  let (column, cs) ← readName cs
  let cs ← cs.dropPrefix? [' ']
  let (comparison, cs) ← readSign cs
  let cs ← cs.dropPrefix? [' ']
  let (param, cs) ← readPlaceholder params cs
  some (⟨column, ⟨comparison, negated⟩, param⟩, cs)

/-- A condition: a comparison, or a negated one in brackets. -/
def readCondition (params : List Param) : Reader Condition := fun cs =>
  match cs.dropPrefix? "NOT (".toList with
  | none => readComparison params false cs
  | some cs => do
      let (condition, cs) ← readComparison params true cs
      let cs ← cs.dropPrefix? [')']
      some (condition, cs)

theorem readSign_sign (comparison : Comparison) (rest : List Char) :
    readSign (comparison.sign.toList ++ ' ' :: rest) = some (comparison, ' ' :: rest) := by
  cases comparison <;> rfl

/-- The text of a comparison, negated or not. -/
def comparison (condition : Condition) (index : Nat) : List Char :=
  quoted condition.column ++ ' ' :: condition.operator.comparison.sign.toList ++
    ' ' :: placeholder condition.param index

theorem reads_comparison {params : List Param} {condition : Condition} {index : Nat}
    (found : numbered? params index = some condition.param) :
    Reads (readComparison params condition.operator.negated) (comparison condition index)
      condition := by
  intro rest closes
  have name := fun rest => reads_quoted condition.column (' ' :: rest) (closes_blank rest)
  have value := reads_placeholder found rest closes
  simp only [readComparison, comparison, List.append_assoc, List.cons_append, name,
    Option.bind_eq_bind, Option.bind_some, dropPrefix?_cons, readSign_sign, value]

theorem reads_condition {params : List Param} {condition : Condition} {index : Nat}
    (found : numbered? params index = some condition.param) :
    Reads (readCondition params) (Sql.condition condition index) condition := by
  intro rest closes
  have compared := reads_comparison found
  cases negated : condition.operator.negated with
  | true =>
      have text : Sql.condition condition index ++ rest =
          "NOT (".toList ++ (comparison condition index ++ ')' :: rest) := by
        simp [Sql.condition, negated, comparison]
      rw [negated] at compared
      rw [text, readCondition, dropPrefix?_append]
      simp only [compared _ (closes_bracket rest), Option.bind_eq_bind, Option.bind_some,
        dropPrefix?_cons]
  | false =>
      have text : Sql.condition condition index ++ rest = comparison condition index ++ rest := by
        simp [Sql.condition, negated, comparison]
      -- A quote stands in front, so this is not taken for a negation.
      have plain : (comparison condition index ++ rest).dropPrefix? "NOT (".toList = none := rfl
      rw [negated] at compared
      rw [text, readCondition, plain]
      exact compared rest closes

theorem reads_conditionList {params : List Param} {conditions : List Condition} {bound : Nat}
    (inOrder : conditionParams conditions <+: params.drop bound) :
    List.Forall₂ (Reads (readCondition params)) (conditionList conditions (bound + 1))
      conditions := by
  induction conditions generalizing bound with
  | nil => exact .nil
  | cons condition more inductionHypothesis =>
      rcases numbered?_of_inOrder inOrder with ⟨found, rest⟩
      exact .cons (reads_condition found) (inductionHypothesis rest)

/-- What stands behind the conditions of a statement, if there are any: neither
they nor a further one of them. -/
structure EndsConditions (rest : List Char) : Prop where
  closes : Closes rest
  notWhere : rest.dropPrefix? " WHERE ".toList = none
  notAnd : rest.dropPrefix? " AND ".toList = none

/-- The conditions of a statement.  Without the keyword there are none. -/
def readWhere (params : List Param) : Reader (List Condition) := fun cs =>
  (readOptional " WHERE ".toList (readSome (readCondition params) " AND ".toList) cs).map
    fun found => (found.1.getD [], found.2)

theorem conditionList_ne_nil {conditions : List Condition} (more : conditions ≠ []) (index : Nat) :
    conditionList conditions index ≠ [] := by
  cases conditions with
  | nil => exact absurd rfl more
  | cons first rest => exact List.cons_ne_nil _ _

theorem closes_whereClause (conditions : List Condition) (bound : Nat) {rest : List Char}
    (ends : EndsConditions rest) : Closes (whereClause conditions bound ++ rest) := by
  by_cases none : conditions = []
  · subst none
    exact ends.closes
  · simp only [whereClause, test?, if_neg none]
    exact closes_blank _

theorem readWhere_whereClause {params : List Param} {conditions : List Condition} {bound : Nat}
    (inOrder : conditionParams conditions <+: params.drop bound) {rest : List Char}
    (ends : EndsConditions rest) :
    readWhere params (whereClause conditions bound ++ rest) = some (conditions, rest) := by
  by_cases none : conditions = []
  · subst none
    simp only [readWhere, whereClause, test?, if_true, List.nil_append,
      readOptional_absent ends.notWhere, Option.map_some, Option.getD_none]
  · have read := readSome_joined " AND ".toList (List.cons_ne_nil _ _)
      (fun _ => closes_blank _) (reads_conditionList inOrder)
      (conditionList_ne_nil none (bound + 1)) ends.closes ends.notAnd
    simp only [readWhere, whereClause, test?, if_neg none, List.append_assoc,
      readOptional_append _ read, Option.map_some, Option.getD_some]

/-! ## Order and limit -/

/-- A direction, as whether it ascends. -/
def readDirection : Reader Bool := fun cs =>
  match cs.dropPrefix? " ASC".toList with
  | some rest => some (true, rest)
  | none => (cs.dropPrefix? " DESC".toList).map fun rest => (false, rest)

/-- A column and the direction to sort it in. -/
def readSortOrder : Reader SortOrder := fun cs => do
  let (column, cs) ← readName cs
  let (ascending, cs) ← readDirection cs
  some (⟨column, ascending⟩, cs)

/-- The order and the limit of a read, each only if its keyword stands there. -/
def readOrder : Reader (Option SortOrder × Option Nat) := fun cs => do
  let (order, cs) ← readOptional " ORDER BY ".toList readSortOrder cs
  let (limit, cs) ← readOptional " LIMIT ".toList readNumber cs
  some ((order, limit), cs)

theorem reads_sortOrder (order : SortOrder) :
    Reads readSortOrder
      (quoted order.column ++ (if order.ascending then " ASC".toList else " DESC".toList))
      order := by
  intro rest closes
  rcases order with ⟨column, ascending⟩
  cases ascending with
  | true =>
      have name := reads_quoted column (" ASC".toList ++ rest) (closes_blank _)
      simp only [readSortOrder, if_true, List.append_assoc, name, Option.bind_eq_bind,
        Option.bind_some, readDirection, dropPrefix?_append]
  | false =>
      have name := reads_quoted column (" DESC".toList ++ rest) (closes_blank _)
      have other : (" DESC".toList ++ rest).dropPrefix? " ASC".toList = none := rfl
      simp only [readSortOrder, Bool.false_eq_true, if_false, List.append_assoc, name,
        Option.bind_eq_bind, Option.bind_some, readDirection, other, dropPrefix?_append,
        Option.map_some]

/-- The limit is the last clause of a read. -/
theorem readLimit_append (limit : Nat) :
    readOptional " LIMIT ".toList readNumber (" LIMIT ".toList ++ number limit) =
      some (some limit, []) := by
  have read := readOptional_append " LIMIT ".toList (reads_number limit [] closes_nil)
  rwa [List.append_nil] at read

theorem readOrder_orderClause (selection : Selection) (listing : selection.counting = false) :
    readOrder (orderClause selection) = some ((selection.order, selection.limit), []) := by
  rcases selection with ⟨table, projection, conditions, order, limit, counting⟩
  dsimp only at listing
  subst listing
  unfold orderClause
  simp only [Bool.false_eq_true, if_false]
  cases order with
  | none =>
      cases limit with
      | none => rfl
      | some limit =>
          have absent : (" LIMIT ".toList ++ number limit).dropPrefix? " ORDER BY ".toList =
            none := rfl
          simp only [List.nil_append, readOrder, readOptional_absent absent,
            readLimit_append, Option.bind_eq_bind, Option.bind_some]
  | some order =>
      cases limit with
      | none =>
          have read := readOptional_append " ORDER BY ".toList
            (reads_sortOrder order [] closes_nil)
          have absent : readOptional " LIMIT ".toList readNumber [] = some (none, []) := rfl
          simp only [List.append_assoc, List.append_nil] at read ⊢
          simp only [readOrder, read, absent, Option.bind_eq_bind, Option.bind_some]
      | some limit =>
          have read := readOptional_append " ORDER BY ".toList
            (reads_sortOrder order (" LIMIT ".toList ++ number limit) (closes_blank _))
          simp only [List.append_assoc] at read ⊢
          simp only [readOrder, read, readLimit_append, Option.bind_eq_bind, Option.bind_some]

theorem endsConditions_orderClause (selection : Selection) :
    EndsConditions (orderClause selection) := by
  rcases selection with ⟨table, projection, conditions, order, limit, counting⟩
  cases counting with
  | true => exact ⟨closes_nil, rfl, rfl⟩
  | false =>
      cases order with
      | some order => exact ⟨closes_blank _, rfl, rfl⟩
      | none =>
          cases limit with
          | some limit => exact ⟨closes_blank _, rfl, rfl⟩
          | none => exact ⟨closes_nil, rfl, rfl⟩

theorem endsConditions_returning : EndsConditions returning :=
  ⟨closes_blank _, rfl, rfl⟩

/-! ## Assignments -/

/-- An entry of a list of assignments: an assignment or a touch. -/
def readEntry (params : List Param) : Reader ((String × Param) ⊕ Touch) := fun cs => do
  let (column, cs) ← readName cs
  let cs ← cs.dropPrefix? " = ".toList
  match cs.dropPrefix? "GREATEST(".toList with
  | none =>
      let (param, cs) ← readPlaceholder params cs
      some (.inl (column, param), cs)
  | some cs =>
      let (param, cs) ← readPlaceholder params cs
      let cs ← cs.dropPrefix? comma
      let (floor, cs) ← readName cs
      let cs ← cs.dropPrefix? [')']
      some (.inr ⟨column, param, floor⟩, cs)

/-- Assignments and the touch, which is the last entry if there is one. -/
def separateTouch :
    List ((String × Param) ⊕ Touch) → Option (List (String × Param) × Option Touch)
  | [] => some ([], none)
  | .inl assignment :: rest =>
      (separateTouch rest).map fun found => (assignment :: found.1, found.2)
  | [.inr touch] => some ([], some touch)
  | .inr _ :: _ :: _ => none

/-- The entries of an update. -/
def entries (assignments : List (String × Param)) (touch : Option Touch) :
    List ((String × Param) ⊕ Touch) :=
  assignments.map .inl ++ (touch.map .inr).toList

/-- The texts of the entries, with values numbered from `index` on. -/
def entryTexts (assignments : List (String × Param)) (touch : Option Touch) (index : Nat) :
    List (List Char) :=
  assignmentList assignments index ++
    (touch.map fun touch => touchAssignment touch (assignments.length + index)).toList

theorem separateTouch_entries (assignments : List (String × Param)) (touch : Option Touch) :
    separateTouch (entries assignments touch) = some (assignments, touch) := by
  induction assignments with
  | nil => cases touch <;> rfl
  | cons assignment more inductionHypothesis =>
      simp only [entries, List.map_cons, List.cons_append] at inductionHypothesis ⊢
      simp only [separateTouch, inductionHypothesis, Option.map_some]

theorem entryTexts_cons (assignment : String × Param) (more : List (String × Param))
    (touch : Option Touch) (index : Nat) :
    entryTexts (assignment :: more) touch index =
      (quoted assignment.1 ++ " = ".toList ++ placeholder assignment.2 index) ::
        entryTexts more touch (index + 1) := by
  rw [entryTexts, List.length_cons, Nat.add_right_comm]
  rfl

theorem reads_assignment {params : List Param} {column : String} {param : Param} {index : Nat}
    (found : numbered? params index = some param) :
    Reads (readEntry params) (quoted column ++ " = ".toList ++ placeholder param index)
      (.inl (column, param)) := by
  intro rest closes
  have name := reads_quoted column (" = ".toList ++ (placeholder param index ++ rest))
    (closes_blank _)
  -- A dollar sign stands in front, so this is not taken for a touch.
  have plain : (placeholder param index ++ rest).dropPrefix? "GREATEST(".toList = none := rfl
  have value := reads_placeholder found rest closes
  simp only [readEntry, List.append_assoc, name, Option.bind_eq_bind, Option.bind_some,
    dropPrefix?_append, plain, value]

theorem reads_touch {params : List Param} {touch : Touch} {index : Nat}
    (found : numbered? params index = some touch.param) :
    Reads (readEntry params) (touchAssignment touch index) (.inr touch) := by
  intro rest closes
  have split : touchAssignment touch index ++ rest =
      quoted touch.column ++ (" = ".toList ++ ("GREATEST(".toList ++
        (placeholder touch.param index ++ (comma ++ (quoted touch.floor ++ ')' :: rest))))) := by
    simp [touchAssignment]
  have column := fun text => reads_quoted touch.column (" = ".toList ++ text) (closes_blank _)
  have value := fun text => reads_placeholder found (comma ++ text) (closes_comma text)
  have floor := reads_quoted touch.floor (')' :: rest) (closes_bracket rest)
  simp only [readEntry, split, column, Option.bind_eq_bind, Option.bind_some,
    dropPrefix?_append, value, floor, dropPrefix?_cons]

theorem reads_entryTexts {params : List Param} {assignments : List (String × Param)}
    {touch : Option Touch} {bound : Nat}
    (inOrder : assignedParams assignments touch <+: params.drop bound) :
    List.Forall₂ (Reads (readEntry params)) (entryTexts assignments touch (bound + 1))
      (entries assignments touch) := by
  induction assignments generalizing bound with
  | nil =>
      cases touch with
      | none => exact .nil
      | some touch =>
          have found := (numbered?_of_inOrder inOrder).1
          rw [← Nat.zero_add (bound + 1)] at found
          exact .cons (reads_touch found) .nil
  | cons assignment more inductionHypothesis =>
      rcases numbered?_of_inOrder inOrder with ⟨found, rest⟩
      rw [entryTexts_cons]
      exact .cons (reads_assignment found) (inductionHypothesis rest)

theorem quote_entryTexts (assignments : List (String × Param)) (touch : Option Touch)
    (index : Nat) : ∀ text ∈ entryTexts assignments touch index, text.head? = some '"' := by
  induction assignments generalizing index with
  | nil =>
      cases touch with
      | none => exact fun text member => absurd member List.not_mem_nil
      | some touch =>
          intro text member
          rw [List.mem_singleton.mp member]
          rfl
  | cons assignment more inductionHypothesis =>
      intro text member
      rw [entryTexts_cons] at member
      rcases List.mem_cons.mp member with rfl | later
      · rfl
      · exact inductionHypothesis (index + 1) text later

end Sql
end RowGate
