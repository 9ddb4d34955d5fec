import RowGate.Proofs.Sql.Clause

namespace RowGate

/-!
# Values and SQL text

The SQL text of a statement depends on the statement without its values: two
statements that differ in nothing else have one text.  What stands for the values
are the placeholders, and they are numbered without a gap in the order in which
the values are bound: those of an insert, or those assigned, then the stamp, then
those of the conditions.  A placeholder is cast exactly where its value is a
decimal.

Names may hold dollar signs, so the placeholders of a text are those outside
quotes.  A quote that is doubled inside a name closes the name and opens it again,
which leaves nothing between.
-/

/-! ## Statements without values -/

/-- A bound value left out; its type stays. -/
def Param.blank (param : Param) : Param :=
  { param with value := .null }

/-- A condition without its value. -/
def Condition.blank (condition : Condition) : Condition :=
  { condition with param := condition.param.blank }

/-- A touch without its value. -/
def Touch.blank (touch : Touch) : Touch :=
  { touch with param := touch.param.blank }

namespace Statement

/-- Assignments without their values. -/
def blankValues (values : List (String × Param)) : List (String × Param) :=
  values.map fun value => (value.1, value.2.blank)

/-- A statement without its values: its kind, names, operators, types, order and
limit. -/
def outline : Statement → Statement
  | .select selection =>
      .select { selection with conditions := selection.conditions.map Condition.blank }
  | .insert table values => .insert table (blankValues values)
  | .update table assignments touch conditions =>
      .update table (blankValues assignments) (touch.map Touch.blank)
        (conditions.map Condition.blank)
  | .delete table conditions => .delete table (conditions.map Condition.blank)

/-- The values of a statement, in the order of its clauses. -/
def params : Statement → List Param
  | .select selection => selection.conditions.map Condition.param
  | .insert _ values => values.map Prod.snd
  | .update _ assignments touch conditions =>
      assignments.map Prod.snd ++ (touch.map Touch.param).toList ++ conditions.map Condition.param
  | .delete _ conditions => conditions.map Condition.param

end Statement

namespace Sql

open Statement

/-! ## Texts without values -/

theorem conditionList_blank (conditions : List Condition) (index : Nat) :
    conditionList (conditions.map Condition.blank) index = conditionList conditions index := by
  induction conditions generalizing index with
  | nil => rfl
  | cons condition more inductionHypothesis =>
      exact congrArg (Sql.condition condition index :: ·) (inductionHypothesis (index + 1))

theorem whereClause_blank (conditions : List Condition) (bound : Nat) :
    whereClause (conditions.map Condition.blank) bound = whereClause conditions bound := by
  simp only [whereClause, test?, conditionList_blank, List.map_eq_nil_iff]

theorem placeholders_blank (params : List Param) (index : Nat) :
    placeholders (params.map Param.blank) index = placeholders params index := by
  induction params generalizing index with
  | nil => rfl
  | cons param more inductionHypothesis =>
      exact congrArg (placeholder param index :: ·) (inductionHypothesis (index + 1))

theorem assignmentList_blank (values : List (String × Param)) (index : Nat) :
    assignmentList (blankValues values) index = assignmentList values index := by
  induction values generalizing index with
  | nil => rfl
  | cons value more inductionHypothesis =>
      exact congrArg (_ :: ·) (inductionHypothesis (index + 1))

theorem text_compile_outline (statement : Statement) :
    (compile statement.outline).text = (compile statement).text := by
  cases statement with
  | select selection =>
      exact congrArg (fun clause => "SELECT ".toList ++ columnClause selection ++ " FROM ".toList ++
        quoted selection.table ++ clause ++ orderClause selection)
        (whereClause_blank selection.conditions 0)
  | insert table values =>
      by_cases none : values = []
      · subst none
        rfl
      · have bound :
            (blankValues values).map Prod.snd = (values.map Prod.snd).map Param.blank := by
          simp only [blankValues, List.map_map]
          rfl
        have names : (blankValues values).map (fun value => quoted value.1) =
            values.map fun value => quoted value.1 := by
          simp only [blankValues, List.map_map]
          rfl
        have occupied : blankValues values ≠ [] := by simpa [blankValues] using none
        unfold compile outline
        simp only [if_neg none, if_neg occupied, names, bound, placeholders_blank]
  | update table assignments touch conditions =>
      have count : (assignedParams (blankValues assignments) (touch.map Touch.blank)).length =
          (assignedParams assignments touch).length := by
        cases touch <;> simp [assignedParams, blankValues]
      have length : (blankValues assignments).length = assignments.length := List.length_map _
      have touches : (touch.map Touch.blank).map
          (fun touch => touchAssignment touch (assignments.length + 1)) =
            touch.map fun touch => touchAssignment touch (assignments.length + 1) := by
        cases touch <;> rfl
      unfold compile outline
      simp only [assignmentList_blank, whereClause_blank, count, length, touches]
  | delete table conditions =>
      exact congrArg (fun clause => "DELETE FROM ".toList ++ quoted table ++ clause ++ returning)
        (whereClause_blank conditions 0)

/-! ## Placeholders in a text -/

/-- A placeholder: its number, and whether it is cast to a decimal. -/
structure Mark where
  index : Nat
  cast : Bool
deriving DecidableEq, Repr

/-- The placeholder whose dollar sign stands in front of a text. -/
def Mark.of (cs : List Char) : Mark :=
  ⟨Digits.value (Digits.span cs).1, "::numeric".toList.isPrefixOf (Digits.span cs).2⟩

/-- The placeholders of a text from left to right, the first of whose characters
stands inside or outside quotes. -/
def marks : (inside : Bool) → List Char → List Mark
  | _, [] => []
  | true, c :: rest => marks (c != '"') rest
  | false, c :: rest =>
      if c = '"' then marks true rest
      else if c = '$' then Mark.of rest :: marks false rest
      else marks false rest

/-- The placeholders outside quotes. -/
def placeholdersIn (cs : List Char) : List Mark :=
  marks false cs

/-- Placeholders for values, numbered from `index` on. -/
def marksOf : List Param → Nat → List Mark
  | [], _ => []
  | param :: more, index => ⟨index, decide (param.type = .numeric)⟩ :: marksOf more (index + 1)

theorem index_marksOf (params : List Param) (index : Nat) :
    (marksOf params index).map Mark.index = List.range' index params.length := by
  induction params generalizing index with
  | nil => rfl
  | cons param more inductionHypothesis =>
      rw [List.length_cons, List.range'_succ, ← inductionHypothesis]
      rfl

theorem cast_marksOf (params : List Param) (index : Nat) :
    (marksOf params index).map Mark.cast =
      params.map fun param => decide (param.type = .numeric) := by
  induction params generalizing index with
  | nil => rfl
  | cons param more inductionHypothesis =>
      exact congrArg (_ :: ·) (inductionHypothesis (index + 1))

theorem marksOf_append (first second : List Param) (index : Nat) :
    marksOf (first ++ second) index =
      marksOf first index ++ marksOf second (index + first.length) := by
  induction first generalizing index with
  | nil => rfl
  | cons param more inductionHypothesis =>
      rw [List.cons_append, marksOf, marksOf, inductionHypothesis, List.length_cons,
        Nat.add_right_comm]
      rfl

/-! ## Texts without placeholders -/

/-- The text has no placeholder, whatever stands behind it. -/
def Silent (text : List Char) : Prop :=
  ∀ rest, marks false (text ++ rest) = marks false rest

/-- Neither a quote nor a dollar sign stands in the text. -/
def Plain (text : List Char) : Prop :=
  ∀ c ∈ text, c ≠ '"' ∧ c ≠ '$'

instance (text : List Char) : Decidable (Plain text) :=
  List.decidableBAll (fun c => c ≠ '"' ∧ c ≠ '$') text

theorem Plain.silent {text : List Char} (plain : Plain text) : Silent text := by
  intro rest
  induction text with
  | nil => rfl
  | cons c more inductionHypothesis =>
      rcases List.forall_mem_cons.mp plain with ⟨⟨notQuote, notDollar⟩, others⟩
      rw [List.cons_append, marks, if_neg notQuote, if_neg notDollar]
      exact inductionHypothesis others

theorem silent_nil : Silent [] :=
  fun _ => rfl

theorem Silent.append {first second : List Char} (one : Silent first) (two : Silent second) :
    Silent (first ++ second) := by
  intro rest
  rw [List.append_assoc, one, two]

theorem Silent.marks_eq_nil {text : List Char} (silent : Silent text) : marks false text = [] := by
  rw [← List.append_nil text, silent]
  rfl

theorem marks_doubled (name rest : List Char) :
    marks true (doubled name ++ rest) = marks true rest := by
  induction name with
  | nil => rfl
  | cons c more inductionHypothesis =>
      by_cases quote : c = '"'
      · subst quote
        simpa [doubled, marks] using inductionHypothesis
      · have inner : (c != '"') = true := by simpa using quote
        simpa [doubled, marks, quote, inner] using inductionHypothesis

theorem silent_quoted (name : String) : Silent (quoted name) := by
  intro rest
  simp only [quoted, List.cons_append, List.append_assoc, List.nil_append, marks, if_true,
    marks_doubled, bne_self_eq_false]

theorem plain_number (n : Nat) : Plain (number n) := by
  have all : ∀ d : Digit, d.toChar ≠ '"' ∧ d.toChar ≠ '$' := by decide
  intro c member
  rcases List.mem_map.mp member with ⟨d, _, rfl⟩
  exact all d

theorem silent_joined {separator : List Char} (between : Silent separator)
    {texts : List (List Char)} (each : ∀ text ∈ texts, Silent text) :
    Silent (Text.joined separator texts) := by
  induction texts with
  | nil => exact silent_nil
  | cons text more inductionHypothesis =>
      rcases List.forall_mem_cons.mp each with ⟨first, others⟩
      by_cases last : more = []
      · subst last
        exact first
      · rw [Text.joined_cons _ _ last]
        exact (first.append between).append (inductionHypothesis others)

theorem silent_names (names : List String) : Silent (Text.joined comma (names.map quoted)) := by
  apply silent_joined (Plain.silent (by decide))
  intro text member
  rcases List.mem_map.mp member with ⟨name, _, rfl⟩
  exact silent_quoted name

theorem silent_columnClause (selection : Selection) : Silent (columnClause selection) := by
  unfold columnClause
  split
  · exact Plain.silent (by decide)
  · split
    · exact Plain.silent (by decide)
    · exact silent_names _

theorem silent_orderClause (selection : Selection) : Silent (orderClause selection) := by
  unfold orderClause
  split
  · exact silent_nil
  · apply Silent.append
    · split
      · exact silent_nil
      · refine (Silent.append (Plain.silent (by decide)) (silent_quoted _)).append ?_
        split <;> exact Plain.silent (by decide)
    · split
      · exact silent_nil
      · exact Silent.append (Plain.silent (by decide)) (plain_number _).silent

theorem silent_returning : Silent returning :=
  Plain.silent (by decide)

/-! ## Texts with placeholders -/

/-- The text has these placeholders, whatever closes it. -/
def Shows (text : List Char) (found : List Mark) : Prop :=
  ∀ rest, Closes rest → marks false (text ++ rest) = found ++ marks false rest

theorem Shows.behind {before text : List Char} {found : List Mark} (shown : Shows text found)
    (silent : Silent before) : Shows (before ++ text) found := by
  intro rest closes
  rw [List.append_assoc, silent, shown rest closes]

/-- A text has its placeholders between a silent one and whatever closes it. -/
theorem Shows.marks_between {before text after : List Char} {found : List Mark}
    (shown : Shows text found) (silent : Silent before) (closes : Closes after) :
    marks false (before ++ (text ++ after)) = found ++ marks false after := by
  rw [silent, shown after closes]

/-- If what closes it is silent too, it has all of them. -/
theorem Shows.marks_eq {before text after : List Char} {found : List Mark}
    (shown : Shows text found) (silent : Silent before) (closes : Closes after)
    (ended : Silent after) : marks false (before ++ (text ++ after)) = found := by
  rw [shown.marks_between silent closes, ended.marks_eq_nil, List.append_nil]

theorem shows_placeholder (param : Param) (index : Nat) :
    Shows (placeholder param index) [⟨index, decide (param.type = .numeric)⟩] := by
  intro rest closes
  -- Both a cast and what closes a placeholder end its number.
  have found : ∀ cast : List Char, Plain cast →
      (∀ c tail, cast ++ rest = c :: tail → Digit.ofChar? c = none) →
      marks false ('$' :: number index ++ cast ++ rest) =
        ⟨index, "::numeric".toList.isPrefixOf (cast ++ rest)⟩ :: marks false rest := by
    intro cast plain ends
    have split : Digits.span (number index ++ (cast ++ rest)) =
        (Digits.ofNat index, cast ++ rest) := Digits.span_append (Digits.ofNat index) ends
    have behind := ((plain_number index).silent.append plain.silent) rest
    rw [List.append_assoc] at behind
    simp only [List.cons_append, List.append_assoc, marks, Mark.of, split, Digits.value_ofNat,
      behind]
    rfl
  unfold placeholder
  by_cases cast : param.type = .numeric
  · rw [if_pos cast, found _ (by decide) (by rintro c tail ⟨⟩; rfl)]
    have prefixed : "::numeric".toList.isPrefixOf ("::numeric".toList ++ rest) = true := by
      rw [List.isPrefixOf_iff_prefix]
      exact List.prefix_append _ _
    rw [prefixed, decide_eq_true cast]
    rfl
  · rw [if_neg cast, found [] (by decide) ?_]
    · have closed : "::numeric".toList.isPrefixOf ([] ++ rest) = false := by
        cases rest with
        | nil => rfl
        | cons c tail => rcases closes_cons.mp closes with rfl | rfl | rfl <;> rfl
      rw [closed, decide_eq_false cast]
      rfl
    · rintro c tail rfl
      rcases closes_cons.mp closes with rfl | rfl | rfl <;> rfl

theorem shows_joined {separator : List Char} (closing : ∀ rest, Closes (separator ++ rest))
    (between : Silent separator) {texts : List (List Char)} {found : List Mark}
    (each : List.Forall₂ (fun text mark => Shows text [mark]) texts found) :
    Shows (Text.joined separator texts) found := by
  induction each with
  | nil => exact fun rest _ => rfl
  | @cons text mark more others first _ inductionHypothesis =>
      intro rest closes
      by_cases last : more = []
      · subst last
        cases ‹List.Forall₂ _ [] others›
        exact first rest closes
      · rw [Text.joined_cons _ _ last, List.append_assoc, List.append_assoc, first _ (closing _),
          between, inductionHypothesis rest closes]
        rfl

theorem shows_placeholders (params : List Param) (index : Nat) :
    List.Forall₂ (fun text mark => Shows text [mark]) (placeholders params index)
      (marksOf params index) := by
  induction params generalizing index with
  | nil => exact .nil
  | cons param more inductionHypothesis =>
      exact .cons (shows_placeholder param index) (inductionHypothesis (index + 1))

theorem shows_condition (condition : Condition) (index : Nat) :
    Shows (Sql.condition condition index)
      [⟨index, decide (condition.param.type = .numeric)⟩] := by
  have compared : Shows (comparison condition index)
      [⟨index, decide (condition.param.type = .numeric)⟩] := by
    have sign : Plain (' ' :: condition.operator.comparison.sign.toList ++ [' ']) := by
      cases condition.operator.comparison <;> decide
    have shown := (shows_placeholder condition.param index).behind
      ((silent_quoted condition.column).append sign.silent)
    simpa [comparison] using shown
  intro rest closes
  cases negated : condition.operator.negated with
  | true =>
      have text : Sql.condition condition index ++ rest =
          "NOT (".toList ++ (comparison condition index ++ ')' :: rest) := by
        simp [Sql.condition, negated, comparison]
      have opening : Silent "NOT (".toList := Plain.silent (by decide)
      rw [text, opening, compared _ (closes_bracket rest)]
      rfl
  | false =>
      have text : Sql.condition condition index = comparison condition index := by
        simp [Sql.condition, negated, comparison]
      rw [text]
      exact compared rest closes

theorem shows_conditionList (conditions : List Condition) (index : Nat) :
    List.Forall₂ (fun text mark => Shows text [mark]) (conditionList conditions index)
      (marksOf (conditionParams conditions) index) := by
  induction conditions generalizing index with
  | nil => exact .nil
  | cons condition more inductionHypothesis =>
      exact .cons (shows_condition condition index) (inductionHypothesis (index + 1))

theorem shows_whereClause (conditions : List Condition) (bound : Nat) :
    Shows (whereClause conditions bound) (marksOf (conditionParams conditions) (bound + 1)) := by
  by_cases none : conditions = []
  · subst none
    exact fun rest _ => rfl
  · simp only [whereClause, test?, if_neg none]
    exact (shows_joined (fun _ => closes_blank _) (Plain.silent (by decide))
      (shows_conditionList conditions (bound + 1))).behind (Plain.silent (by decide))

theorem shows_touch (touch : Touch) (index : Nat) :
    Shows (touchAssignment touch index) [⟨index, decide (touch.param.type = .numeric)⟩] := by
  intro rest _
  have split : touchAssignment touch index ++ rest =
      (quoted touch.column ++ " = GREATEST(".toList) ++ (placeholder touch.param index ++
        (comma ++ ((quoted touch.floor ++ [')']) ++ rest))) := by
    simp [touchAssignment]
  have before : Silent (quoted touch.column ++ " = GREATEST(".toList) :=
    (silent_quoted _).append (Plain.silent (by decide))
  have between : Silent comma := Plain.silent (by decide)
  have floor : Silent (quoted touch.floor ++ [')']) :=
    (silent_quoted _).append (Plain.silent (by decide))
  rw [split, before, shows_placeholder touch.param index _ (closes_comma _), between, floor]

theorem shows_entryTexts (assignments : List (String × Param)) (touch : Option Touch)
    (index : Nat) :
    List.Forall₂ (fun text mark => Shows text [mark]) (entryTexts assignments touch index)
      (marksOf (assignedParams assignments touch) index) := by
  induction assignments generalizing index with
  | nil =>
      cases touch with
      | none => exact .nil
      | some touch =>
          refine .cons ?_ .nil
          change Shows (touchAssignment touch (0 + index)) _
          rw [Nat.zero_add]
          exact shows_touch touch index
  | cons assignment more inductionHypothesis =>
      rw [entryTexts_cons]
      refine .cons ?_ (inductionHypothesis (index + 1))
      exact (shows_placeholder assignment.2 index).behind
        ((silent_quoted _).append (Plain.silent (by decide)))

/-!
## Statements

Every statement is cut into silent parts and parts that show their placeholders; what
stands behind such a part closes its last number.
-/

theorem params_compile (statement : Statement) : (compile statement).params = statement.params := by
  cases statement <;> rfl

theorem placeholdersIn_select (selection : Selection) :
    placeholdersIn (compile (.select selection)).text =
      marksOf (conditionParams selection.conditions) 1 := by
  have text : (compile (.select selection)).text =
      ("SELECT ".toList ++ columnClause selection ++ " FROM ".toList ++ quoted selection.table) ++
        (whereClause selection.conditions 0 ++ orderClause selection) :=
    List.append_assoc _ _ _
  have before : Silent ("SELECT ".toList ++ columnClause selection ++ " FROM ".toList ++
      quoted selection.table) :=
    ((Silent.append (Plain.silent (by decide)) (silent_columnClause selection)).append
      (Plain.silent (by decide))).append (silent_quoted _)
  rw [placeholdersIn, text]
  exact (shows_whereClause selection.conditions 0).marks_eq before
    (endsConditions_orderClause selection).closes (silent_orderClause selection)

theorem placeholdersIn_insert (table : String) (values : List (String × Param)) :
    placeholdersIn (compile (.insert table values)).text = marksOf (values.map Prod.snd) 1 := by
  have before : Silent ("INSERT INTO ".toList ++ quoted table) :=
    Silent.append (Plain.silent (by decide)) (silent_quoted table)
  by_cases none : values = []
  · subst none
    exact ((before.append (Plain.silent (by decide))).append silent_returning).marks_eq_nil
  · have names := silent_names (values.map Prod.fst)
    rw [List.map_map] at names
    have columns : Silent (("INSERT INTO ".toList ++ quoted table) ++ (" (".toList ++
        Text.joined comma (values.map (quoted ∘ Prod.fst)) ++ ") VALUES (".toList)) :=
      before.append ((Silent.append (Plain.silent (by decide)) names).append
        (Plain.silent (by decide)))
    have shown := shows_joined closes_comma (Plain.silent (by decide))
      (shows_placeholders (values.map Prod.snd) 1)
    have text : (compile (.insert table values)).text =
        (("INSERT INTO ".toList ++ quoted table) ++ (" (".toList ++ Text.joined comma
          (values.map (quoted ∘ Prod.fst)) ++ ") VALUES (".toList)) ++
            (Text.joined comma (placeholders (values.map Prod.snd) 1) ++ (')' :: returning)) := by
      unfold compile
      simp only [if_neg none, List.append_assoc]
      rfl
    rw [placeholdersIn, text]
    exact shown.marks_eq columns (closes_bracket returning) (Plain.silent (by decide))

theorem placeholdersIn_update (table : String) (assignments : List (String × Param))
    (touch : Option Touch) (conditions : List Condition) :
    placeholdersIn (compile (.update table assignments touch conditions)).text =
      marksOf (assignedParams assignments touch ++ conditionParams conditions) 1 := by
  have before : Silent ("UPDATE ".toList ++ quoted table ++ " SET ".toList) :=
    (Silent.append (Plain.silent (by decide)) (silent_quoted table)).append
      (Plain.silent (by decide))
  have shown := shows_joined closes_comma (Plain.silent (by decide))
    (shows_entryTexts assignments touch 1)
  have tested := shows_whereClause conditions (assignedParams assignments touch).length
    returning endsConditions_returning.closes
  have text : (compile (.update table assignments touch conditions)).text =
      ("UPDATE ".toList ++ quoted table ++ " SET ".toList) ++
        (Text.joined comma (entryTexts assignments touch 1) ++
          (whereClause conditions (assignedParams assignments touch).length ++ returning)) := by
    unfold compile
    simp only [List.append_assoc]
    rfl
  rw [placeholdersIn, text, shown.marks_between before
    (closes_whereClause _ _ endsConditions_returning), tested, silent_returning.marks_eq_nil,
    List.append_nil, Nat.add_comm, ← marksOf_append]

theorem placeholdersIn_delete (table : String) (conditions : List Condition) :
    placeholdersIn (compile (.delete table conditions)).text =
      marksOf (conditionParams conditions) 1 := by
  have text : (compile (.delete table conditions)).text =
      ("DELETE FROM ".toList ++ quoted table) ++ (whereClause conditions 0 ++ returning) :=
    List.append_assoc _ _ _
  have before : Silent ("DELETE FROM ".toList ++ quoted table) :=
    Silent.append (Plain.silent (by decide)) (silent_quoted table)
  rw [placeholdersIn, text]
  exact (shows_whereClause conditions 0).marks_eq before endsConditions_returning.closes
    silent_returning

/-- The placeholders of a statement are those of its values, from one on. -/
theorem placeholdersIn_compile (statement : Statement) :
    placeholdersIn (compile statement).text = marksOf statement.params 1 := by
  cases statement with
  | select selection => exact placeholdersIn_select selection
  | insert table values => exact placeholdersIn_insert table values
  | update table assignments touch conditions =>
      exact placeholdersIn_update table assignments touch conditions
  | delete table conditions => exact placeholdersIn_delete table conditions

/-- Statements that differ in their values alone have one text.  Each value of a
statement stands behind those of the clauses before, and its place among them is
the number of its placeholder; the placeholders are all that stands for values,
and those of decimals are cast. -/
theorem values_stay_out_of_text (statement : Statement) :
    (∀ other : Statement, other.outline = statement.outline →
        (compile other).sql = (compile statement).sql) ∧
      (compile statement).params = statement.params ∧
      (placeholdersIn (compile statement).sql.toList).map Mark.index =
        List.range' 1 statement.params.length ∧
      (placeholdersIn (compile statement).sql.toList).map Mark.cast =
        statement.params.map fun param => decide (param.type = .numeric) := by
  have text : (compile statement).sql.toList = (compile statement).text := String.toList_ofList
  refine ⟨?_, params_compile statement, ?_, ?_⟩
  · intro other same
    have outlined : (compile other).text = (compile statement).text := by
      rw [← text_compile_outline other, same, text_compile_outline]
    exact congrArg String.ofList outlined
  · rw [text, placeholdersIn_compile, index_marksOf]
  · rw [text, placeholdersIn_compile, cast_marksOf]

/-- An update of rows that are not dearer than `price`; its names hold what a
placeholder and the end of a name look like. -/
def reprice (price remark : String) : Statement :=
  .update "items"
    [("price$9", ⟨.string price, .numeric⟩), ("a \" $1::numeric", ⟨.string remark, .text⟩)]
    (some ⟨"updated_at", ⟨.string "2024-05-01T12:00:00.000Z", .timestamp⟩, "created_at"⟩)
    [⟨"price$9", ⟨.gte, true⟩, ⟨.string price, .numeric⟩⟩]

theorem remark_stays_out_of_text :
    (compile (reprice "2.50" "'; DROP TABLE items; --")).sql =
        (compile (reprice "1" "$2::numeric\"")).sql ∧
      (placeholdersIn (compile (reprice "1" "$2::numeric\"")).sql.toList).map Mark.index =
        [1, 2, 3, 4] ∧
      (placeholdersIn (compile (reprice "1" "$2::numeric\"")).sql.toList).map Mark.cast =
        [true, false, false, true] := by
  rcases values_stay_out_of_text (reprice "1" "$2::numeric\"") with ⟨texts, _, indices, casts⟩
  exact ⟨texts (reprice "2.50" "'; DROP TABLE items; --") rfl, indices, casts⟩

end Sql
end RowGate
