import RowGate.Proofs.Sql.Clause

namespace RowGate

/-!
# Reading statements back

The SQL text of a statement, with the values of its placeholders, says the
statement and nothing else: a reader gets back its kind, every name as it was,
and every condition, assignment, touch, order and limit.  Only what the text of
a counting read leaves out is lost: its projection, order and limit.
-/

/-- A read without what a counting read does not use. -/
def Selection.essence (selection : Selection) : Selection :=
  if selection.counting then { selection with projection := .all, order := none, limit := none }
  else selection

theorem Selection.essence_eq (selection : Selection) :
    selection.essence = ⟨selection.table, selection.essence.projection, selection.conditions,
      selection.essence.order, selection.essence.limit, selection.counting⟩ := by
  rcases selection with ⟨table, projection, conditions, order, limit, counting⟩
  cases counting <;> rfl

/-- A statement without what its SQL text leaves out. -/
def Statement.essence : Statement → Statement
  | .select selection => .select selection.essence
  | other => other

namespace Sql

/-! ## Readers -/

/-- What a read returns, and whether it counts. -/
def readColumns : Reader (Bool × Projection) := fun cs =>
  match cs.dropPrefix? "count(*) AS count".toList with
  | some rest => some ((true, .all), rest)
  | none =>
      match cs.dropPrefix? ['*'] with
      | some rest => some ((false, .all), rest)
      | none => (readList readName comma cs).map fun found => ((false, .columns found.1), found.2)

/-- A read, which is all that stands there. -/
def readSelection (params : List Param) (cs : List Char) : Option Statement := do
  let cs ← cs.dropPrefix? "SELECT ".toList
  let ((counting, projection), cs) ← readColumns cs
  let cs ← cs.dropPrefix? " FROM ".toList
  let (table, cs) ← readName cs
  let (conditions, cs) ← readWhere params cs
  let ((order, limit), cs) ← readOrder cs
  if cs = [] then some (.select ⟨table, projection, conditions, order, limit, counting⟩) else none

/-- The columns and values of an insert. -/
def readValues (params : List Param) : Reader (List (String × Param)) := fun cs =>
  match cs.dropPrefix? " DEFAULT VALUES".toList with
  | some rest => some ([], rest)
  | none => do
      let cs ← cs.dropPrefix? " (".toList
      let (columns, cs) ← readSome readName comma cs
      let cs ← cs.dropPrefix? ") VALUES (".toList
      let (values, cs) ← readSome (readPlaceholder params) comma cs
      let cs ← cs.dropPrefix? [')']
      some (columns.zip values, cs)

/-- An insert, behind which nothing stands but what it returns. -/
def readInsert (params : List Param) (cs : List Char) : Option Statement := do
  let cs ← cs.dropPrefix? "INSERT INTO ".toList
  let (table, cs) ← readName cs
  let (values, cs) ← readValues params cs
  if cs = returning then some (.insert table values) else none

/-- An update.  Its touch is the last entry of the list of assignments. -/
def readUpdate (params : List Param) (cs : List Char) : Option Statement := do
  let cs ← cs.dropPrefix? "UPDATE ".toList
  let (table, cs) ← readName cs
  let cs ← cs.dropPrefix? " SET ".toList
  let (entries, cs) ← readList (readEntry params) comma cs
  let (assignments, touch) ← separateTouch entries
  let (conditions, cs) ← readWhere params cs
  if cs = returning then some (.update table assignments touch conditions) else none

/-- A delete, with or without conditions. -/
def readDelete (params : List Param) (cs : List Char) : Option Statement := do
  let cs ← cs.dropPrefix? "DELETE FROM ".toList
  let (table, cs) ← readName cs
  let (conditions, cs) ← readWhere params cs
  if cs = returning then some (.delete table conditions) else none

/-- The statement that SQL text and the values of its placeholders say. -/
def read (compiled : Compiled) : Option Statement :=
  readSelection compiled.params compiled.text <|> readInsert compiled.params compiled.text <|>
    readUpdate compiled.params compiled.text <|> readDelete compiled.params compiled.text

/-! ## Reads -/

/-- No list of names in quotes starts with a letter or a star. -/
theorem dropPrefix?_names (names : List String) (rest : List Char) :
    (Text.joined comma (names.map quoted) ++ (' ' :: rest)).dropPrefix?
        "count(*) AS count".toList = none ∧
      (Text.joined comma (names.map quoted) ++ (' ' :: rest)).dropPrefix? ['*'] = none := by
  by_cases empty : names.map quoted = []
  · rw [empty]
    exact ⟨rfl, rfl⟩
  · rcases joined_opens empty (quote_names names) comma (' ' :: rest) with ⟨behind, quote⟩
    rw [quote]
    exact ⟨rfl, rfl⟩

theorem readColumns_columnClause (selection : Selection) (rest : List Char) :
    readColumns (columnClause selection ++ (" FROM ".toList ++ rest)) =
      some ((selection.counting, selection.essence.projection), " FROM ".toList ++ rest) := by
  rcases selection with ⟨table, projection, conditions, order, limit, counting⟩
  cases counting with
  | true =>
      simp only [readColumns, columnClause, Selection.essence, if_true, dropPrefix?_append]
  | false =>
      simp only [columnClause, Selection.essence, Bool.false_eq_true, if_false]
      cases projection with
      | all =>
          have listing : (['*'] ++ (" FROM ".toList ++ rest)).dropPrefix?
            "count(*) AS count".toList = none := rfl
          simp only [readColumns, listing, dropPrefix?_append]
      | columns names =>
          have others := dropPrefix?_names names ("FROM ".toList ++ rest)
          have found := readList_joined comma (List.cons_ne_nil _ _) closes_comma
            (reads_names names) (quote_names names) ("FROM ".toList ++ rest) rfl
          have blank : " FROM ".toList ++ rest = ' ' :: ("FROM ".toList ++ rest) := rfl
          rw [blank]
          simp only [readColumns, others.1, others.2, found, Option.map_some]

theorem readOrder_essence (selection : Selection) :
    readOrder (orderClause selection) =
      some ((selection.essence.order, selection.essence.limit), []) := by
  cases counting : selection.counting with
  | true =>
      rw [orderClause, if_pos counting, Selection.essence, if_pos counting]
      rfl
  | false =>
      have listing : ¬ selection.counting = true := by simp [counting]
      rw [readOrder_orderClause selection counting, Selection.essence, if_neg listing]

theorem readSelection_compile (selection : Selection) :
    readSelection (compile (.select selection)).params (compile (.select selection)).text =
      some (.select selection.essence) := by
  have text : (compile (.select selection)).text = "SELECT ".toList ++
      (columnClause selection ++ (" FROM ".toList ++ (quoted selection.table ++
        (whereClause selection.conditions 0 ++ orderClause selection)))) := by
    unfold compile
    simp only [List.append_assoc]
  have ends := endsConditions_orderClause selection
  have table := reads_quoted selection.table _ (closes_whereClause selection.conditions 0 ends)
  have conditions : readWhere (compile (.select selection)).params
      (whereClause selection.conditions 0 ++ orderClause selection) =
        some (selection.conditions, orderClause selection) :=
    readWhere_whereClause List.prefix_rfl ends
  rw [text, Selection.essence_eq]
  simp only [readSelection, dropPrefix?_append, readColumns_columnClause, table, conditions,
    readOrder_essence, Option.bind_eq_bind, Option.bind_some, if_true]

/-! ## Writes -/

theorem readWhere_returning {params : List Param} {conditions : List Condition} {bound : Nat}
    (inOrder : conditionParams conditions <+: params.drop bound) :
    readWhere params (whereClause conditions bound ++ returning) = some (conditions, returning) :=
  readWhere_whereClause inOrder endsConditions_returning

theorem readDelete_compile (table : String) (conditions : List Condition) :
    readDelete (compile (.delete table conditions)).params
        (compile (.delete table conditions)).text = some (.delete table conditions) := by
  have text : (compile (.delete table conditions)).text = "DELETE FROM ".toList ++
      (quoted table ++ (whereClause conditions 0 ++ returning)) := by
    unfold compile
    simp only [List.append_assoc]
  have name := reads_quoted table _ (closes_whereClause conditions 0 endsConditions_returning)
  have found : readWhere (compile (.delete table conditions)).params
      (whereClause conditions 0 ++ returning) = some (conditions, returning) :=
    readWhere_returning List.prefix_rfl
  rw [text]
  simp only [readDelete, dropPrefix?_append, name, found, Option.bind_eq_bind, Option.bind_some,
    if_true]

theorem whereClause_returning (conditions : List Condition) (bound : Nat) :
    ∃ tail, whereClause conditions bound ++ returning = ' ' :: tail := by
  by_cases none : conditions = []
  · subst none
    exact ⟨_, rfl⟩
  · simp only [whereClause, test?, if_neg none]
    exact ⟨_, rfl⟩

theorem readUpdate_compile (table : String) (assignments : List (String × Param))
    (touch : Option Touch) (conditions : List Condition) :
    readUpdate (compile (.update table assignments touch conditions)).params
        (compile (.update table assignments touch conditions)).text =
      some (.update table assignments touch conditions) := by
  have text : (compile (.update table assignments touch conditions)).text = "UPDATE ".toList ++
      (quoted table ++ (" SET ".toList ++ (Text.joined comma (entryTexts assignments touch 1) ++
        (whereClause conditions (assignedParams assignments touch).length ++ returning)))) := by
    unfold compile
    simp only [List.append_assoc]
    rfl
  have params : (compile (.update table assignments touch conditions)).params =
      assignedParams assignments touch ++ conditionParams conditions := rfl
  generalize compile (.update table assignments touch conditions) = compiled at text params ⊢
  have assigned : assignedParams assignments touch <+: compiled.params.drop 0 := by
    rw [params]
    exact List.prefix_append _ _
  have behind : compiled.params.drop (assignedParams assignments touch).length =
      conditionParams conditions := by
    rw [params]
    exact List.drop_left
  have bound : conditionParams conditions <+:
      compiled.params.drop (assignedParams assignments touch).length :=
    behind ▸ List.prefix_rfl
  have name := fun rest => reads_quoted table (" SET ".toList ++ rest) (closes_blank _)
  rcases whereClause_returning conditions (assignedParams assignments touch).length with
    ⟨tail, blank⟩
  have found := readList_joined comma (List.cons_ne_nil _ _) closes_comma
    (reads_entryTexts assigned) (quote_entryTexts assignments touch 1) tail rfl
  rw [← blank] at found
  rw [text]
  simp only [readUpdate, dropPrefix?_append, name, found, separateTouch_entries,
    readWhere_returning bound, Option.bind_eq_bind, Option.bind_some, if_true]

theorem placeholders_ne_nil {values : List Param} (more : values ≠ []) (index : Nat) :
    placeholders values index ≠ [] := by
  cases values with
  | nil => exact absurd rfl more
  | cons first rest => exact List.cons_ne_nil _ _

/-- The columns and values of an insert, in its text. -/
def valuesClause (values : List (String × Param)) : List Char :=
  " (".toList ++ (Text.joined comma ((values.map Prod.fst).map quoted) ++
    (") VALUES (".toList ++ (Text.joined comma (placeholders (values.map Prod.snd) 1) ++ [')'])))

theorem readValues_valuesClause {values : List (String × Param)} (more : values ≠ [])
    (rest : List Char) :
    readValues (values.map Prod.snd) (valuesClause values ++ rest) = some (values, rest) := by
  have columns : ∀ tail, readSome readName comma
      (Text.joined comma ((values.map Prod.fst).map quoted) ++ (") VALUES (".toList ++ tail)) =
        some (values.map Prod.fst, ") VALUES (".toList ++ tail) := fun tail =>
    readSome_joined comma (List.cons_ne_nil _ _) closes_comma (reads_names _)
      (by simpa using more) (closes_bracket _) rfl
  have params : readSome (readPlaceholder (values.map Prod.snd)) comma
      (Text.joined comma (placeholders (values.map Prod.snd) 1) ++ ')' :: rest) =
        some (values.map Prod.snd, ')' :: rest) :=
    readSome_joined comma (List.cons_ne_nil _ _) closes_comma (reads_placeholders List.prefix_rfl)
      (placeholders_ne_nil (by simpa using more) 1) (closes_bracket rest) rfl
  have paired := List.zip_unzip values
  rw [List.unzip_eq_map] at paired
  have text : valuesClause values ++ rest =
      " (".toList ++ (Text.joined comma ((values.map Prod.fst).map quoted) ++
        (") VALUES (".toList ++ (Text.joined comma (placeholders (values.map Prod.snd) 1) ++
          ')' :: rest))) := by
    simp only [valuesClause, List.append_assoc, List.singleton_append]
  have listed : (valuesClause values ++ rest).dropPrefix? " DEFAULT VALUES".toList = none := rfl
  simp only [readValues, listed]
  simp only [text, dropPrefix?_append, columns, params, dropPrefix?_cons, paired,
    Option.bind_eq_bind, Option.bind_some]

theorem readInsert_compile (table : String) (values : List (String × Param)) :
    readInsert (compile (.insert table values)).params (compile (.insert table values)).text =
      some (.insert table values) := by
  by_cases none : values = []
  · subst none
    have text : (compile (.insert table [])).text = "INSERT INTO ".toList ++
        (quoted table ++ (" DEFAULT VALUES".toList ++ returning)) := by
      unfold compile
      simp only [if_true, List.append_assoc]
    have name := reads_quoted table (" DEFAULT VALUES".toList ++ returning) (closes_blank _)
    rw [text]
    simp only [readInsert, readValues, dropPrefix?_append, name, Option.bind_eq_bind,
      Option.bind_some, if_true]
  · have text : (compile (.insert table values)).text = "INSERT INTO ".toList ++
        (quoted table ++ (valuesClause values ++ returning)) := by
      unfold compile valuesClause
      simp only [if_neg none, List.append_assoc, List.map_map]
      rfl
    have name := reads_quoted table (valuesClause values ++ returning) (closes_blank _)
    have found : readValues (compile (.insert table values)).params
        (valuesClause values ++ returning) = some (values, returning) :=
      readValues_valuesClause none returning
    rw [text]
    simp only [readInsert, dropPrefix?_append, name, found, Option.bind_eq_bind,
      Option.bind_some, if_true]

/-! ## Statements -/

/-- The reader gets every statement back. -/
theorem read_compile (statement : Statement) :
    read (compile statement) = some statement.essence := by
  cases statement with
  | select selection =>
      rw [read, readSelection_compile]
      rfl
  | insert table values =>
      have selection : readSelection (compile (.insert table values)).params
        (compile (.insert table values)).text = none := rfl
      rw [read, selection, readInsert_compile]
      rfl
  | update table assignments touch conditions =>
      have selection : readSelection (compile (.update table assignments touch conditions)).params
        (compile (.update table assignments touch conditions)).text = none := rfl
      have insert : readInsert (compile (.update table assignments touch conditions)).params
        (compile (.update table assignments touch conditions)).text = none := rfl
      rw [read, selection, insert, readUpdate_compile]
      rfl
  | delete table conditions =>
      have selection : readSelection (compile (.delete table conditions)).params
        (compile (.delete table conditions)).text = none := rfl
      have insert : readInsert (compile (.delete table conditions)).params
        (compile (.delete table conditions)).text = none := rfl
      have update : readUpdate (compile (.delete table conditions)).params
        (compile (.delete table conditions)).text = none := rfl
      rw [read, selection, insert, update, readDelete_compile]
      rfl

/-- The text of a counting read leaves out its projection, order and limit. -/
theorem compile_essence (statement : Statement) :
    compile statement.essence = compile statement := by
  cases statement with
  | select selection =>
      rcases selection with ⟨table, projection, conditions, order, limit, counting⟩
      cases counting <;> rfl
  | insert table values => rfl
  | update table assignments touch conditions => rfl
  | delete table conditions => rfl

theorem Compiled.eq_of_sql {first second : Compiled} (sql : first.sql = second.sql)
    (params : first.params = second.params) : first = second := by
  rcases first with ⟨text, values⟩
  rcases second with ⟨otherText, otherValues⟩
  have sameText : text = otherText := String.ofList_inj.mp sql
  have sameValues : values = otherValues := params
  rw [sameText, sameValues]

/-- SQL text and values say a statement.  They are read back as it, and two
statements have the same text and values only if they are the same but for what
a counting read does not use. -/
theorem sql_says_statement (first second : Statement) :
    read (compile first) = some first.essence ∧
      ((compile first).sql = (compile second).sql ∧
          (compile first).params = (compile second).params ↔
        first.essence = second.essence) := by
  refine ⟨read_compile first, ?_, ?_⟩
  · rintro ⟨sql, params⟩
    have read := congrArg read (Compiled.eq_of_sql sql params)
    rw [read_compile, read_compile] at read
    exact Option.some.inj read
  · intro same
    have compiled := congrArg compile same
    rw [compile_essence, compile_essence] at compiled
    rw [compiled]
    exact ⟨rfl, rfl⟩

example : (compile (.delete "a\" WHERE \"b" [])).sql =
    "DELETE FROM \"a\"\" WHERE \"\"b\" RETURNING *" := by
  rfl

end Sql
end RowGate
