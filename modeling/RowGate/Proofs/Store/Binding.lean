import RowGate.Proofs.Plan.Soundness
import RowGate.Proofs.Schema.Forms
import RowGate.Store.Postgres

namespace RowGate

/-!
# Binding planned values

The planner brings every value into the form of its column, and the database
binds a value by reading it again as the type of its column.  The two agree on
all forms but one: the text of a time in a signed year can be planned, but it is
neither stored again nor bound.

The main statement is exact.  It gives, for a stored value and for a whole
planned statement, the condition under which nothing fails at binding.
-/

/-! ## One parameter -/

namespace Wire

theorem value?_ofInt {i : Int} (fits : ColumnType.inRange i = true) :
    value? ⟨.ofInt i, .integer⟩ = some (.int8 i) := by
  have written : (Json.ofInt i).asInt?.filter ColumnType.inRange = some i := by
    rw [Json.ofInt, Json.asInt?, Json.Number.plainInt?_ofInt, Option.filter_some, if_pos fits]
  simp only [value?, written, Option.map_some]

theorem value?_uuid (id : Uuid) : value? ⟨.string id.text, .uuid⟩ = some (.uuid id) := by
  simp only [value?, Json.asString?, Option.bind_some, id.read?_text, Option.map_some]

theorem value?_timestamp (t : Time.Instant) :
    value? ⟨.string t.text, .timestamp⟩ =
      if t.IsPlain then some (.timestamptz t.truncated) else none := by
  simp only [value?, Json.instant?, Json.asString?, Option.bind_some]
  split
  · next plain => rw [Time.read?_text_of_isPlain plain, Option.map_some]
  · next signed => rw [Time.read?_text_of_not_isPlain signed, Option.map_none]

theorem bind?_eq_map {param : Param} (filled : param.value.isNull = false) :
    bind? param = (value? param).map fun value => ⟨.ofColumn param.type, some value.bytes⟩ := by
  rw [bind?, filled, if_neg Bool.false_ne_true]

theorem exists_bind?_of_value? {param : Param} {value : Value}
    (fits : value? param = some value) : ∃ argument, bind? param = some argument := by
  cases null : param.value.isNull with
  | true => exact ⟨_, by rw [bind?, null, if_pos rfl]⟩
  | false => exact ⟨_, by rw [bind?_eq_map null, fits, Option.map_some]⟩

theorem exists_bind?_iff_of_ne {type : ColumnType} {value : Json} {sent : Value}
    (other : type ≠ .timestamp) (fits : value? ⟨value, type⟩ = some sent) :
    (∃ argument, bind? ⟨value, type⟩ = some argument) ↔ ¬ type.IsSigned value :=
  iff_of_true (exists_bind?_of_value? fits) (ColumnType.not_isSigned_of_ne other value)

/-- A stored value is bound unless it is a time in a signed year. -/
theorem exists_bind?_iff {type : ColumnType} {value : Json} (form : type.Form value) :
    (∃ argument, bind? ⟨value, type⟩ = some argument) ↔ ¬ type.IsSigned value := by
  cases form with
  | null => exact iff_of_true ⟨_, rfl⟩ (ColumnType.not_isSigned_null type)
  | text s => exact exists_bind?_iff_of_ne (by decide) rfl
  | integer i fits => exact exists_bind?_iff_of_ne (by decide) (value?_ofInt fits)
  | numeric n => exact exists_bind?_iff_of_ne (by decide) rfl
  | boolean b => exact exists_bind?_iff_of_ne (by decide) rfl
  | uuid id => exact exists_bind?_iff_of_ne (by decide) (value?_uuid id)
  | json value => exact exists_bind?_iff_of_ne (by decide) rfl
  | timestamp t =>
      have fits := value?_timestamp t
      rw [ColumnType.isSigned_timestamp_iff, not_not]
      by_cases plain : t.IsPlain
      · rw [if_pos plain] at fits
        exact iff_of_true (exists_bind?_of_value? fits) plain
      · rw [if_neg plain] at fits
        refine iff_of_false ?_ plain
        rintro ⟨argument, bound⟩
        rw [bind?_eq_map rfl, fits] at bound
        cases bound

end Wire

/-! ## All parameters of a statement -/

namespace Table

variable {table : Table}

theorem Binds.form {column : String} {param : Param} (binds : table.Binds column param) :
    param.type.Form param.value := by
  rcases binds with ⟨declared, _, type, given, coerced⟩
  rw [type]
  exact ColumnType.form_of_coerce? coerced

theorem form_of_admitsConditions {conditions : List Condition} {param : Param}
    (admitted : table.AdmitsConditions conditions)
    (member : param ∈ Sql.conditionParams conditions) : param.type.Form param.value := by
  rcases List.mem_map.mp member with ⟨condition, inside, rfl⟩
  exact (admitted condition inside).form

theorem form_of_admitsValues {values : List (String × Param)} {param : Param}
    (admitted : table.AdmitsValues values) (member : param ∈ values.map Prod.snd) :
    param.type.Form param.value := by
  rcases List.mem_map.mp member with ⟨value, inside, rfl⟩
  exact (admitted value inside).form

end Table

/-- Every parameter of a sound statement has the form of its type. -/
theorem Statement.Sound.form {catalog : Catalog} {statement : Statement}
    (sound : statement.Sound catalog) :
    ∀ param ∈ (Sql.compile statement).params, param.type.Form param.value := by
  intro param member
  rcases sound with ⟨table, _, conforms⟩
  cases statement with
  | select selection => exact Table.form_of_admitsConditions conforms.2.1 member
  | insert name values => exact Table.form_of_admitsValues conforms member
  | update name assignments touch conditions =>
      rcases conforms with ⟨values, touches, restricts, _⟩
      rcases List.mem_append.mp member with assigned | compared
      · rcases List.mem_append.mp assigned with given | stamped
        · exact Table.form_of_admitsValues values given
        · rcases Option.mem_map.mp (Option.mem_toList.mp stamped) with ⟨stamp, touched, rfl⟩
          exact (touches stamp touched).1.form
      · exact Table.form_of_admitsConditions restricts compared
  | delete name conditions => exact Table.form_of_admitsConditions conforms member

namespace Postgres

theorem exists_bind_iff {params : List Param} :
    (∃ arguments, bind params = .ok arguments) ↔
      ∀ param ∈ params, ∃ argument, Wire.bind? param = some argument := by
  refine Fallible.exists_mapM_eq_ok_iff.trans ?_
  refine forall₂_congr fun param _ => ?_
  cases Wire.bind? param with
  | none => exact iff_of_false (by rintro ⟨_, ⟨⟩⟩) (by rintro ⟨_, ⟨⟩⟩)
  | some argument => exact iff_of_true ⟨_, rfl⟩ ⟨_, rfl⟩

theorem exists_bind_compile_iff {catalog : Catalog} {statement : Statement}
    (sound : statement.Sound catalog) :
    (∃ arguments, bind (Sql.compile statement).params = .ok arguments) ↔
      ∀ param ∈ (Sql.compile statement).params, ¬ param.type.IsSigned param.value :=
  exists_bind_iff.trans
    (forall₂_congr fun param member => Wire.exists_bind?_iff (sound.form param member))

end Postgres

/-! ## The main statement -/

/-- What a type has made of a value is stored again as it is, and is bound,
unless it is a time in a signed year; a time is read back as its last
millisecond unless its year is signed; and a planned statement is bound unless
it has a time in a signed year among its values. -/
theorem coerced_binds_iff_unsigned (type : ColumnType) (value : Json) (catalog : Catalog)
    (request : Plan.Request) :
    (∀ stored, type.coerce? value = some stored →
      (type.coerce? stored = some stored ↔ ¬ type.IsSigned stored) ∧
        ((∃ argument, Wire.bind? ⟨stored, type⟩ = some argument) ↔ ¬ type.IsSigned stored)) ∧
    (∀ t, value.instant? = some t →
      ColumnType.timestamp.coerce? value = some (.string t.text) ∧
        (Json.string t.text).instant? = if t.IsPlain then some t.truncated else none) ∧
    ∀ statement, request.plan catalog = .ok statement →
      ((∃ arguments, Postgres.bind (Sql.compile statement).params = .ok arguments) ↔
        ∀ param ∈ (Sql.compile statement).params, ¬ param.type.IsSigned param.value) := by
  refine ⟨?_, ?_, ?_⟩
  · intro stored coerced
    have form := ColumnType.form_of_coerce? coerced
    exact ⟨form.coerce?_eq_self_iff, Wire.exists_bind?_iff form⟩
  · intro t given
    refine ⟨?_, Time.read?_text t⟩
    rcases Option.bind_eq_some_iff.mp given with ⟨s, isText, read⟩
    cases value with
    | string text =>
        cases isText
        simp only [ColumnType.coerce?, read, Option.map_some]
    | null | bool b | number n | array items | object members => cases isText
  · intro statement planned
    have sound : statement.Sound catalog := by
      cases request with
      | read request => exact Plan.sound_select planned
      | insert table row => exact Plan.sound_insert planned
      | update table predicates patch stamp => exact Plan.sound_update planned
      | delete table predicates => exact Plan.sound_delete planned
    exact Postgres.exists_bind_compile_iff sound

/-- A time with an offset is stored to the millisecond, stored again as it is,
and bound, also in the insert of a row that holds it. -/
theorem offset_time_binds :
    let given : Json := .string " 2024-05-01T10:00:00.0009+02:00"
    let stored : Json := .string "2024-05-01T08:00:00.000Z"
    let insert : Statement := .insert "items" [("created_at", ⟨stored, .timestamp⟩)]
    ColumnType.timestamp.coerce? given = some stored ∧
      ColumnType.timestamp.coerce? stored = some stored ∧
      (∃ argument, Wire.bind? ⟨stored, .timestamp⟩ = some argument) ∧
      (Plan.Request.insert "items" (Keyed.empty.insert "created_at" given)).plan .items =
        .ok insert ∧
      ∃ arguments, Postgres.bind (Sql.compile insert).params = .ok arguments := by
  intro given stored insert
  have coerced : ColumnType.timestamp.coerce? given = some stored := by decide +kernel
  have again : ColumnType.timestamp.coerce? stored = some stored := by decide +kernel
  have planned : (Plan.Request.insert "items" (Keyed.empty.insert "created_at" given)).plan .items =
      .ok insert := by
    decide +kernel
  rcases coerced_binds_iff_unsigned .timestamp given .items
    (.insert "items" (Keyed.empty.insert "created_at" given)) with ⟨stores, _, plans⟩
  have unsigned := (stores stored coerced).1.mp again
  refine ⟨coerced, again, (stores stored coerced).2.mpr unsigned, planned, ?_⟩
  apply (plans insert planned).mpr
  intro param member
  rw [List.mem_singleton.mp member]
  exact unsigned

/-- A time in the year 10000 is stored under a text that is not stored again and
not bound, and the insert that holds it is planned but not bound. -/
theorem signed_year_not_bound :
    (¬ ∀ (type : ColumnType) (value stored : Json), type.coerce? value = some stored →
        type.coerce? stored = some stored) ∧
      (¬ ∀ (type : ColumnType) (value stored : Json), type.coerce? value = some stored →
        ∃ argument, Wire.bind? ⟨stored, type⟩ = some argument) ∧
      ¬ ∀ (catalog : Catalog) (request : Plan.Request) (statement : Statement),
        request.plan catalog = .ok statement →
          ∃ arguments, Postgres.bind (Sql.compile statement).params = .ok arguments := by
  have stored : ColumnType.timestamp.coerce? (.string "+10000-01-01") =
      some (.string "+10000-01-01T00:00:00.000Z") := by
    decide +kernel
  have unread : ColumnType.timestamp.coerce? (.string "+10000-01-01T00:00:00.000Z") = none := by
    decide +kernel
  have unbound : Wire.bind? ⟨.string "+10000-01-01T00:00:00.000Z", .timestamp⟩ = none := by
    decide +kernel
  have planned : (Plan.Request.insert "items"
      (Keyed.empty.insert "created_at" (.string "+10000-01-01"))).plan .items =
      .ok (.insert "items"
        [("created_at", ⟨.string "+10000-01-01T00:00:00.000Z", .timestamp⟩)]) := by
    decide +kernel
  refine ⟨?_, ?_, ?_⟩
  · intro all
    cases unread.symm.trans (all _ _ _ stored)
  · intro all
    rcases all _ _ _ stored with ⟨argument, bound⟩
    cases unbound.symm.trans bound
  · intro all
    rcases Postgres.exists_bind_iff.mp (all _ _ _ planned) _ List.mem_cons_self with
      ⟨argument, bound⟩
    cases unbound.symm.trans bound

end RowGate
