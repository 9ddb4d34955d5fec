import RowGate.Proofs.Identifier
import RowGate.Proofs.Plan.Soundness
import RowGate.Proofs.Schema.Forms
import RowGate.Proofs.Service.WriteScope
import RowGate.Proofs.Store.Keys

namespace RowGate

/-!
# Types in the store

In every state that a service reaches, each row belongs to a listed table, has
the declared columns of that table and no others, keeps in each of them a value
in the form of the column, and leaves no column empty that needs a value.

An insert starts from a row of nulls, and every cell that a statement of the
planner writes has gone through the type of its column.  The one value that has
not is the stamp of a touch where the clock lags: the store takes the time out
of one column and writes its text into another, whose type may be different.
That column has stored a text with a time before, so its type is one for texts,
for documents or for times, and each of these has the text of any time among its
values.  A column of identifiers is none of them, as the text of an identifier
is never read as a time.
-/

/-! ## Rows of a table -/

namespace Table

/-- A value may stand in a column: the type of the column makes it of some
value.  Null is what every type makes of null. -/
def Stores (table : Table) (name : String) (value : Json) : Prop :=
  ∃ column, table.column? name = some column ∧ ∃ given, column.type.coerce? given = some value

/-- The columns of a row are the declared ones, and each holds a value that may
stand there. -/
structure Fits (table : Table) (row : Row) : Prop where
  keys : ∀ name, row.contains name = table.declares name
  cells : ∀ name value, row.get? name = some value → table.Stores name value

/-- A row that fits, with a value wherever one is needed. -/
structure Holds (table : Table) (row : Row) : Prop extends table.Fits row where
  filled : ∀ column ∈ table.columns, column.nullable = false → row.isAbsent column.name = false

variable {table : Table} {row : Row}

theorem Stores.declares {name : String} {value : Json} (stores : table.Stores name value) :
    table.declares name = true := by
  rcases stores with ⟨column, found, _⟩
  rw [Table.declares, found, Option.isSome_some]

theorem Binds.stores {name : String} {param : Param} (binds : table.Binds name param) :
    table.Stores name param.value := by
  rcases binds with ⟨column, found, _, given, coerced⟩
  exact ⟨column, found, given, coerced⟩

/-! ## Writing cells -/

theorem Fits.insert (fits : table.Fits row) {name : String} {value : Json}
    (stores : table.Stores name value) : table.Fits (row.insert name value) := by
  constructor
  · intro wanted
    rw [Keyed.contains_insert, fits.keys]
    by_cases here : wanted = name
    · simp [here, stores.declares]
    · simp [here]
  · intro wanted found read
    rw [Keyed.get?_insert] at read
    split at read
    · next here =>
      cases read
      rw [here]
      exact stores
    · exact fits.cells wanted found read

theorem Fits.insertAll (fits : table.Fits row) {values : List (String × Param)}
    (admitted : table.AdmitsValues values) :
    table.Fits (row.insertAll (values.map fun value => (value.1, value.2.value))) := by
  induction values generalizing row with
  | nil => exact fits
  | cons value rest inductionHypothesis =>
      rcases List.forall_mem_cons.mp admitted with ⟨first, others⟩
      exact inductionHypothesis (fits.insert first.stores) others

/-- The row that an insert starts from. -/
theorem fits_blank (table : Table) :
    table.Fits (Keyed.ofList (table.columns.map fun column => (column.name, Json.null))) := by
  have keys : ∀ wanted,
      (Keyed.ofList (table.columns.map fun column => (column.name, Json.null))).contains wanted =
        table.declares wanted := by
    intro wanted
    rw [Keyed.contains_ofList, List.any_map, declares, column?, List.isSome_find?]
    rfl
  constructor
  · exact keys
  · intro wanted value read
    rcases List.mem_map.mp (Keyed.mem_of_get?_ofList read) with ⟨_, _, same⟩
    have null : value = .null := (Prod.mk.inj same).2.symm
    subst null
    have declared : table.declares wanted = true := by
      rw [← keys, Keyed.contains, read]
      rfl
    rcases Option.isSome_iff_exists.mp declared with ⟨column, found⟩
    exact ⟨column, found, .null, by cases column.type <;> rfl⟩

end Table

/-! ## The stamp of a touch -/

namespace ColumnType

theorem instant?_eq_none_of_form_uuid {value : Json} (form : uuid.Form value) :
    value.instant? = none := by
  cases form with
  | null => rfl
  | uuid id => exact Time.read?_uuid id

/-- A type that stores a text with a time stores the text of every time that is
read from a text. -/
theorem exists_coerce?_text {type : ColumnType} {given stored : Json} {stamp : Time.Instant}
    (coerced : type.coerce? given = some stored) (timed : stored.instant? = some stamp)
    {value : Json} {t : Time.Instant} (read : value.instant? = some t) :
    ∃ other, type.coerce? other = some (.string t.text) := by
  have form := form_of_coerce? coerced
  cases type with
  | text => exact ⟨.string t.text, rfl⟩
  | json => exact ⟨.string t.text, rfl⟩
  | timestamp =>
      refine ⟨value, ?_⟩
      cases value with
      | string s =>
          have seen : Time.read? s = some t := read
          rw [coerce?, seen, Option.map_some]
      | null | bool b | number n | array items | object members => cases read
  | uuid =>
      rw [instant?_eq_none_of_form_uuid form] at timed
      cases timed
  | integer | numeric | boolean =>
      cases form <;> cases timed

end ColumnType

/-! ## Rows of the store -/

theorem Plan.Issues.sound {catalog : Catalog} {statement : Statement}
    (issued : Plan.Issues catalog statement) : statement.Sound catalog := by
  rcases issued with ⟨request, _, planned⟩
  cases request with
  | read request => exact Plan.sound_select planned
  | insert table row => exact Plan.sound_insert planned
  | update table predicates patch stamp => exact Plan.sound_update planned
  | delete table predicates => exact Plan.sound_delete planned

namespace Memory

variable {catalog : Catalog} {name : String} {table : Table}

/-- What a touch writes may stand in its column, whichever of the two times it
is. -/
theorem stores_stampFor {touch : Touch} (admitted : table.AdmitsTouch touch) (row : Row) :
    table.Stores touch.column (stampFor touch row) := by
  unfold stampFor
  split
  · next stamp floor bound stored =>
    split
    · rcases admitted.1 with ⟨column, found, _, given, coerced⟩
      rcases Option.bind_eq_some_iff.mp stored with ⟨value, _, read⟩
      exact ⟨column, found, ColumnType.exists_coerce?_text coerced bound read⟩
    · exact admitted.1.stores
  · exact admitted.1.stores

/-! ## Rows that are written -/

theorem fits_insertedRow {values : List (String × Param)} (admitted : table.AdmitsValues values) :
    table.Fits (insertedRow table values) :=
  table.fits_blank.insertAll admitted

theorem fits_updatedRow {row : Row} {assignments : List (String × Param)} {touch : Option Touch}
    (fits : table.Fits row) (admitted : table.AdmitsValues assignments)
    (touched : ∀ stamp ∈ touch, table.AdmitsTouch stamp) :
    table.Fits (updatedRow assignments touch row) := by
  have assigned := fits.insertAll admitted
  cases touch with
  | none => exact assigned
  | some stamp => exact assigned.insert (stores_stampFor (touched stamp rfl) row)

theorem checkRow_eq_ok {row : Row} :
    checkRow name table row = .ok () ↔
      ∀ column ∈ table.columns, column.nullable = false → row.isAbsent column.name = false := by
  have passed : checkRow name table row = .ok () ↔
      table.columns.find? (violatesNotNull row) = none := by
    unfold checkRow
    split
    · next none => simp [none]
    · next column found => simp [found]
  rw [passed, List.find?_eq_none]
  simp [violatesNotNull]

theorem checkRow_of_run_update {rows answer after : List Row}
    {assignments : List (String × Param)} {touch : Option Touch} {conditions : List Condition}
    (done : run table rows (.update name assignments touch conditions) = .ok (answer, after))
    {row : Row} (member : row ∈ rows) (matching : row.satisfies conditions = true) :
    checkRow name table (updatedRow assignments touch row) = .ok () := by
  rcases Fallible.bind_eq_ok.mp done with ⟨revised, all, _⟩
  rcases List.getElem_of_mem member with ⟨place, inside, rfl⟩
  have placed : (rows[place], place) ∈ rows.zipIdx := by
    rw [List.mem_zipIdx_iff_getElem?]
    exact List.getElem?_eq_getElem inside
  rcases Fallible.exists_mapM_eq_ok_iff.mp ⟨revised, all⟩ _ placed with ⟨_, revision⟩
  unfold revise at revision
  rw [if_neg (by simp [matching])] at revision
  rcases Fallible.bind_eq_ok.mp revision with ⟨_, checked, _⟩
  exact checked

/-! ## Statements -/

theorem holds_run {statement : Statement} {rows answer after : List Row}
    (conforms : statement.Conforms table) (held : ∀ row ∈ rows, table.Holds row)
    (done : run table rows statement = .ok (answer, after)) : ∀ row ∈ after, table.Holds row := by
  cases statement with
  | select selection =>
      cases done
      exact held
  | insert target values =>
      rcases Fallible.bind_eq_ok.mp done with ⟨_, checked, done⟩
      rcases Fallible.bind_eq_ok.mp done with ⟨_, _, done⟩
      cases done
      intro row member
      rcases List.mem_append.mp member with before | added
      · exact held row before
      · rw [List.mem_singleton.mp added]
        exact ⟨fits_insertedRow conforms, checkRow_eq_ok.mp checked⟩
  | update target assignments touch conditions =>
      rcases conforms with ⟨admitted, touched, _⟩
      rw [(run_update_eq_ok done).1]
      intro row member
      rcases List.mem_map.mp member with ⟨old, before, rfl⟩
      unfold rewritten
      split
      · next matching =>
        have checked := checkRow_of_run_update done before matching
        exact ⟨fits_updatedRow (held old before).toFits admitted touched,
          checkRow_eq_ok.mp checked⟩
      · exact held old before
  | delete target conditions =>
      cases done
      intro row member
      exact held row (List.mem_filter.mp member).1

/-- Every row of the store belongs to a listed table, which holds it. -/
structure WellTyped (catalog : Catalog) (memory : Memory) : Prop where
  sameCatalog : memory.catalog = catalog
  rows : ∀ name, ∀ row ∈ memory.rows name,
    ∃ declared, catalog.tables.get? name = some declared ∧ declared.Holds row

theorem wellTyped_execute {memory : Memory} {statement : Statement}
    (typed : memory.WellTyped catalog) (sound : statement.Sound catalog) :
    (memory.execute statement).2.WellTyped catalog := by
  refine ⟨(memory.catalog_execute statement).trans typed.sameCatalog, ?_⟩
  intro name row member
  rcases mem_rows_execute member with before | ⟨rfl, table, answer, after, listed, done, written⟩
  · exact typed.rows name row before
  · rcases sound with ⟨declared, found, conforms⟩
    rw [typed.sameCatalog] at listed
    cases listed.symm.trans found
    have held : ∀ row ∈ memory.rows statement.table, table.Holds row := by
      intro row before
      rcases typed.rows _ row before with ⟨other, same, holds⟩
      cases found.symm.trans same
      exact holds
    exact ⟨table, found, holds_run conforms held done row written⟩

end Memory

/-! ## The main statement -/

variable {κ : Type}

/-- Whatever calls are made, every row in the store belongs to a listed table
and has exactly its columns, each with a value in the form of the column, and
none empty that needs a value. -/
theorem rows_well_typed [Auth.KeyStore κ] (catalog : Catalog) (auditTable : String)
    (journal : Journal) (random : Random) (calls : List (Time.Instant × Call κ)) (name : String)
    (row : Row)
    (stored : row ∈ ((Service.start (Memory.ofCatalog catalog) catalog auditTable journal
      random).serveAll calls).2.store.rows name) :
    ∃ declared, catalog.tables.get? name = some declared ∧ declared.Holds row := by
  have fresh : (Memory.ofCatalog catalog).WellTyped catalog := by
    refine ⟨rfl, ?_⟩
    intro name row member
    rw [Memory.rows_ofCatalog] at member
    exact absurd member List.not_mem_nil
  have typed : ((Service.start (Memory.ofCatalog catalog) catalog auditTable journal
      random).serveAll calls).2.store.WellTyped catalog := by
    apply Service.invariant_serveAll
    · intro memory statement before issued
      exact Memory.wellTyped_execute before issued.sound
    · intro memory before
      exact ⟨before.sameCatalog, before.rows⟩
    · exact fresh
  exact typed.rows name row stored

/-- The times of a table of notes: that of creation is a document, that of
change a text. -/
def Catalog.notes : Catalog :=
  Catalog.empty.insertTable "notes"
    ⟨[⟨"id", .uuid, false⟩, ⟨"created_at", .json, true⟩, ⟨"updated_at", .text, true⟩]⟩

/-- A note that is made with a time of creation that the clock has not reached
when the note is changed. -/
def Call.early : List (Time.Instant × Call Auth.MemoryKeys) :=
  [(.ofMillis 0, .insert "notes" (.object
      [("id", .string "urn:uuid:0F0E0D0C-0B0A-0908-0706-050403020100"),
        ("created_at", .string " 2024-05-01T10:00:00+02:00")])),
    (.ofMillis 0, .update "notes"
      [⟨"id", "eq", .string "0f0e0d0c0b0a09080706050403020100"⟩] (.object
        [("id", .string "0F0E0D0C-0B0A-0908-0706-050403020101")]))]

/-- The time of change becomes the text of the time that the document has. -/
theorem early_stamp_well_typed :
    let row : Row := .ofList
      [("created_at", .string " 2024-05-01T10:00:00+02:00"),
        ("id", .string "0f0e0d0c-0b0a-0908-0706-050403020101"),
        ("updated_at", .string "2024-05-01T08:00:00.000Z")]
    row ∈ ((Service.start (Memory.ofCatalog .notes) .notes Service.defaultAuditTable .empty
        ⟨fun _ => 0, 0⟩).serveAll Call.early).2.store.rows "notes" ∧
      ∃ declared, Catalog.notes.tables.get? "notes" = some declared ∧ declared.Holds row := by
  intro row
  have stored : row ∈ ((Service.start (Memory.ofCatalog .notes) .notes
      Service.defaultAuditTable .empty ⟨fun _ => 0, 0⟩).serveAll Call.early).2.store.rows
        "notes" := by
    decide +kernel
  exact ⟨stored, rows_well_typed .notes Service.defaultAuditTable .empty ⟨fun _ => 0, 0⟩
    Call.early "notes" row stored⟩

end RowGate
