import RowGate.Proofs.Auth.Admission
import RowGate.Proofs.Auth.Contents
import RowGate.Proofs.Plan.Request
import RowGate.Proofs.Store.Outcome

namespace RowGate

/-!
# Who may sign in

The look-up of a sign-in never reads its text as a filter: the text is bound as
it is, under one equality.  On a column of texts it finds the first row whose
cell is that very text.  The caller is admitted as this row or not at all, and
without the column of the hash, which is in nothing that is answered or kept.
-/

namespace Auth

variable {σ τ : Type} [KeyStore τ]

/-! ## The look-up -/

/-- The read of the first row that has a bound value in a column. -/
def lookupSelection (table column : String) (bound : Json × ColumnType) : Selection where
  table := table
  projection := .all
  conditions := [⟨column, ⟨.eq, false⟩, ⟨bound.1, bound.2⟩⟩]
  order := none
  limit := some 1
  counting := false

theorem select_lookup (catalog : Catalog) (options : SessionOptions) (column value : String) :
    Plan.select catalog (lookupRequest options column value) =
      (Plan.table catalog options.profilesTable).bind fun table =>
        (catalog.coerce table column (.string value)).map fun bound =>
          .select (lookupSelection table column bound) :=
  Plan.select_equal catalog options.profilesTable column (.string value) (some 1)

theorem head?_selectRows (rows : List Row) (table column : String) (bound : Json × ColumnType) :
    (Memory.selectRows rows (lookupSelection table column bound)).head? =
      rows.find? fun row => row.satisfies [⟨column, ⟨.eq, false⟩, ⟨bound.1, bound.2⟩⟩] := by
  have whole : Memory.project .all = id := rfl
  simp only [Memory.selectRows, lookupSelection, Memory.sorted, Memory.limited, whole,
    Bool.false_eq_true, if_false, List.map_id, List.head?_take, List.head?_filter]
  rfl

/-- The first row, in the order of the table, whose cell in a column is a given
text. -/
def firstWith (rows : List Row) (column identifier : String) : Option Row :=
  rows.find? fun row => row.get? column == some (.string identifier)

/-- The look-up in a column of texts finds the first row with the text that the
caller gives, whatever the text looks like. -/
theorem profileFor_text {service : Service Memory} {options : SessionOptions}
    {credentials : Credentials} {table column identifier : String} {declared : Column}
    (shared : service.store.catalog = service.catalog) (opened : service.store.closed = false)
    (named : Plan.table service.catalog options.profilesTable = .ok table)
    (sought : credentials.lookup = .ok (column, identifier))
    (listed : service.catalog.column table column = .ok declared) (text : declared.type = .text) :
    profileFor service options credentials =
      (firstWith (service.store.rows table) column identifier).elim (.error .userNotFound) .ok := by
  have bound : service.catalog.coerce table column (.string identifier) =
      .ok (.string identifier, .text) := by
    rw [Catalog.coerce, listed]
    simp [Except.bind, text, ColumnType.coerce?]
  have planned : Plan.select service.catalog (lookupRequest options column identifier) =
      .ok (.select (lookupSelection table column (.string identifier, .text))) := by
    rw [select_lookup, named]
    simp [Except.bind, bound, Except.map]
  rcases Plan.table_eq_ok.mp named with ⟨_, _, found, known⟩
  have executed : (service.store.execute
      (.select (lookupSelection table column (.string identifier, .text)))).1 =
        .ok (Memory.selectRows (service.store.rows table)
          (lookupSelection table column (.string identifier, .text))) := by
    rw [Memory.execute_select, opened, shared, lookupSelection]
    simp [Catalog.table_eq_ok.mp known]
  have returned : (lookUp service options column identifier).1 =
      .ok (Memory.selectRows (service.store.rows table)
        (lookupSelection table column (.string identifier, .text))) := by
    rw [lookUp_fst, planned]
    exact congrArg (Except.mapError StoreError.toFailure) executed
  rw [profileFor, sought]
  simp only [Except.bind, returned, head?_selectRows, Row.satisfies_text, firstWith]
  cases (service.store.rows table).find? fun row =>
    row.get? column == some (.string identifier) <;> rfl

/-! ## The verdict -/

theorem verifies_eq_true_iff {verify : String → String → Bool} {hash : Option Json}
    {password : Option String} :
    verifies verify hash password = true ↔
      ∃ stored given, hash = some (.string stored) ∧ password = some given ∧
        verify given stored = true := by
  unfold verifies
  cases hash with
  | none => simp
  | some cell =>
      cases password with
      | none => simp
      | some given => cases cell <;> simp [Json.asString?]

/-- The answer to a sign-in, member by member. -/
theorem sessionAnswer_eq (session : Session) :
    sessionAnswer session =
      .ofValue (.object [("session", .object [("access_token", .string session.token),
          ("expires_at", Json.ofInt session.expiresAt),
          ("user", session.user.canonical.toJson)]),
        ("user", session.user.canonical.toJson)]) 1 := by
  have token : "access_token" < "user" := by decide +kernel
  have ending : "expires_at" < "user" ∧ ¬ "expires_at" < "access_token" := by decide +kernel
  have whole : "session" < "user" := by decide +kernel
  simp [sessionAnswer, Session.toJson, Json.ofInt, Json.canonical, Json.canonicalMembers,
    session.user.canonical_toJson, Entries.arrange, Entries.insert, token, ending, whole]

/-- A caller is admitted as the profile that is found without its hash, or not at
all. -/
theorem admission_of_profile [Store σ] {service : Service σ} {options : SessionOptions}
    {credentials : Credentials} {passwordColumn : String} {row : Row}
    (secured : options.passwordColumn = some passwordColumn)
    (found : profileFor service options credentials = .ok row)
    (verify : String → String → Bool) (now : Time.Instant) :
    admission service options verify now credentials =
      if verifies verify (row.get? passwordColumn) credentials.password then
        .ok (openSession service options now (row.erase passwordColumn)).1
      else .error .invalidCredentials := by
  simp only [admission, found, userOf, secured, Except.bind]
  split <;> rfl

/-! ## The soundness of a sign-in -/

theorem withheld (row : Row) (column : String) : (row.erase column).contains column = false := by
  simp [Keyed.contains_erase]

/-- With a column of hashes, a caller is signed in only as the first row whose
cell is the text given, only if the password given verifies against the text in
its hash column, and without that column in what is answered and kept.  Where
there is no such row, or it does not verify, nothing is kept. -/
theorem sign_in_sound (service : Service Memory) (keys : Option τ) (options : SessionOptions)
    (verify : String → String → Bool) (now : Time.Instant) (credentials : Credentials)
    {table column identifier passwordColumn : String} {declared : Column}
    (shared : service.store.catalog = service.catalog) (opened : service.store.closed = false)
    (named : Plan.table service.catalog options.profilesTable = .ok table)
    (sought : credentials.lookup = .ok (column, identifier))
    (listed : service.catalog.column table column = .ok declared) (text : declared.type = .text)
    (secured : options.passwordColumn = some passwordColumn) :
    let outcome := signIn service keys options verify now credentials
    let profile := firstWith (service.store.rows table) column identifier
    (profile = none → outcome.1 = .failed .userNotFound ∧ outcome.2.2 = keys) ∧
      (∀ row, profile = some row →
        verifies verify (row.get? passwordColumn) credentials.password = false →
          outcome.1 = .failed .invalidCredentials ∧ outcome.2.2 = keys) ∧
      (outcome.1.succeeded = true → ∃ row hash password, ∃ session : Session,
        profile = some row ∧ row.get? passwordColumn = some (.string hash) ∧
          credentials.password = some password ∧ verify password hash = true ∧
          session.user = row.erase passwordColumn ∧
          session.user.canonical.contains passwordColumn = false ∧
          persist keys session = (.ok (), outcome.2.2) ∧
          outcome.1 = .ofValue (.object [
            ("session", .object [("access_token", .string session.token),
              ("expires_at", Json.ofInt session.expiresAt),
              ("user", session.user.canonical.toJson)]),
            ("user", session.user.canonical.toJson)]) 1) ∧
      ∀ (contents : Contents τ) (key : String),
        contents.at? outcome.2.2 key = contents.at? keys key ∨
          ∃ row, ∃ session : Session, profile = some row ∧
            session.user = row.erase passwordColumn ∧
            session.user.contains passwordColumn = false ∧
            (key = sessionKey ∧ contents.at? outcome.2.2 key = some session.toJson.render ∨
              key = userKey ∧ contents.at? outcome.2.2 key = some session.user.toJson.render) := by
  intro outcome profile
  have looked : profileFor service options credentials =
      profile.elim (.error .userNotFound) .ok :=
    profileFor_text shared opened named sought listed text
  cases found : profile with
  | none =>
      have refused : admission service options verify now credentials = .error .userNotFound := by
        rw [admission, looked, found]
        rfl
      rcases signIn_of_refused refused keys with ⟨answer, left⟩
      refine ⟨fun _ => ⟨answer, left⟩, ?_, ?_, fun contents key => .inl (by rw [left])⟩
      · rintro _ ⟨⟩
      · intro succeeded
        rw [answer] at succeeded
        cases succeeded
  | some row =>
      rw [found] at looked
      have verdict := admission_of_profile secured looked verify now
      cases verified : verifies verify (row.get? passwordColumn) credentials.password with
      | false =>
          rw [verified] at verdict
          rcases signIn_of_refused verdict keys with ⟨answer, left⟩
          refine ⟨?_, ?_, ?_, fun contents key => .inl (by rw [left])⟩
          · rintro ⟨⟩
          · rintro _ ⟨⟩ _
            exact ⟨answer, left⟩
          · intro succeeded
            rw [answer] at succeeded
            cases succeeded
      | true =>
          rw [verified] at verdict
          rcases signIn_of_admitted verdict keys with ⟨answer, left⟩
          refine ⟨?_, ?_, ?_, ?_⟩
          · rintro ⟨⟩
          · rintro _ ⟨⟩ wrong
            rw [verified] at wrong
            cases wrong
          · intro succeeded
            rcases verifies_eq_true_iff.mp verified with ⟨hash, password, cell, given, accepted⟩
            rw [answer] at succeeded
            have kept := kept_of_succeeded succeeded
            refine ⟨row, hash, password,
              (openSession service options now (row.erase passwordColumn)).1, rfl, cell, given,
              accepted, rfl, ?_, Prod.ext kept left.symm, ?_⟩
            · rw [Row.contains_canonical]
              exact withheld row passwordColumn
            · exact answer.trans ((deliver_of_kept kept).trans (sessionAnswer_eq _))
          · intro contents key
            rw [left]
            rcases contents.at?_persist keys
              (openSession service options now (row.erase passwordColumn)).1 key with
              same | written
            · exact .inl same
            · exact .inr ⟨row, _, rfl, rfl, withheld row passwordColumn, written⟩

/-- An address that looks like a filter is an address. -/
theorem filter_like_address_signs_in :
    let service := Service.ofProfiles
      [.ofList [("email", .string "x"), ("hash", .string "g")],
        .ofList [("email", .string "neq.x"), ("hash", .string "h")]]
    let outcome := signIn service (some MemoryKeys.empty) ⟨"profiles", some "hash", 86400000⟩
      (fun password hash => password == hash) (.ofMillis 0) ⟨some "neq.x", none, some "h"⟩
    outcome.1.succeeded = true ∧ ∃ row : Row, ∃ session : Session,
      row.get? "email" = some (.string "neq.x") ∧ session.user = row.erase "hash" ∧
        session.user.canonical.contains "hash" = false ∧
        persist (some MemoryKeys.empty) session = (.ok (), outcome.2.2) := by
  intro service outcome
  have named : Plan.table service.catalog "profiles" = .ok "profiles" := by decide +kernel
  have listed : service.catalog.column "profiles" "email" = .ok ⟨"email", .text, true⟩ := by
    decide +kernel
  have succeeded : outcome.1.succeeded = true := by decide +kernel
  rcases sign_in_sound service (some MemoryKeys.empty) ⟨"profiles", some "hash", 86400000⟩
    (fun password hash => password == hash) (.ofMillis 0) ⟨some "neq.x", none, some "h"⟩ rfl rfl
    named rfl listed rfl rfl with ⟨_, _, admitted, _⟩
  rcases admitted succeeded with
    ⟨row, _, _, session, found, _, _, _, user, absent, kept, _⟩
  have address : row.get? "email" = some (.string "neq.x") := by
    simpa using List.find?_some found
  dsimp only [outcome]
  exact ⟨succeeded, row, session, address, user, absent, kept⟩

end Auth
end RowGate
