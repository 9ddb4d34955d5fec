import Mathlib.Data.List.Forall2
import RowGate.Proofs.Auth.Profiles

namespace RowGate

/-!
# What a sign-in tells about a hash

Two stores hold the same profiles but for the column of the hashes.  A look-up
that does not go through this column finds rows at the same places in both.  The
row that is found is taken to the verdict, and behind it the column is gone.  So
whatever a sign-in answers, keeps and notes depends on the hashes through the
verdict only.
-/

namespace Row

/-- The same cells but in one column. -/
def SameBut (column : String) (first second : Row) : Prop :=
  first.erase column = second.erase column

theorem SameBut.get? {column other : String} {first second : Row}
    (alike : SameBut column first second) (apart : other ≠ column) :
    first.get? other = second.get? other := by
  have found := congrArg (fun row : Row => row.get? other) alike
  simpa [Keyed.get?_erase, apart] using found

/-- Conditions on other columns do not tell two such rows apart. -/
theorem SameBut.satisfies {column : String} {first second : Row}
    (alike : SameBut column first second) {conditions : List Condition}
    (apart : ∀ condition ∈ conditions, condition.column ≠ column) :
    first.satisfies conditions = second.satisfies conditions := by
  rw [Bool.eq_iff_iff]
  simp only [Row.satisfies, List.all_eq_true]
  apply forall₂_congr
  intro condition member
  rw [Condition.evaluate, Condition.evaluate, alike.get? (apart condition member)]

end Row

namespace Memory

/-- The same but for the cells of one column of one table. -/
structure SameBut (table column : String) (first second : Memory) : Prop where
  catalog : first.catalog = second.catalog
  executed : first.executed = second.executed
  closed : first.closed = second.closed
  rows : List.Forall₂ (Row.SameBut column) (first.rows table) (second.rows table)
  others : ∀ name, name ≠ table → first.rows name = second.rows name

end Memory

namespace Auth

variable {σ τ : Type} [KeyStore τ]

/-- The outcomes of two look-ups that differ in the cells of one column only. -/
def LookedAlike (passwordColumn : String)
    (outcome sibling : Except Failure (List Row) × Service Memory) : Prop :=
  outcome.2.journal = sibling.2.journal ∧
    ((∃ failure, outcome.1 = .error failure ∧ sibling.1 = .error failure) ∨
      ∃ rows siblings, outcome.1 = .ok rows ∧ sibling.1 = .ok siblings ∧
        List.Forall₂ (Row.SameBut passwordColumn) rows siblings)

theorem selectRows_alike {rows siblings : List Row} {column passwordColumn : String}
    (alike : List.Forall₂ (Row.SameBut passwordColumn) rows siblings)
    (apart : column ≠ passwordColumn) (table : String) (bound : Json × ColumnType) :
    List.Forall₂ (Row.SameBut passwordColumn)
      (Memory.selectRows rows (lookupSelection table column bound))
      (Memory.selectRows siblings (lookupSelection table column bound)) := by
  have whole : Memory.project .all = id := rfl
  simp only [Memory.selectRows, lookupSelection, Memory.sorted, Memory.limited, whole,
    Bool.false_eq_true, if_false, List.map_id]
  apply List.forall₂_take
  apply List.rel_filter _ alike
  intro first second same
  dsimp only
  rw [same.satisfies (by simpa using apart)]

/-- The statement of a look-up fails in both stores, or it returns rows from the
same places. -/
theorem execute_alike {first second : Memory} {table column passwordColumn : String}
    (alike : first.SameBut table passwordColumn second) (apart : column ≠ passwordColumn)
    (bound : Json × ColumnType) :
    (∃ error, (first.execute (.select (lookupSelection table column bound))).1 = .error error ∧
        (second.execute (.select (lookupSelection table column bound))).1 = .error error) ∨
      ∃ rows siblings,
        (first.execute (.select (lookupSelection table column bound))).1 = .ok rows ∧
        (second.execute (.select (lookupSelection table column bound))).1 = .ok siblings ∧
        List.Forall₂ (Row.SameBut passwordColumn) rows siblings := by
  have selected := selectRows_alike alike.rows apart table bound
  rw [first.execute_select, second.execute_select, ← alike.closed, ← alike.catalog]
  cases first.closed with
  | true => exact .inl ⟨_, rfl, rfl⟩
  | false =>
      dsimp only [lookupSelection] at selected ⊢
      cases first.catalog.tables.get? table with
      | none => exact .inl ⟨_, rfl, rfl⟩
      | some declared => exact .inr ⟨_, _, rfl, rfl, selected⟩

theorem serviceExecute_alike {service : Service Memory} {other : Memory}
    {table column passwordColumn : String}
    (alike : service.store.SameBut table passwordColumn other) (apart : column ≠ passwordColumn)
    (bound : Json × ColumnType) :
    LookedAlike passwordColumn
      (service.execute (.select (lookupSelection table column bound)))
      ({ service with store := other }.execute (.select (lookupSelection table column bound))) := by
  rcases execute_alike alike apart bound with
    ⟨error, first, second⟩ | ⟨rows, siblings, first, second, same⟩
  · rw [Service.execute_of_error first, Service.execute_of_error second]
    exact ⟨rfl, .inl ⟨_, rfl, rfl⟩⟩
  · rw [Service.execute_of_ok first, Service.execute_of_ok second]
    refine ⟨?_, .inr ⟨rows, siblings, rfl, rfl, same⟩⟩
    -- The event of a read says how many rows it returned, and nothing of them.
    change service.journal.record (Service.executedEvent Memory _ rows) =
      service.journal.record (Service.executedEvent Memory _ siblings)
    rw [Service.executedEvent, Service.executedEvent, same.length_eq]

/-- Look-ups through another column find rows that differ in the hash only. -/
theorem lookUp_alike {service : Service Memory} {other : Memory} {options : SessionOptions}
    {column passwordColumn : String}
    (alike : service.store.SameBut (Text.trim options.profilesTable) passwordColumn other)
    (apart : column ≠ passwordColumn) (value : String) :
    LookedAlike passwordColumn (lookUp service options column value)
      (lookUp { service with store := other } options column value) := by
  unfold lookUp
  dsimp only
  rw [select_lookup]
  cases named : Plan.table service.catalog options.profilesTable with
  | error failure => exact ⟨rfl, .inl ⟨failure, rfl, rfl⟩⟩
  | ok table =>
      rcases Plan.table_eq_ok.mp named with ⟨rfl, _⟩
      simp only [Except.bind]
      cases service.catalog.coerce (Text.trim options.profilesTable) column (.string value) with
      | error failure => exact ⟨rfl, .inl ⟨failure, rfl, rfl⟩⟩
      | ok bound => exact serviceExecute_alike alike apart bound

/-! ## Behind the look-up -/

theorem profileFor_alike {service : Service Memory} {other : Memory} {options : SessionOptions}
    {credentials : Credentials} {passwordColumn : String}
    (alike : service.store.SameBut (Text.trim options.profilesTable) passwordColumn other)
    (apart : ∀ column value, credentials.lookup = .ok (column, value) → column ≠ passwordColumn) :
    (∃ failure, profileFor service options credentials = .error failure ∧
        profileFor { service with store := other } options credentials = .error failure) ∨
      ∃ profile sibling, profileFor service options credentials = .ok profile ∧
        profileFor { service with store := other } options credentials = .ok sibling ∧
        Row.SameBut passwordColumn profile sibling := by
  unfold profileFor
  cases sought : credentials.lookup with
  | error failure => exact .inl ⟨failure, rfl, rfl⟩
  | ok pair =>
      rcases (lookUp_alike alike (apart pair.1 pair.2 sought) pair.2).2 with
        ⟨failure, first, second⟩ | ⟨rows, siblings, first, second, same⟩
      · simp only [Except.bind, first, second]
        exact .inl ⟨failure, rfl, rfl⟩
      · simp only [Except.bind, first, second]
        cases same with
        | nil => exact .inl ⟨_, rfl, rfl⟩
        | cons here rest => exact .inr ⟨_, _, rfl, rfl, here⟩

theorem lookupJournal_alike {service : Service Memory} {other : Memory} {options : SessionOptions}
    {credentials : Credentials} {passwordColumn : String}
    (alike : service.store.SameBut (Text.trim options.profilesTable) passwordColumn other)
    (apart : ∀ column value, credentials.lookup = .ok (column, value) → column ≠ passwordColumn) :
    lookupJournal service options credentials =
      lookupJournal { service with store := other } options credentials := by
  unfold lookupJournal
  cases sought : credentials.lookup with
  | error failure => rfl
  | ok pair => exact (lookUp_alike alike (apart pair.1 pair.2 sought) pair.2).1

/-- If the verdicts are the same, the same session is opened. -/
theorem admission_alike {service : Service Memory} {other : Memory} {options : SessionOptions}
    {verify : String → String → Bool} {credentials : Credentials} {passwordColumn : String}
    (secured : options.passwordColumn = some passwordColumn)
    (apart : ∀ column value, credentials.lookup = .ok (column, value) → column ≠ passwordColumn)
    (alike : service.store.SameBut (Text.trim options.profilesTable) passwordColumn other)
    (verdict : ∀ profile sibling, profileFor service options credentials = .ok profile →
      profileFor { service with store := other } options credentials = .ok sibling →
        verifies verify (profile.get? passwordColumn) credentials.password =
          verifies verify (sibling.get? passwordColumn) credentials.password)
    (now : Time.Instant) :
    admission service options verify now credentials =
      admission { service with store := other } options verify now credentials := by
  rcases profileFor_alike alike apart with
    ⟨failure, first, second⟩ | ⟨profile, sibling, first, second, same⟩
  · rw [admission, admission, first, second]
    rfl
  · rw [admission_of_profile secured first, admission_of_profile secured second,
      verdict profile sibling first second, same]
    rfl

/-- What is noted of a sign-in that looks at a hash. -/
theorem journal_signIn [Store σ] {service : Service σ} {options : SessionOptions}
    {passwordColumn : String} (secured : options.passwordColumn = some passwordColumn)
    (keys : Option τ) (verify : String → String → Bool) (now : Time.Instant)
    (credentials : Credentials) :
    (signIn service keys options verify now credentials).2.1.journal =
      match credentials.lookup, admission service options verify now credentials with
      | .ok sought, .ok session =>
          if (signIn service keys options verify now credentials).1.succeeded then
            (lookupJournal service options credentials).record
              (signInEvent sought.1 session.user)
          else lookupJournal service options credentials
      | _, _ => lookupJournal service options credentials := by
  rcases signIn_cases service keys options verify now credentials with
    ⟨failure, after, missing, noted, same⟩ |
    ⟨column, value, profile, after, sought, found, noted, _, same⟩
  · rw [same, admission, missing, ← noted]
    cases credentials.lookup <;> rfl
  · rw [same, sought, admission_of_profile secured found, ← noted]
    simp only [settle, authenticate, secured]
    cases verifies verify (profile.get? passwordColumn) credentials.password with
    | false => rfl
    | true =>
        simp only [if_true, complete]
        cases (persist keys
          (openSession after options now (profile.erase passwordColumn)).1).1 <;> rfl

/-- Of the hash of a profile a sign-in tells no more than whether the password
verifies: with the same verdict, stores that differ in hashes only are not told
apart by the answer, by what is kept, or by what is noted. -/
theorem sign_in_tells_verdict_only (service : Service Memory) (other : Memory) (keys : Option τ)
    (options : SessionOptions) (verify : String → String → Bool) (now : Time.Instant)
    (credentials : Credentials) {passwordColumn : String}
    (secured : options.passwordColumn = some passwordColumn)
    (apart : ∀ column value, credentials.lookup = .ok (column, value) → column ≠ passwordColumn)
    (alike : service.store.SameBut (Text.trim options.profilesTable) passwordColumn other)
    (verdict : ∀ profile sibling, profileFor service options credentials = .ok profile →
      profileFor { service with store := other } options credentials = .ok sibling →
        verifies verify (profile.get? passwordColumn) credentials.password =
          verifies verify (sibling.get? passwordColumn) credentials.password) :
    let outcome := signIn service keys options verify now credentials
    let sibling := signIn { service with store := other } keys options verify now credentials
    outcome.1 = sibling.1 ∧ outcome.2.2 = sibling.2.2 ∧
      outcome.2.1.journal = sibling.2.1.journal := by
  have admitted := admission_alike secured apart alike verdict now
  have noted := lookupJournal_alike alike apart
  have first := signIn_eq service keys options verify now credentials
  have second := signIn_eq { service with store := other } keys options verify now credentials
  rw [admitted] at first
  have same := first.trans second.symm
  rcases Prod.mk.inj same with ⟨answer, left⟩
  refine ⟨answer, left, ?_⟩
  rw [journal_signIn secured, journal_signIn secured, answer, admitted, noted]

/-- Two hashes that the password verifies against lead to one answer. -/
theorem accepted_hashes_look_alike :
    let profile (hash : String) : Row := .ofList [("email", .string "ana"), ("hash", .string hash)]
    let service := Service.ofProfiles [profile "g"]
    let other := (Service.ofProfiles [profile "h"]).store
    let options : SessionOptions := ⟨"profiles", some "hash", 86400000⟩
    let outcome := signIn service (some MemoryKeys.empty) options (fun _ _ => true) (.ofMillis 0)
      ⟨some "ana", none, some "x"⟩
    let sibling := signIn { service with store := other } (some MemoryKeys.empty) options
      (fun _ _ => true) (.ofMillis 0) ⟨some "ana", none, some "x"⟩
    service.store.rows "profiles" ≠ other.rows "profiles" ∧ outcome.1.succeeded = true ∧
      outcome.1 = sibling.1 ∧ outcome.2.2 = sibling.2.2 := by
  intro profile service other options outcome sibling
  have trimmed : Text.trim "profiles" = "profiles" := by decide +kernel
  have rows : service.store.rows "profiles" = [profile "g"] := by decide +kernel
  have siblings : other.rows "profiles" = [profile "h"] := by decide +kernel
  have masked : Row.SameBut "hash" (profile "g") (profile "h") := by
    unfold Row.SameBut
    decide +kernel
  have alike : service.store.SameBut "profiles" "hash" other := by
    constructor
    case catalog => rfl
    case executed => rfl
    case closed => rfl
    case rows =>
      rw [rows, siblings]
      exact .cons masked .nil
    case others =>
      intro name apart
      simp [service, other, Service.ofProfiles, Service.start, Memory.rows, Memory.setRows,
        Keyed.get?_insert, apart]
  have first : profileFor service options ⟨some "ana", none, some "x"⟩ = .ok (profile "g") := by
    decide +kernel
  have second : profileFor { service with store := other } options ⟨some "ana", none, some "x"⟩ =
      .ok (profile "h") := by
    decide +kernel
  rcases sign_in_tells_verdict_only service other (some MemoryKeys.empty) options (fun _ _ => true)
    (.ofMillis 0) ⟨some "ana", none, some "x"⟩ rfl (by rintro _ _ ⟨⟩; decide)
    (by rw [trimmed]; exact alike)
    (by
      intro found paired same matched
      cases first.symm.trans same
      cases second.symm.trans matched
      decide +kernel) with ⟨answer, left, _⟩
  have succeeded : outcome.1.succeeded = true := by decide +kernel
  have different : service.store.rows "profiles" ≠ other.rows "profiles" := by
    rw [rows, siblings]
    decide +kernel
  dsimp only [outcome, sibling]
  exact ⟨different, succeeded, answer, left⟩

end Auth
end RowGate
