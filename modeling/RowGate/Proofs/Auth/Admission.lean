import RowGate.Auth.Session
import RowGate.Proofs.Fallible
import RowGate.Proofs.Json.Canonical
import RowGate.Proofs.Query.Grammar
import RowGate.Proofs.Service.Reads
import RowGate.Store.Memory

namespace RowGate

/-!
# Admission

A sign-in looks up a profile, which is one statement, and decides whether the
caller is admitted as the user of that profile.  Neither draws a random number,
so the session that an admitted caller gets is known before it is kept.
Answer and local store of a sign-in depend on nothing else.
-/

namespace Auth

variable {σ τ : Type}

/-! ## The look-up -/

/-- The read that looks up a profile. -/
def lookupRequest (options : SessionOptions) (column value : String) : ReadRequest where
  table := options.profilesTable
  select := "*"
  predicates := [⟨column, Comparison.eq.word, .string value⟩]
  order := none
  limit := some 1
  counting := false

/-- Carry out the statement of a look-up. -/
def lookUp [Store σ] (service : Service σ) (options : SessionOptions) (column value : String) :
    Except Failure (List Row) × Service σ :=
  service.executePlan (Plan.select service.catalog (lookupRequest options column value))

section

variable (service : Service σ) (options : SessionOptions) (column value : String)

/-- No predicate of a look-up is dropped. -/
theorem readEvents_lookup :
    Service.readEvents service.catalog (lookupRequest options column value) = [] := by
  have recognized := Predicate.operator?_equal column (.string value)
  unfold Service.readEvents Service.conditionEvents
  split
  · rfl
  · split
    · rfl
    · simp only [lookupRequest, Plan.dropped, recognized]
      split <;> rfl

theorem extendAll_lookup : ∃ slot slots,
    (service.read options.profilesTable).2.extendAll (service.read options.profilesTable).1
        (lookupSteps column value) =
      (⟨lookupRequest options column value, true, slot⟩, { service with slots := slots }) :=
  ⟨_, _, rfl⟩

variable [Store σ]

theorem lookUp_slots (slots : List (Option Answer)) :
    lookUp { service with slots := slots } options column value =
      ((lookUp service options column value).1,
        { (lookUp service options column value).2 with slots := slots }) := by
  unfold lookUp Service.executePlan
  dsimp only
  split
  · rfl
  · simp only [Service.execute]
    split <;> rfl

theorem perform_lookup :
    (service.perform (lookupRequest options column value) true).1.result =
        (lookUp service options column value).1.map
          (fun rows => (rows.head?.map Row.toJson).getD .null) ∧
      (service.perform (lookupRequest options column value) true).2 =
        (lookUp service options column value).2 := by
  have unnoted : service.recordAll [] = service := rfl
  have uncounted : (lookupRequest options column value).counting = false := rfl
  simp only [Service.perform, readEvents_lookup, unnoted, uncounted, Bool.false_eq_true, if_true,
    if_false, lookUp, and_true]
  cases (service.executePlan (Plan.select service.catalog
    (lookupRequest options column value))).1 with
  | error failure => rfl
  | ok rows => cases rows <;> rfl

/-- A look-up answers with the first row that its statement returns, or null;
otherwise it opens some slots only. -/
theorem readNow_lookup :
    (service.readNow options.profilesTable (lookupSteps column value)).1.result =
        (lookUp service options column value).1.map
          (fun rows => (rows.head?.map Row.toJson).getD .null) ∧
      ∃ slots, (service.readNow options.profilesTable (lookupSteps column value)).2 =
        { (lookUp service options column value).2 with slots := slots } := by
  rcases extendAll_lookup service options column value with ⟨slot, slots, described⟩
  have vacant := Service.slotAnswer?_extendAll
    (service.slotAnswer?_newHandle_slot (.ofTable options.profilesTable) false)
    (lookupSteps column value)
  rw [← Service.read] at vacant
  rw [described] at vacant
  rcases perform_lookup { service with slots := slots } options column value with
    ⟨answered, after⟩
  rw [lookUp_slots] at answered after
  simp only [Service.readNow, described, Service.resolve, vacant, answered, after]
  exact ⟨trivial, _, rfl⟩

/-- What a look-up returns. -/
theorem lookUp_fst : (lookUp service options column value).1 =
    (Plan.select service.catalog (lookupRequest options column value)).bind fun statement =>
      (Store.execute service.store statement).1.mapError StoreError.toFailure := by
  unfold lookUp Service.executePlan
  cases Plan.select service.catalog (lookupRequest options column value) with
  | error failure => rfl
  | ok statement =>
      cases executed : (Store.execute service.store statement).1 with
      | error error =>
          simp only [Service.execute_of_error executed, Except.bind, executed]
          rfl
      | ok rows =>
          simp only [Service.execute_of_ok executed, Except.bind, executed]
          rfl

theorem random_lookUp : (lookUp service options column value).2.random = service.random := by
  unfold lookUp Service.executePlan
  split
  · rfl
  · simp only [Service.execute]
    split <;> rfl

end

/-! ## Who is admitted -/

/-- The profile that a caller claims to be. -/
def profileFor [Store σ] (service : Service σ) (options : SessionOptions)
    (credentials : Credentials) : Except Failure Row :=
  credentials.lookup.bind fun sought =>
    (lookUp service options sought.1 sought.2).1.bind fun rows =>
      match rows.head? with
      | some profile => .ok profile
      | none => .error .userNotFound

/-- The user of a profile, if the password is that of the profile. -/
def userOf (options : SessionOptions) (verify : String → String → Bool) (password : Option String)
    (profile : Row) : Except Failure Row :=
  match options.passwordColumn with
  | none => .ok profile
  | some passwordColumn =>
      if verifies verify (profile.get? passwordColumn) password then
        .ok (profile.erase passwordColumn)
      else .error .invalidCredentials

/-- The session of an admitted caller. -/
def admission [Store σ] (service : Service σ) (options : SessionOptions)
    (verify : String → String → Bool) (now : Time.Instant) (credentials : Credentials) :
    Except Failure Session :=
  (profileFor service options credentials).bind fun profile =>
    (userOf options verify credentials.password profile).map fun user =>
      (openSession service options now user).1

theorem expiresAt_of_admitted [Store σ] {service : Service σ} {options : SessionOptions}
    {verify : String → String → Bool} {now : Time.Instant} {credentials : Credentials}
    {session : Session}
    (admitted : admission service options verify now credentials = .ok session) :
    session.expiresAt = now.millis + options.lifetimeMillis := by
  rcases Fallible.bind_eq_ok.mp admitted with ⟨profile, _, admitted⟩
  rcases Fallible.map_eq_ok.mp admitted with ⟨user, _, rfl⟩
  rfl

/-- Keep a session and answer with it. -/
def deliver [KeyStore τ] (keys : Option τ) (session : Session) : Answer × Option τ :=
  let kept := persist keys session
  match kept.1 with
  | .error failure => (.failed failure, kept.2)
  | .ok _ => (sessionAnswer session, kept.2)

theorem deliver_snd [KeyStore τ] (keys : Option τ) (session : Session) :
    (deliver keys session).2 = (persist keys session).2 := by
  unfold deliver
  dsimp only
  cases (persist keys session).1 <;> rfl

theorem deliver_of_kept [KeyStore τ] {keys : Option τ} {session : Session}
    (kept : (persist keys session).1 = .ok ()) :
    (deliver keys session).1 = sessionAnswer session := by
  simp only [deliver, kept]

theorem kept_of_succeeded [KeyStore τ] {keys : Option τ} {session : Session}
    (succeeded : (deliver keys session).1.succeeded = true) :
    (persist keys session).1 = .ok () := by
  unfold deliver at succeeded
  dsimp only at succeeded
  split at succeeded
  · cases succeeded
  · assumption

theorem authenticate_fst (service : Service σ) (options : SessionOptions)
    (verify : String → String → Bool) (password : Option String) (column : String) (profile : Row) :
    (authenticate service options verify password column profile).1 =
      userOf options verify password profile := by
  unfold authenticate userOf
  cases options.passwordColumn with
  | none => rfl
  | some passwordColumn =>
      dsimp only
      split <;> rfl

theorem random_authenticate (service : Service σ) (options : SessionOptions)
    (verify : String → String → Bool) (password : Option String) (column : String) (profile : Row) :
    (authenticate service options verify password column profile).2.random = service.random := by
  unfold authenticate
  split
  · rfl
  · split <;> rfl

theorem complete_eq_deliver [KeyStore τ] {service after : Service σ}
    (random : after.random = service.random) (keys : Option τ) (options : SessionOptions)
    (now : Time.Instant) (column : String) (user : Row) :
    ((complete after keys options now column user).1,
        (complete after keys options now column user).2.2) =
      deliver keys (openSession service options now user).1 := by
  have session :
      (openSession after options now user).1 = (openSession service options now user).1 := by
    rw [openSession, openSession, random]
  simp only [complete, deliver, session]
  cases (persist keys (openSession service options now user).1).1 <;> rfl

/-- What is noted of a sign-in until the profile is found. -/
def lookupJournal [Store σ] (service : Service σ) (options : SessionOptions)
    (credentials : Credentials) : Journal :=
  match credentials.lookup with
  | .error _ => service.journal
  | .ok sought => (lookUp service options sought.1 sought.2).2.journal

/-- Decide on the profile that has been found, and keep the session of an
admitted caller. -/
def settle [KeyStore τ] (service : Service σ) (keys : Option τ) (options : SessionOptions)
    (verify : String → String → Bool) (now : Time.Instant) (password : Option String)
    (column : String) (profile : Row) : Answer × Service σ × Option τ :=
  let admitted := authenticate service options verify password column profile
  match admitted.1 with
  | .error failure => (.failed failure, admitted.2, keys)
  | .ok user => complete admitted.2 keys options now column user

/-- A sign-in ends without a profile, or it is settled on the profile that has
been found. -/
theorem signIn_cases [Store σ] [KeyStore τ] (service : Service σ) (keys : Option τ)
    (options : SessionOptions) (verify : String → String → Bool) (now : Time.Instant)
    (credentials : Credentials) :
    (∃ failure after, profileFor service options credentials = .error failure ∧
        after.journal = lookupJournal service options credentials ∧
        signIn service keys options verify now credentials = (.failed failure, after, keys)) ∨
      ∃ column value profile after, credentials.lookup = .ok (column, value) ∧
        profileFor service options credentials = .ok profile ∧
        after.journal = lookupJournal service options credentials ∧
        after.random = service.random ∧
        signIn service keys options verify now credentials =
          settle after keys options verify now credentials.password column profile := by
  unfold signIn profileFor lookupJournal
  cases credentials.lookup with
  | error failure => exact .inl ⟨failure, service, rfl, rfl, rfl⟩
  | ok sought =>
      rcases sought with ⟨column, value⟩
      rcases readNow_lookup service options column value with ⟨answered, slots, after⟩
      have random := random_lookUp service options column value
      simp only [answered, after, Except.bind]
      generalize lookUp service options column value = found at random ⊢
      cases found.1 with
      | error failure => exact .inl ⟨failure, { found.2 with slots := slots }, rfl, rfl, rfl⟩
      | ok rows =>
          cases rows with
          | nil => exact .inl ⟨.userNotFound, { found.2 with slots := slots }, rfl, rfl, rfl⟩
          | cons profile rest =>
              refine .inr ⟨column, value, profile, { found.2 with slots := slots }, rfl, rfl, rfl,
                random, ?_⟩
              dsimp only [Except.map, List.head?_cons, Option.map_some, Option.getD_some]
              rw [Row.ofJson?_toJson]
              rfl

theorem settle_eq [KeyStore τ] {service after : Service σ} {options : SessionOptions}
    {verify : String → String → Bool} {password : Option String} {profile : Row}
    (random : after.random = service.random) (keys : Option τ) (now : Time.Instant)
    (column : String) :
    ((settle after keys options verify now password column profile).1,
        (settle after keys options verify now password column profile).2.2) =
      match (userOf options verify password profile).map
          fun user => (openSession service options now user).1 with
      | .error failure => (.failed failure, keys)
      | .ok session => deliver keys session := by
  have verdict := authenticate_fst after options verify password column profile
  have drawn := random_authenticate after options verify password column profile
  unfold settle
  dsimp only
  generalize authenticate after options verify password column profile = admitted
    at verdict drawn ⊢
  rw [← verdict]
  cases admitted.1 with
  | error failure => rfl
  | ok user => exact complete_eq_deliver (drawn.trans random) keys options now column user

/-- The answer of a sign-in and what it leaves in the local store: a caller who
is not admitted changes nothing there, and the session of one who is admitted is
kept. -/
theorem signIn_eq [Store σ] [KeyStore τ] (service : Service σ) (keys : Option τ)
    (options : SessionOptions) (verify : String → String → Bool) (now : Time.Instant)
    (credentials : Credentials) :
    ((signIn service keys options verify now credentials).1,
        (signIn service keys options verify now credentials).2.2) =
      match admission service options verify now credentials with
      | .error failure => (.failed failure, keys)
      | .ok session => deliver keys session := by
  rcases signIn_cases service keys options verify now credentials with
    ⟨failure, after, missing, _, same⟩ | ⟨column, _, profile, after, _, found, _, random, same⟩
  · rw [same, admission, missing]
    rfl
  · rw [same, admission, found]
    exact settle_eq random keys now column

section

variable [Store σ] [KeyStore τ] {service : Service σ} {options : SessionOptions}
  {verify : String → String → Bool} {now : Time.Instant} {credentials : Credentials}

theorem signIn_of_refused {failure : Failure}
    (refused : admission service options verify now credentials = .error failure)
    (keys : Option τ) :
    (signIn service keys options verify now credentials).1 = .failed failure ∧
      (signIn service keys options verify now credentials).2.2 = keys := by
  have same := signIn_eq service keys options verify now credentials
  rw [refused] at same
  exact ⟨congrArg Prod.fst same, congrArg Prod.snd same⟩

theorem signIn_of_admitted {session : Session}
    (admitted : admission service options verify now credentials = .ok session)
    (keys : Option τ) :
    (signIn service keys options verify now credentials).1 = (deliver keys session).1 ∧
      (signIn service keys options verify now credentials).2.2 = (persist keys session).2 := by
  have same := signIn_eq service keys options verify now credentials
  rw [admitted] at same
  exact ⟨congrArg Prod.fst same, (congrArg Prod.snd same).trans (deliver_snd keys session)⟩

end

end Auth

/-! ## A closed instance -/

/-- A catalog of profiles.  Closed instances of statements about sign-ins are
taken over it. -/
def Catalog.profiles : Catalog :=
  Catalog.empty.insertTable "profiles"
    ⟨[⟨"email", .text, true⟩, ⟨"data", .json, true⟩, ⟨"hash", .text, true⟩]⟩

/-- A service over given profiles, whose random bits are all zero. -/
def Service.ofProfiles (profiles : List Row) : Service Memory :=
  Service.start ((Memory.ofCatalog .profiles).setRows "profiles" profiles) .profiles
    Service.defaultAuditTable .empty ⟨fun _ => 0, 0⟩

end RowGate
