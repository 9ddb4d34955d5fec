import RowGate.Proofs.Auth.Profiles
import RowGate.Proofs.Auth.Restoring

namespace RowGate
namespace Auth

/-!
# The life of a session

Over a local store whose calls never fail, the two entries follow one current
session: a caller who is admitted makes a session current, signing out leaves
none, and a refused sign-in, or a call that only reads, leaves the current one.
What the entries are is a matter of this session alone; whether the calls that
read them give it back is a matter of its cells.

The invariant is that each entry is the text of its part of the current
session.  The services that sign-ins work on may be any, and change in any way
between the calls.
-/

variable {σ τ : Type}

/-- A call on a local store. -/
inductive Visit (σ : Type) where
  | signIn (service : Service σ) (now : Time.Instant) (credentials : Credentials)
  | signOut (journal : Journal)
  | getSession (now : Time.Instant)
  | getUser

section

variable [Store σ] (options : SessionOptions) (verify : String → String → Bool)

/-- What a call leaves in the local store. -/
def leave [KeyStore τ] (keys : Option τ) : Visit σ → Option τ
  | .signIn service now credentials => (signIn service keys options verify now credentials).2.2
  | .signOut journal => (signOut journal keys).2.2
  | .getSession now => (currentSession keys now).2
  | .getUser => (currentUser keys).2

/-- The session that is current after a call. -/
def follow (current : Option Session) : Visit σ → Option Session
  | .signIn service now credentials =>
      match admission service options verify now credentials with
      | .ok session => some session
      | .error _ => current
  | .signOut _ => none
  | .getSession _ => current
  | .getUser => current

end

/-- The entries are the texts of the current session and of its user. -/
def Follows [KeyStore τ] (contents : Contents τ) (keys : Option τ) (current : Option Session) :
    Prop :=
  ∃ store, keys = some store ∧
    contents.text? store sessionKey = current.map (fun session => session.toJson.render) ∧
    contents.text? store userKey = current.map fun session => session.user.toJson.render

section

variable [Store σ] [KeyStore τ] {contents : Contents τ} {keys : Option τ}
  {current : Option Session}

theorem follow_signIn_refused {options : SessionOptions} {verify : String → String → Bool}
    {service : Service σ} {now : Time.Instant} {credentials : Credentials} {failure : Failure}
    (refused : admission service options verify now credentials = .error failure)
    (current : Option Session) :
    follow options verify current (.signIn service now credentials) = current := by
  simp only [follow, refused]

theorem follow_signIn_admitted {options : SessionOptions} {verify : String → String → Bool}
    {service : Service σ} {now : Time.Instant} {credentials : Credentials} {session : Session}
    (admitted : admission service options verify now credentials = .ok session)
    (current : Option Session) :
    follow options verify current (.signIn service now credentials) = some session := by
  simp only [follow, admitted]

/-- A call keeps the entries at the current session. -/
theorem Follows.leave (reliable : NeverFails τ) (follows : Follows contents keys current)
    (options : SessionOptions) (verify : String → String → Bool) (visit : Visit σ) :
    Follows contents (leave options verify keys visit) (follow options verify current visit) := by
  rcases follows with ⟨store, rfl, session, user⟩
  have apart : sessionKey ≠ userKey := by decide
  cases visit with
  | signIn service now credentials =>
      cases admitted : admission service options verify now credentials with
      | error failure =>
          rw [Auth.leave, (signIn_of_refused admitted _).2, follow_signIn_refused admitted]
          exact ⟨store, rfl, session, user⟩
      | ok opened =>
          rcases reliable.persist contents store opened with ⟨kept, done, texts⟩
          rw [Auth.leave, (signIn_of_admitted admitted _).2, follow_signIn_admitted admitted, done]
          exact ⟨kept, rfl, by simp [texts, Contents.withSession, apart],
            by simp [texts, Contents.withSession]⟩
  | signOut journal =>
      rcases reliable.forget contents store with ⟨kept, done, texts⟩
      simp only [Auth.leave, signOut, done]
      exact ⟨kept, rfl, by simp [texts, follow, apart], by simp [texts, follow]⟩
  | getSession now =>
      rcases reliable.stored contents store sessionKey with ⟨kept, found, texts⟩
      simp only [Auth.leave, currentSession, found]
      exact ⟨kept, rfl, by rw [texts]; exact session, by rw [texts]; exact user⟩
  | getUser =>
      rcases reliable.stored contents store userKey with ⟨kept, found, texts⟩
      simp only [Auth.leave, currentUser, found]
      exact ⟨kept, rfl, by rw [texts]; exact session, by rw [texts]; exact user⟩

theorem Follows.leaveAll (reliable : NeverFails τ) (follows : Follows contents keys current)
    (options : SessionOptions) (verify : String → String → Bool) (visits : List (Visit σ)) :
    Follows contents (visits.foldl (Auth.leave options verify) keys)
      (visits.foldl (follow options verify) current) := by
  induction visits generalizing keys current with
  | nil => exact follows
  | cons visit rest inductionHypothesis =>
      exact inductionHypothesis (follows.leave reliable options verify visit)

/-! ## Reading the entries -/

theorem Follows.currentUser (reliable : NeverFails τ) (follows : Follows contents keys current) :
    (Auth.currentUser keys).1 = current.bind fun session =>
      (Json.decode (.map .value) Session.userOfJson? session.user.toJson.render).toOption := by
  rcases follows with ⟨store, rfl, _, user⟩
  rcases reliable.stored contents store userKey with ⟨kept, found, _⟩
  simp only [Auth.currentUser, found, user]
  cases current <;> rfl

theorem Follows.currentSession (reliable : NeverFails τ) (follows : Follows contents keys current)
    (now : Time.Instant) :
    (Auth.currentSession keys now).1 =
      (current.bind fun session => Session.read? session.toJson.render).filter
        fun session => !session.isExpiredAt now.millis := by
  rcases follows with ⟨store, rfl, session, _⟩
  rcases reliable.stored contents store sessionKey with ⟨kept, found, _⟩
  simp only [Auth.currentSession, found, session]
  cases current <;> rfl

/-- Before its end a session is given back exactly if its text can be read as
the session, and from its end on nothing is given back. -/
theorem Follows.currentSession_iff {session : Session} (reliable : NeverFails τ)
    (follows : Follows contents keys (some session))
    (ordered : session.user.canonical = session.user) (now : Time.Instant) :
    (session.expiresAt ≤ now.millis → (Auth.currentSession keys now).1 = none) ∧
      (now.millis < session.expiresAt →
        ((Auth.currentSession keys now).1 = some session ↔
          session.user.isLegible 125 = true ∧
            Bounded.minInt64 ≤ session.expiresAt ∧ session.expiresAt ≤ Bounded.maxInt64)) := by
  rw [follows.currentSession reliable now, Option.bind_some, ← Session.session_restored_iff ordered]
  constructor
  · intro ended
    rw [Option.filter_eq_none_iff]
    intro found restored
    have ending := (Session.read?_eq_some ordered restored).2.1
    simpa [Session.isExpiredAt, ending] using ended
  · intro running
    rw [Option.filter_eq_some_iff]
    constructor
    · exact fun restored => restored.1
    · intro restored
      exact ⟨restored, by simpa [Session.isExpiredAt] using running⟩

end

/-! ## The lifecycle -/

/-- The user and the session that the entries give back are those of the last
successful sign-in behind which nobody has signed out, the session until its
end, exactly if they can be read from their texts; the cells of the user are in
canonical form, as those of every record are that is read from a text.  A
refused sign-in changes neither, and the session that a successful one answers
with becomes the current one and lasts for the configured hours, brought into
the admitted range. -/
theorem session_lifecycle [Store σ] [KeyStore τ] (reliable : NeverFails τ) (contents : Contents τ)
    (start : τ) (empty : ∀ key, contents.text? start key = none) (profilesTable : String)
    (passwordColumn : Option String) (hours : Int) (verify : String → String → Bool)
    (visits : List (Visit σ)) :
    let options : SessionOptions :=
      ⟨profilesTable, passwordColumn, SessionOptions.lifetimeOf hours⟩
    let keys := visits.foldl (leave options verify) (some start)
    let current := visits.foldl (follow options verify) none
    (current = none → (currentUser keys).1 = none ∧ ∀ now, (currentSession keys now).1 = none) ∧
      (∀ session, current = some session → session.user.canonical = session.user →
        ((currentUser keys).1 = some session.user ↔ session.user.isLegible 126 = true) ∧
        ∀ now,
          (session.expiresAt ≤ now.millis → (currentSession keys now).1 = none) ∧
          (now.millis < session.expiresAt →
            ((currentSession keys now).1 = some session ↔
              session.user.isLegible 125 = true ∧
                Bounded.minInt64 ≤ session.expiresAt ∧
                session.expiresAt ≤ Bounded.maxInt64))) ∧
      ∀ (service : Service σ) (now : Time.Instant) (credentials : Credentials),
        let outcome := signIn service keys options verify now credentials
        let next := follow options verify current (.signIn service now credentials)
        (outcome.1.succeeded = false → next = current ∧
          (currentUser outcome.2.2).1 = (currentUser keys).1 ∧
          ∀ later, (currentSession outcome.2.2 later).1 = (currentSession keys later).1) ∧
        (outcome.1.succeeded = true → ∃ session, next = some session ∧
          outcome.1 = sessionAnswer session ∧
          session.expiresAt = now.millis + 3600000 * max 1 (min hours 87600)) := by
  intro options keys current
  have follows : Follows contents keys current :=
    Follows.leaveAll reliable ⟨start, rfl, empty sessionKey, empty userKey⟩ options verify visits
  refine ⟨?_, ?_, ?_⟩
  · intro nobody
    rw [nobody] at follows
    exact ⟨follows.currentUser reliable, fun now => follows.currentSession reliable now⟩
  · intro session here ordered
    rw [here] at follows
    refine ⟨?_, follows.currentSession_iff reliable ordered⟩
    rw [follows.currentUser reliable]
    exact Session.user_restored_iff ordered
  · intro service now credentials
    dsimp only
    cases admitted : admission service options verify now credentials with
    | error failure =>
        rcases signIn_of_refused admitted keys with ⟨answer, left⟩
        rw [answer, left, follow_signIn_refused admitted]
        exact ⟨fun _ => ⟨rfl, rfl, fun _ => rfl⟩, fun wrong => (by cases wrong)⟩
    | ok session =>
        rcases follows with ⟨store, opened, _⟩
        rcases reliable.persist contents store session with ⟨kept, done, _⟩
        rcases signIn_of_admitted admitted keys with ⟨answer, _⟩
        have delivered : (deliver keys session).1 = sessionAnswer session := by
          rw [opened]
          exact deliver_of_kept (congrArg Prod.fst done)
        rw [answer, delivered, follow_signIn_admitted admitted]
        exact ⟨fun wrong => (by cases wrong),
          fun _ => ⟨session, rfl, rfl, expiresAt_of_admitted admitted⟩⟩

/-- A session of 24 hours is given back in its last millisecond, and not behind
it. -/
theorem session_lasts_a_day :
    let user : Row := .ofList [("email", .string "ana")]
    let service := Service.ofProfiles [user]
    let session : Session := ⟨user, (newToken service.random).1, 86400000⟩
    let keys := leave ⟨"profiles", none, SessionOptions.lifetimeOf 24⟩ (fun _ _ => false)
      (some MemoryKeys.empty) (.signIn service (.ofMillis 0) ⟨some "ana", none, none⟩)
    (currentUser keys).1 = some user ∧
      (currentSession keys (.ofMillis 86399999)).1 = some session ∧
      (currentSession keys (.ofMillis 86400000)).1 = none := by
  intro user service session keys
  have admitted : admission service ⟨"profiles", none, SessionOptions.lifetimeOf 24⟩
      (fun _ _ => false) (.ofMillis 0) ⟨some "ana", none, none⟩ = .ok session := by
    decide +kernel
  have ordered : user.canonical = user := by decide +kernel
  have legible : user.isLegible 125 = true ∧ user.isLegible 126 = true := by decide +kernel
  rcases session_lifecycle MemoryKeys.neverFails MemoryKeys.contents
    MemoryKeys.empty (fun _ => rfl) "profiles" none 24 (fun _ _ => false)
    [.signIn service (.ofMillis 0) ⟨some "ana", none, none⟩] with ⟨_, kept, _⟩
  rcases kept session (follow_signIn_admitted admitted none) ordered with ⟨here, restored⟩
  refine ⟨here.mpr legible.2, ?_, ?_⟩
  · exact ((restored (.ofMillis 86399999)).2 (by decide)).mpr ⟨legible.1, by decide, by decide⟩
  · exact (restored (.ofMillis 86400000)).1 (by decide)

/-! ## Deep cells -/

/-- Arrays inside one another. -/
def nested : (depth : Nat) → Json
  | 0 => .array []
  | depth + 1 => .array [nested depth]

theorem canonical_nested (depth : Nat) : (nested depth).canonical = nested depth := by
  induction depth with
  | zero => rfl
  | succ depth inductionHypothesis =>
      simp [nested, Json.canonical, Json.canonicalItems, inductionHypothesis]

theorem isLegible_nested (limit depth : Nat) :
    (nested depth).isLegible limit = decide (depth < limit) := by
  induction depth generalizing limit with
  | zero => cases limit <;> simp [nested, Json.isLegible, Json.areLegible]
  | succ depth inductionHypothesis =>
      cases limit with
      | zero => simp [nested, Json.isLegible]
      | succ limit => simp [nested, Json.isLegible, Json.areLegible, inductionHypothesis]

/-- A user with arrays inside one another in a cell. -/
def deepUser (depth : Nat) : Row :=
  .ofList [("data", nested depth), ("email", .string "ana")]

theorem entries_deepUser (depth : Nat) :
    (deepUser depth).entries = [("data", nested depth), ("email", .string "ana")] := by
  have increasing : "data" < "email" := by decide +kernel
  exact Entries.arrange_of_sorted (List.pairwise_pair.mpr increasing)

/-- Whatever is in the cell, the user is admitted. -/
theorem admission_deepUser (depth : Nat) :
    admission (Service.ofProfiles [deepUser depth])
        ⟨"profiles", none, SessionOptions.lifetimeOf 24⟩ (fun _ _ => false) (.ofMillis 0)
        ⟨some "ana", none, none⟩ =
      .ok ⟨deepUser depth, (newToken (Service.ofProfiles []).random).1, 86400000⟩ := by
  have named : Plan.table Catalog.profiles "profiles" = .ok "profiles" := by decide +kernel
  have listed : Catalog.profiles.column "profiles" "email" = .ok ⟨"email", .text, true⟩ := by
    decide +kernel
  have rows : (Service.ofProfiles [deepUser depth]).store.rows "profiles" = [deepUser depth] := by
    simp [Service.ofProfiles, Service.start, Memory.rows, Memory.setRows, Keyed.get?_insert]
  have address : (deepUser depth).get? "email" = some (.string "ana") := by
    rw [Keyed.get?, entries_deepUser]
    rfl
  have found : firstWith [deepUser depth] "email" "ana" = some (deepUser depth) := by
    simp [firstWith, address]
  have looked : profileFor (Service.ofProfiles [deepUser depth])
      ⟨"profiles", none, SessionOptions.lifetimeOf 24⟩ ⟨some "ana", none, none⟩ =
      (firstWith ((Service.ofProfiles [deepUser depth]).store.rows "profiles") "email" "ana").elim
        (.error .userNotFound) .ok :=
    profileFor_text rfl rfl named rfl listed rfl
  rw [admission, looked, rows, found]
  rfl

theorem canonical_deepUser (depth : Nat) : (deepUser depth).canonical = deepUser depth := by
  have entries := entries_deepUser depth
  apply Keyed.eq_of_get?_eq
  intro column
  change Entries.find? column (Json.canonicalMembers (deepUser depth).entries) =
    Entries.find? column (deepUser depth).entries
  rw [entries]
  simp only [Json.canonicalMembers, canonical_nested, Json.canonical]

theorem isLegible_deepUser (limit depth : Nat) :
    (deepUser depth).isLegible limit = decide (depth < limit) := by
  simp [Row.isLegible, entries_deepUser, Json.membersLegible, isLegible_nested]

/-- Of a user with a cell of 126 arrays inside one another the entry is given
back, and the session, which has only begun, is not. -/
theorem deep_session_lost :
    let session : Session := ⟨deepUser 125, (newToken (Service.ofProfiles []).random).1, 86400000⟩
    let outcome := signIn (Service.ofProfiles [deepUser 125]) (some MemoryKeys.empty)
      ⟨"profiles", none, SessionOptions.lifetimeOf 24⟩ (fun _ _ => false) (.ofMillis 0)
      ⟨some "ana", none, none⟩
    outcome.1 = sessionAnswer session ∧ (currentUser outcome.2.2).1 = some session.user ∧
      (currentSession outcome.2.2 (.ofMillis 0)).1 ≠ some session := by
  intro session outcome
  have admitted := admission_deepUser 125
  have start : Follows MemoryKeys.contents (some MemoryKeys.empty) none :=
    ⟨MemoryKeys.empty, rfl, rfl, rfl⟩
  have follows := start.leave MemoryKeys.neverFails
    ⟨"profiles", none, SessionOptions.lifetimeOf 24⟩ (fun _ _ => false)
    (.signIn (Service.ofProfiles [deepUser 125]) (.ofMillis 0) ⟨some "ana", none, none⟩)
  rw [follow_signIn_admitted admitted] at follows
  have ordered := canonical_deepUser 125
  refine ⟨?_, ?_, ?_⟩
  · rw [(signIn_of_admitted admitted _).1]
    exact deliver_of_kept rfl
  · have given := follows.currentUser MemoryKeys.neverFails
    rw [Option.bind_some, (Session.user_restored_iff ordered).mpr (isLegible_deepUser 126 125)]
      at given
    exact given
  · intro restored
    have legible := (((follows.currentSession_iff MemoryKeys.neverFails ordered (.ofMillis 0)).2
      (by decide)).mp restored).1
    rw [isLegible_deepUser] at legible
    exact absurd legible (by decide)

end Auth
end RowGate
