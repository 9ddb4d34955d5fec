import RowGate.Auth.KeyStore
import RowGate.Auth.PasswordHash
import RowGate.Json.Decode
import RowGate.Query.Deferred

namespace RowGate
namespace Auth

/-!
# Sessions

Signing in looks up a profile by e-mail address or user name, verifies the
password against the hash in the profile, and keeps session and user in the
local store.  The hash never becomes part of the user.  Without a password
column the look-up alone signs in.  Without a local store a session is returned
but not kept.
-/

/-- A session: the user, an opaque token, and the time it ends, in milliseconds
from the epoch. -/
structure Session where
  user : Row
  token : String
  expiresAt : Int
deriving DecidableEq

namespace Session

/-- Whether a session has ended. -/
def isExpiredAt (session : Session) (millis : Int) : Bool :=
  session.expiresAt ≤ millis

/-- A session as a document. -/
def toJson (session : Session) : Json :=
  .object [("user", session.user.toJson), ("access_token", .string session.token),
    ("expires_at", Json.ofInt session.expiresAt)]

/-- The user of a document. -/
def userOfJson? (value : Json) : Option Row :=
  Row.ofJson? value.canonical

/-- The fields. -/
def shape : Json.Shape :=
  .record [("user", .map .value), ("access_token", .plain), ("expires_at", .plain)]

/-- Read a session. -/
def ofJson? (value : Json) : Option Session := do
  let values ← Json.Decode.fields? shape value
  let user ← Json.Decode.required values "user" userOfJson?
  let token ← Json.Decode.required values "access_token" Json.asString?
  let expiresAt ← Json.Decode.required values "expires_at"
    (Json.Decode.intBetween Bounded.minInt64 Bounded.maxInt64)
  some ⟨user, token, expiresAt⟩

/-- Read the text of a session. -/
def read? (text : String) : Option Session :=
  (Json.decode shape ofJson? text).toOption

end Session

/-- What a caller signs in with. -/
structure Credentials where
  email : Option String
  username : Option String
  password : Option String
deriving DecidableEq, Repr

namespace Credentials

/-- The column and the text that a profile is looked up by. -/
def lookup (credentials : Credentials) : Except Failure (String × String) :=
  match credentials.email, credentials.username with
  | some email, _ => .ok ("email", email)
  | none, some username => .ok ("username", username)
  | none, none => .error (.invalidBody "email or username is required")

end Credentials

/-- Where profiles are, which column holds the hash, and how long sessions
last. -/
structure SessionOptions where
  profilesTable : String
  passwordColumn : Option String
  lifetimeMillis : Int
deriving DecidableEq, Repr

namespace SessionOptions

/-- The longest lifetime in hours. -/
def maxHours : Int := 87600

/-- The lifetime of a number of hours, brought into the admitted range. -/
def lifetimeOf (hours : Int) : Int :=
  3600000 * max 1 (min hours maxHours)

end SessionOptions

/-! ## Keeping a session -/

/-- The key of the session. -/
def sessionKey : String := "session"

/-- The key of the user. -/
def userKey : String := "user"

section

variable {τ : Type} [KeyStore τ]

/-- Keep a session and its user.  Without a local store there is nothing to
do. -/
def persist (keys : Option τ) (session : Session) : Except Failure Unit × Option τ :=
  match keys with
  | none => (.ok (), none)
  | some keys =>
      let first := KeyStore.set keys sessionKey session.toJson.render
      match first.1 with
      | .error message => (.error (.session message), some first.2)
      | .ok _ =>
          let second := KeyStore.set first.2 userKey session.user.toJson.render
          match second.1 with
          | .error message => (.error (.session message), some second.2)
          | .ok _ => (.ok (), some second.2)

/-- Forget session and user. -/
def forget (keys : Option τ) : Except Failure Unit × Option τ :=
  match keys with
  | none => (.ok (), none)
  | some keys =>
      let first := KeyStore.remove keys sessionKey
      match first.1 with
      | .error message => (.error (.session message), some first.2)
      | .ok _ =>
          let second := KeyStore.remove first.2 userKey
          match second.1 with
          | .error message => (.error (.session message), some second.2)
          | .ok _ => (.ok (), some second.2)

/-- The text under a key; none if it cannot be read. -/
def stored (keys : Option τ) (key : String) : Option String × Option τ :=
  match keys with
  | none => (none, none)
  | some keys =>
      let found := KeyStore.get keys key
      match found.1 with
      | .ok value => (value, some found.2)
      | .error _ => (none, some found.2)

/-- The session that is kept; none if there is none, or it is unreadable or has
ended. -/
def currentSession (keys : Option τ) (now : Time.Instant) : Option Session × Option τ :=
  let found := stored keys sessionKey
  ((found.1.bind Session.read?).filter fun session => !session.isExpiredAt now.millis, found.2)

/-- The user that is kept; none if there is none or it is unreadable. -/
def currentUser (keys : Option τ) : Option Row × Option τ :=
  let found := stored keys userKey
  (found.1.bind fun text => (Json.decode (.map .value) Session.userOfJson? text).toOption, found.2)

/-! ## Signing in and out -/

variable {σ : Type}

/-- The event of a sign-in without a password. -/
def unverifiedEvent (column table : String) : Event where
  severity := .warn
  name := "SIGN_IN_UNVERIFIED"
  fields := [("lookup", column), ("table", table)]

/-- The event of a sign-in. -/
def signInEvent (column : String) (user : Row) : Event where
  severity := .info
  name := "SIGN_IN"
  fields := [("lookup", column),
    ("user_id", ((user.get? SystemColumn.id).map Json.render).getD "")]

/-- The event of a sign-out. -/
def signOutEvent : Event where
  severity := .info
  name := "SIGN_OUT"
  fields := []

/-- Whether the password of the caller verifies against the hash in a
profile. -/
def verifies (verify : String → String → Bool) (hash : Option Json) (password : Option String) :
    Bool :=
  match hash.bind Json.asString?, password with
  | some hash, some password => verify password hash
  | _, _ => false

/-- The user of a profile, if the caller may sign in as that user. -/
def authenticate (service : Service σ) (options : SessionOptions) (verify : String → String → Bool)
    (password : Option String) (column : String) (profile : Row) :
    Except Failure Row × Service σ :=
  match options.passwordColumn with
  | none => (.ok profile, service.record (unverifiedEvent column options.profilesTable))
  | some passwordColumn =>
      if verifies verify (profile.get? passwordColumn) password then
        (.ok (profile.erase passwordColumn), service)
      else (.error .invalidCredentials, service)

/-- A session of a user, with a fresh token. -/
def openSession (service : Service σ) (options : SessionOptions) (now : Time.Instant)
    (user : Row) : Session × Service σ :=
  let drawn := newToken service.random
  (⟨user, drawn.1, now.millis + options.lifetimeMillis⟩, { service with random := drawn.2 })

/-- The steps of the read that looks up a profile. -/
def lookupSteps (column value : String) : List ReadStep :=
  [.select "*", .filter ⟨column, Comparison.eq.word, .string value⟩, .limit 1, .single]

/-- The answer to a sign-in. -/
def sessionAnswer (session : Session) : Answer :=
  .ofValue (Json.canonical (.object [("user", session.user.toJson), ("session", session.toJson)])) 1

/-- Keep the session of an admitted user and answer with it. -/
def complete (service : Service σ) (keys : Option τ) (options : SessionOptions)
    (now : Time.Instant) (column : String) (user : Row) : Answer × Service σ × Option τ :=
  let opened := openSession service options now user
  let kept := persist keys opened.1
  match kept.1 with
  | .error failure => (.failed failure, opened.2, kept.2)
  | .ok _ => (sessionAnswer opened.1, opened.2.record (signInEvent column user), kept.2)

/-- Sign in. -/
def signIn [Store σ] (service : Service σ) (keys : Option τ) (options : SessionOptions)
    (verify : String → String → Bool) (now : Time.Instant) (credentials : Credentials) :
    Answer × Service σ × Option τ :=
  match credentials.lookup with
  | .error failure => (.failed failure, service, keys)
  | .ok (column, value) =>
      let found := service.readNow options.profilesTable (lookupSteps column value)
      match found.1.result with
      | .error failure => (.failed failure, found.2, keys)
      | .ok data =>
          match Row.ofJson? data with
          | none => (.failed .userNotFound, found.2, keys)
          | some profile =>
              let admitted :=
                authenticate found.2 options verify credentials.password column profile
              match admitted.1 with
              | .error failure => (.failed failure, admitted.2, keys)
              | .ok user => complete admitted.2 keys options now column user

/-- Sign out. -/
def signOut (journal : Journal) (keys : Option τ) : Answer × Journal × Option τ :=
  let forgotten := forget keys
  match forgotten.1 with
  | .error failure => (.failed failure, journal, forgotten.2)
  | .ok _ => (.ofValue .null 0, journal.record signOutEvent, forgotten.2)

end
end Auth
end RowGate
