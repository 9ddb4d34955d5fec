import RowGate.Auth.Session
import RowGate.Decimal.Bounded
import RowGate.FileTree
import RowGate.Json.Decode

namespace RowGate

/-!
# Settings

Settings are a JSON document in which every field has a default, so that a
missing file is as good as an empty document.  Two environment variables
override the connection string and the port.  What is left is checked as a
whole.
-/

/-- Why there are no settings. -/
inductive SettingsError where
  | unreadable (path message : String)
  | malformed (fault : String)
  | invalid (reason : String)
deriving DecidableEq, Repr

namespace SettingsError

/-- The wording of a settings error. -/
def message : SettingsError → String
  | unreadable path message => "Failed to read config " ++ path ++ ": " ++ message
  | malformed fault => "Invalid config JSON: " ++ fault
  | invalid reason => "Invalid configuration: " ++ reason

end SettingsError

/-- How many connections there may be, and how long to wait for one. -/
structure PoolSettings where
  maxConnections : Nat
  acquireTimeoutSeconds : Nat
deriving DecidableEq, Repr

/-- Where requests are taken from. -/
structure HttpSettings where
  host : String
  port : Nat
  origins : List String
deriving DecidableEq, Repr

/-- How users sign in. -/
structure SessionSettings where
  directory : String
  profilesTable : String
  passwordColumn : Option String
  lifetimeHours : Int
deriving DecidableEq, Repr

/-- All settings. -/
structure Settings where
  databaseUrl : Option String
  pool : PoolSettings
  http : HttpSettings
  session : SessionSettings
  auditTable : String
  schema : String
  logLevel : String
deriving DecidableEq, Repr

namespace PoolSettings

/-- The defaults. -/
def default : PoolSettings :=
  ⟨10, 30⟩

/-- The fields. -/
def shape : Json.Shape :=
  .record [("max_connections", .plain), ("acquire_timeout_secs", .plain)]

/-- Read the pool settings. -/
def ofJson? (value : Json) : Option PoolSettings := do
  let values ← Json.Decode.fields? shape value
  let connections ← Json.Decode.withDefault values "max_connections"
    (Json.Decode.natUpTo 4294967295) default.maxConnections
  let seconds ← Json.Decode.withDefault values "acquire_timeout_secs"
    (Json.Decode.natUpTo Bounded.maxNat64) default.acquireTimeoutSeconds
  some ⟨connections, seconds⟩

/-- Write the pool settings. -/
def toJson (pool : PoolSettings) : Json :=
  .object [("max_connections", Json.ofNat pool.maxConnections),
    ("acquire_timeout_secs", Json.ofNat pool.acquireTimeoutSeconds)]

end PoolSettings

namespace HttpSettings

/-- The defaults. -/
def default : HttpSettings :=
  ⟨"0.0.0.0", 54321, []⟩

/-- The fields. -/
def shape : Json.Shape :=
  .record [("host", .plain), ("port", .plain), ("cors_origins", .plain)]

/-- Read the HTTP settings. -/
def ofJson? (value : Json) : Option HttpSettings := do
  let values ← Json.Decode.fields? shape value
  let host ← Json.Decode.withDefault values "host" Json.asString? default.host
  let port ← Json.Decode.withDefault values "port" (Json.Decode.natUpTo Bounded.maxNat16)
    default.port
  let origins ← Json.Decode.withDefault values "cors_origins" (Json.Decode.list Json.asString?)
    default.origins
  some ⟨host, port, origins⟩

/-- Write the HTTP settings. -/
def toJson (http : HttpSettings) : Json :=
  .object [("host", .string http.host), ("port", Json.ofNat http.port),
    ("cors_origins", .array (http.origins.map .string))]

/-- The address to listen on. -/
def address (http : HttpSettings) : String :=
  http.host ++ ":" ++ Nat.repr http.port

end HttpSettings

namespace SessionSettings

/-- The defaults. -/
def default : SessionSettings :=
  ⟨".tabula", "profiles", some "password_hash", 24⟩

/-- The fields. -/
def shape : Json.Shape :=
  .record [("dir", .plain), ("profiles_table", .plain), ("password_column", .plain),
    ("ttl_hours", .plain)]

/-- Read the session settings. -/
def ofJson? (value : Json) : Option SessionSettings := do
  let values ← Json.Decode.fields? shape value
  let directory ← Json.Decode.withDefault values "dir" Json.asString? default.directory
  let table ← Json.Decode.withDefault values "profiles_table" Json.asString? default.profilesTable
  let column ← Json.Decode.withDefault values "password_column"
    (Json.Decode.nullable Json.asString?) default.passwordColumn
  let hours ← Json.Decode.withDefault values "ttl_hours"
    (Json.Decode.intBetween Bounded.minInt64 Bounded.maxInt64) default.lifetimeHours
  some ⟨directory, table, column, hours⟩

/-- Write the session settings. -/
def toJson (session : SessionSettings) : Json :=
  .object [("dir", .string session.directory), ("profiles_table", .string session.profilesTable),
    ("password_column", (session.passwordColumn.map .string).getD .null),
    ("ttl_hours", Json.ofInt session.lifetimeHours)]

/-- The options of the session store. -/
def options (session : SessionSettings) : Auth.SessionOptions :=
  ⟨session.profilesTable, session.passwordColumn,
    Auth.SessionOptions.lifetimeOf session.lifetimeHours⟩

end SessionSettings

namespace Settings

/-- The defaults. -/
def default : Settings where
  databaseUrl := none
  pool := .default
  http := .default
  session := .default
  auditTable := Service.defaultAuditTable
  schema := "public"
  logLevel := "info"

/-- The fields, in order. -/
def shape : Json.Shape :=
  .record [("database_url", .plain), ("pool", PoolSettings.shape), ("http", HttpSettings.shape),
    ("session", SessionSettings.shape), ("audit_table", .plain), ("schema", .plain),
    ("log_level", .plain)]

/-- Read settings. -/
def ofJson? (value : Json) : Option Settings := do
  let values ← Json.Decode.fields? shape value
  let url ← Json.Decode.withDefault values "database_url" (Json.Decode.nullable Json.asString?)
    default.databaseUrl
  let pool ← Json.Decode.withDefault values "pool" PoolSettings.ofJson? default.pool
  let http ← Json.Decode.withDefault values "http" HttpSettings.ofJson? default.http
  let session ← Json.Decode.withDefault values "session" SessionSettings.ofJson? default.session
  let audit ← Json.Decode.withDefault values "audit_table" Json.asString? default.auditTable
  let schema ← Json.Decode.withDefault values "schema" Json.asString? default.schema
  let level ← Json.Decode.withDefault values "log_level" Json.asString? default.logLevel
  some ⟨url, pool, http, session, audit, schema, level⟩

/-- Write settings. -/
def toJson (settings : Settings) : Json :=
  .object [("database_url", (settings.databaseUrl.map .string).getD .null),
    ("pool", settings.pool.toJson), ("http", settings.http.toJson),
    ("session", settings.session.toJson), ("audit_table", .string settings.auditTable),
    ("schema", .string settings.schema), ("log_level", .string settings.logLevel)]

/-- Read the text of settings. -/
def read (text : String) : Except SettingsError Settings :=
  match Json.decode shape ofJson? text with
  | .ok settings => .ok settings
  | .error fault => .error (.malformed fault.message)

/-- Override the connection string.  An empty one does not count. -/
def overrideUrl (settings : Settings) (url : Option String) : Settings :=
  match url.filter (· ≠ "") with
  | none => settings
  | some url => { settings with databaseUrl := some url }

/-- Override the port. -/
def overridePort (settings : Settings) (port : Option String) : Except SettingsError Settings :=
  match port with
  | none => .ok settings
  | some port =>
      match Bounded.natural? Bounded.maxNat16 port.toList with
      | some number => .ok { settings with http := { settings.http with port := number } }
      | none => .error (.invalid ("TABULA_PORT is not a port: " ++ port))

/-- Apply the environment.  The connection string is overridden even where the
port is refused. -/
def applyEnvironment (settings : Settings) (lookup : String → Option String) :
    Settings × Except SettingsError Unit :=
  let named := settings.overrideUrl (lookup "DATABASE_URL")
  match named.overridePort (lookup "TABULA_PORT") with
  | .ok overridden => (overridden, .ok ())
  | .error error => (named, .error error)

/-- The least severity that is noted. -/
def severity (settings : Settings) : Except SettingsError Severity :=
  match Severity.read settings.logLevel with
  | .ok severity => .ok severity
  | .error reason => .error (.invalid reason)

/-- Refuse settings that cannot be used. -/
def validate (settings : Settings) : Except SettingsError Unit :=
  if settings.pool.maxConnections = 0 then
    .error (.invalid "pool.max_connections must be > 0")
  else if settings.session.lifetimeHours ≤ 0 ∨
      Auth.SessionOptions.maxHours < settings.session.lifetimeHours then
    .error (.invalid "session.ttl_hours must be in 1..=87600")
  else if Text.isAllBlank settings.schema then .error (.invalid "schema must not be empty")
  else if Text.isAllBlank settings.session.profilesTable then
    .error (.invalid "session.profiles_table must not be empty")
  else settings.severity.map fun _ => ()

/-- The connection string. -/
def connection (settings : Settings) : Except SettingsError String :=
  match settings.databaseUrl with
  | some url => .ok url
  | none => .error (.invalid "database_url is required (or set DATABASE_URL)")

/-- The settings in a file, or the defaults if there is none. -/
def readFile (files : FileTree) (path : String) : Except SettingsError Settings :=
  if files.contains path then
    match files.read path with
    | .ok text => read text
    | .error error => .error (.unreadable path error.message)
  else .ok default

/-- Load settings: the file, then the environment, then the check. -/
def load (files : FileTree) (lookup : String → Option String) (path : String) :
    Except SettingsError Settings :=
  (readFile files path).bind fun settings =>
    let applied := settings.applyEnvironment lookup
    applied.2.bind fun _ => applied.1.validate.map fun _ => applied.1

end Settings
end RowGate
