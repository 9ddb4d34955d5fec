import RowGate.CommandLine.Arguments
import RowGate.CommandLine.Fault
import RowGate.Connection
import RowGate.Http.Address
import RowGate.Http.Router

namespace RowGate
namespace CommandLine

/-!
# Running commands

A command is run in surroundings: files, environment variables, a database, a
network, a clock reading and random bits.  What it leaves behind is its output,
the journal, the files, the database, the responses it has sent, and a fault if
it failed.  Each command loads its settings first, which set the threshold of the
journal; one that needs the database connects for its own duration and closes
the service behind itself, also when it fails.
-/

/-- What a command is run in. -/
structure Surroundings (δ : Type) where
  files : FileTree
  lookup : String → Option String
  database : δ
  /-- Listen on an address: the requests that arrive until listening ends, each
  with the time of its arrival, and why it ended. -/
  listen : Http.Address → Except String (List (Time.Instant × Http.Request) × String)
  now : Time.Instant
  random : Random

/-- What a command leaves behind. -/
structure Outcome (δ : Type) where
  output : String
  journal : Journal
  files : FileTree
  database : δ
  responses : List Http.Response
  result : Except Fault Unit

/-! ## Requests of the command line -/

namespace Inquiry

/-- A filter argument: a column, an equals sign and the value of a filter. -/
def predicate (filter : String) : Except Fault Predicate :=
  match Text.cutFirst '=' filter.toList with
  | some (column, raw) => .ok (.ofPair (String.ofList column) (String.ofList raw))
  | none => .error ⟨.argument, "Filter must be column=[op.]value: " ++ filter⟩

/-- The step of an order argument. -/
def orderStep (order : String) : Except Fault ReadStep :=
  match Http.Parameters.readOrder order with
  | .ok key => .ok (.order key)
  | .error failure => .error ⟨.argument, failure.message⟩

/-- The steps of an inquiry; the first malformed filter is reported, then a
malformed order. -/
def steps (inquiry : Inquiry) : Except Fault (List ReadStep) := do
  let predicates ← inquiry.filters.mapM predicate
  let order ← inquiry.order.toList.mapM orderStep
  .ok (.select inquiry.select :: predicates.map .filter ++ order ++
    (inquiry.limit.map ReadStep.limit).toList)

end Inquiry

/-! ## Outcomes -/

/-- A document as a line of output. -/
def lineOf (document : Json) : String :=
  document.render ++ "\n"

/-- Whether an answer makes its command fail. -/
def verdict (answer : Answer) : Except Fault Unit :=
  match answer.failure with
  | some failure => .error (.ofFailure failure)
  | none => .ok ()

namespace Surroundings

variable {δ : Type}

/-- An outcome that leaves files and database alone. -/
def outcome (surroundings : Surroundings δ) (journal : Journal) (output : String)
    (result : Except Fault Unit) : Outcome δ :=
  { output := output
    journal := journal
    files := surroundings.files
    database := surroundings.database
    responses := []
    result := result }

/-- Load the settings in a file and go on with them. -/
def withSettings (surroundings : Surroundings δ) (path : String)
    (next : Settings → Journal → Outcome δ) : Outcome δ :=
  let loaded := (Settings.load surroundings.files surroundings.lookup path).bind fun settings =>
    settings.severity.map fun severity => (settings, severity)
  match loaded with
  | .error error => surroundings.outcome .empty "" (.error (.ofSettings error))
  | .ok (settings, severity) => next settings { Journal.empty with threshold := severity }

/-- The local store that the settings name. -/
def keys (surroundings : Surroundings δ) (settings : Settings) : Auth.FileKeys :=
  ⟨surroundings.files, settings.session.directory⟩

/-- The files behind a local store. -/
def filesOf (surroundings : Surroundings δ) (keys : Option Auth.FileKeys) : FileTree :=
  (keys.map Auth.FileKeys.tree).getD surroundings.files

variable [Database δ]

/-- The outcome of a command that is done with its service, which is closed. -/
def finish (surroundings : Surroundings δ) (service : Service (Postgres δ)) (output : String)
    (result : Except Fault Unit) : Outcome δ :=
  let closed := service.close
  { surroundings.outcome closed.journal output result with database := closed.store.database }

/-- Connect and go on with the service. -/
def withService (surroundings : Surroundings δ) (settings : Settings) (journal : Journal)
    (next : Service (Postgres δ) → Outcome δ) : Outcome δ :=
  match settings.connection with
  | .error error => surroundings.outcome journal "" (.error (.ofSettings error))
  | .ok url =>
      let connected := Service.connect surroundings.database url settings.pool settings.schema
        settings.auditTable journal surroundings.random
      match connected.1 with
      | .error failure =>
          { surroundings.outcome connected.2.journal "" (.error ⟨.connection, failure.message⟩) with
            database := connected.2.store.database }
      | .ok _ => next connected.2

/-! ## Commands -/

/-- Answer a read. -/
def query (surroundings : Surroundings δ) (inquiry : Inquiry) (service : Service (Postgres δ)) :
    Outcome δ :=
  match inquiry.steps with
  | .error fault => surroundings.finish service "" (.error fault)
  | .ok steps =>
      let answered := service.readNow inquiry.table steps
      surroundings.finish answered.2 (lineOf answered.1.toJson) (verdict answered.1)

/-- Sign in and keep the session. -/
def signIn (surroundings : Surroundings δ) (credentials : Auth.Credentials) (settings : Settings)
    (service : Service (Postgres δ)) : Outcome δ :=
  let signed := Auth.signIn service (some (surroundings.keys settings)) settings.session.options
    Auth.verifyPassword surroundings.now credentials
  { surroundings.finish signed.2.1 (lineOf signed.1.toJson) (verdict signed.1) with
    files := surroundings.filesOf signed.2.2 }

/-- Forget the session that is kept. -/
def signOut (surroundings : Surroundings δ) (settings : Settings) (journal : Journal) :
    Outcome δ :=
  let signed := Auth.signOut journal (some (surroundings.keys settings))
  { surroundings.outcome signed.2.1 (lineOf signed.1.toJson) (verdict signed.1) with
    files := surroundings.filesOf signed.2.2 }

/-- Show the session that is kept, or null. -/
def showSession (surroundings : Surroundings δ) (settings : Settings) (journal : Journal) :
    Outcome δ :=
  let found := Auth.currentSession (some (surroundings.keys settings)) surroundings.now
  surroundings.outcome journal
    (lineOf ((found.1.map Auth.Session.toJson).getD .null)) (.ok ())

/-- Show the hash of a password. -/
def hashPassword (surroundings : Surroundings δ) (password : String) : Outcome δ :=
  surroundings.outcome .empty
    (lineOf (.string (Auth.hashPassword surroundings.random password).1)) (.ok ())

/-! ## Serving -/

/-- The fault of a server that stopped. -/
def serverFault (reason : String) : Except Fault Unit :=
  .error ⟨.server, "HTTP server failed: " ++ reason⟩

/-- The event of a server that listens. -/
def startedEvent (address : Http.Address) : Event where
  severity := .info
  name := "HTTP_SERVER_STARTED"
  fields := [("addr", address.text)]

/-- Answer requests one after the other. -/
def answerAll (service : Service (Postgres δ)) (cors : Http.Cors) :
    List (Time.Instant × Http.Request) → List Http.Response × Service (Postgres δ)
  | [] => ([], service)
  | (now, request) :: rest =>
      let answered := Http.answer service now cors request
      let others := answerAll answered.2 cors rest
      (answered.1 :: others.1, others.2)

/-- Listen, and answer requests until listening ends. -/
def serve (surroundings : Surroundings δ) (http : HttpSettings) (service : Service (Postgres δ)) :
    Outcome δ :=
  match Http.Address.read? http.address with
  | none =>
      surroundings.finish service "" (serverFault
        ("Invalid socket address " ++ http.address ++ ": invalid socket address syntax"))
  | some address =>
      match surroundings.listen address with
      | .error reason => surroundings.finish service "" (serverFault reason)
      | .ok (requests, reason) =>
          let answered := answerAll (service.record (startedEvent address)) ⟨http.origins⟩ requests
          { surroundings.finish answered.2 "" (serverFault reason) with
            responses := answered.1 }

/-- The settings of a server whose port is given on the command line. -/
def atPort (http : HttpSettings) (port : Option Nat) : HttpSettings :=
  { http with port := port.getD http.port }

/-- Run a command. -/
def run (surroundings : Surroundings δ) : Command → Outcome δ
  | .serve path port =>
      surroundings.withSettings path fun settings journal =>
        surroundings.withService settings journal (surroundings.serve (atPort settings.http port))
  | .query path inquiry =>
      surroundings.withSettings path fun settings journal =>
        surroundings.withService settings journal (surroundings.query inquiry)
  | .signIn path credentials =>
      surroundings.withSettings path fun settings journal =>
        surroundings.withService settings journal (surroundings.signIn credentials settings)
  | .signOut path => surroundings.withSettings path surroundings.signOut
  | .session path => surroundings.withSettings path surroundings.showSession
  | .hashPassword password => surroundings.hashPassword password

end Surroundings
end CommandLine
end RowGate
