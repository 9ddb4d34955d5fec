import RowGate.Http.Cors
import RowGate.Http.Parameters
import RowGate.Http.Target
import RowGate.Json.Reader
import RowGate.Query.Procedure

namespace RowGate
namespace Http

/-!
# The HTTP surface

A path names the health check, a table or a procedure.  On a table, GET reads,
POST inserts, PATCH updates and DELETE deletes; an insert of one row answers
with that row alone.  A procedure is called by POST and answers in full.
Failures are answered with their status, and those of the server are noted.
-/

/-! ## Paths -/

/-- What a path names.  The segments are still percent-encoded. -/
inductive Route where
  | health
  | noTable
  | procedure (segment : List Char)
  | table (segment : List Char)
  | unknown
deriving DecidableEq, Repr

namespace Route

/-- The route of a path. -/
def ofPath (path : List Char) : Route :=
  match (Text.pieces '/' path).map String.ofList with
  | ["", "health"] => health
  | ["", "rest", "v1"] => noTable
  | ["", "rest", "v1", name] => if name = "" then noTable else table name.toList
  | ["", "rest", "v1", "rpc", name] => if name = "" then unknown else procedure name.toList
  | _ => unknown

/-- The methods that a route names when it refuses another one. -/
def allowed : Route → Option String
  | health => some "GET,HEAD"
  | procedure _ => some "POST"
  | _ => none

end Route

/-- The methods that tables answer to. -/
def tableMethods : String := "GET,POST,PATCH,DELETE"

/-- The answer to a segment that is no text. -/
def undecodable (name : String) : Response :=
  .plain 400 ("Invalid URL: Invalid UTF-8 in `" ++ name ++ "`")

/-- The most bytes of a body. -/
def maxBody : Nat := 2097152

/-- The answer to a body that is too large. -/
def overlong : Response :=
  .plain 413 "Failed to buffer the request body: length limit exceeded"

/-- The value of a body; a blank body is null. -/
def bodyValue (body : List UInt8) : Except Failure Json :=
  if body.all Text.isBlankByte then .ok .null
  else
    match Text.Utf8.decode? body with
    | none =>
        .error (.invalidBody (Json.Fault.message (.after .badText (Text.Utf8.decodeLossy body))))
    | some cs =>
        match Json.read (String.ofList cs) with
        | .ok value => .ok value
        | .error fault => .error (.invalidBody fault.message)

/-- The event of a request that failed on the server. -/
def failedEvent (method target : String) (failure : Failure) : Event where
  severity := .error
  name := "REQUEST_FAILED"
  fields := [("error", failure.message), ("method", method),
    ("status", Nat.repr failure.status), ("target", target)]

/-- The answer to a failure. -/
def failureResponse (failure : Failure) : Response :=
  let response := Response.json failure.status (failureBody failure)
  match failure with
  | .methodNotAllowed _ => response.withHeaders [("allow", tableMethods)]
  | _ => response

/-- The steps that describe a read with parameters. -/
def readSteps (parameters : Parameters) : List ReadStep :=
  .select parameters.select :: parameters.predicates.map .filter ++
    (parameters.order.map .order).toList ++ (parameters.limit.map .limit).toList

variable {σ : Type}

/-- Note a failure of the server. -/
def noteFailure (service : Service σ) (method target : String) (failure : Failure) : Service σ :=
  if 500 ≤ failure.status then service.record (failedEvent method target failure) else service

/-- Answer with a failure. -/
def refuse (service : Service σ) (method target : String) (failure : Failure) :
    Response × Service σ :=
  (failureResponse failure, noteFailure service method target failure)

variable [Store σ]

/-- Narrow the answer of an insert if it is one row. -/
def narrowed (answer : Answer) : Answer :=
  if answer.succeeded ∧ answer.count = 1 then answer.single else answer

/-- The operation on a table that a method stands for. -/
def dispatch (service : Service σ) (now : Time.Instant) (method table : String)
    (pairs : List (String × String)) (body : List UInt8) : Except Failure Json × Service σ :=
  if Text.isAllBlank table then (.error .missingTable, service)
  else if method = "GET" then
    match Parameters.read method pairs with
    | .error failure => (.error failure, service)
    | .ok parameters =>
        let answered := service.readNow table (readSteps parameters)
        (answered.1.result, answered.2)
  else if method = "POST" then
    match bodyValue body with
    | .error failure => (.error failure, service)
    | .ok content =>
        let answered := service.insertJson now table content
        ((narrowed answered.1).result, answered.2)
  else if method = "PATCH" then
    match Parameters.read method pairs, bodyValue body with
    | .error failure, _ => (.error failure, service)
    | .ok _, .error failure => (.error failure, service)
    | .ok parameters, .ok content =>
        let answered := service.update now table parameters.predicates content
        (answered.1.result, answered.2)
  else if method = "DELETE" then
    match Parameters.read method pairs with
    | .error failure => (.error failure, service)
    | .ok parameters =>
        let answered := service.delete table parameters.predicates
        (answered.1.result, answered.2)
  else (.error (.methodNotAllowed method), service)

/-- Answer a request for a table. -/
def answerTable (service : Service σ) (now : Time.Instant) (request : Request)
    (segment query : List Char) : Response × Service σ :=
  match Target.segment? segment with
  | none => (undecodable "table", service)
  | some table =>
      if maxBody < request.body.length then (overlong, service)
      else
        let pairs := Text.Percent.pairs query
        let result := dispatch service now request.method table pairs request.body
        match result.1 with
        | .ok data => (.json 200 data, result.2)
        | .error failure => refuse result.2 request.method table failure

/-- Call a procedure with the content of a body. -/
def callWith (service : Service σ) (now : Time.Instant) (name : String) (body : List UInt8) :
    Answer × Service σ :=
  match bodyValue body with
  | .error failure => (.failed failure, service)
  | .ok params => service.call now name params

/-- Answer a request for a procedure. -/
def answerProcedure (service : Service σ) (now : Time.Instant) (request : Request)
    (segment : List Char) : Response × Service σ :=
  match Target.segment? segment with
  | none => (undecodable "function", service)
  | some name =>
      if maxBody < request.body.length then (overlong, service)
      else
        let called := callWith service now name request.body
        match called.1.failure with
        | none => (.json 200 called.1.toJson, called.2)
        | some failure =>
            (.json failure.status called.1.toJson, noteFailure called.2 "POST" name failure)

/-- The answer to a method that a route does not have. -/
def otherMethod (route : Route) : Response :=
  (Response.bare 405).withHeaders (route.allowed.map fun methods => ("allow", methods)).toList

/-- The document of the health check. -/
def healthBody : Json :=
  .object [("status", .string "ok")]

/-- Answer a request for a route. -/
def answerRoute (service : Service σ) (now : Time.Instant) (request : Request)
    (route : Route) (query : List Char) : Response × Service σ :=
  match route with
  | .health =>
      if request.method = "GET" then (.json 200 healthBody, service)
      else if request.method = "HEAD" then
        ({ Response.json 200 healthBody with body := "" }, service)
      else (otherMethod route, service)
  | .noTable => refuse service request.method "" .missingTable
  | .procedure segment =>
      if request.method = "POST" then answerProcedure service now request segment
      else (otherMethod route, service)
  | .table segment => answerTable service now request segment query
  | .unknown => (.bare 404, service)

/-- Answer a request. -/
def answer (service : Service σ) (now : Time.Instant) (cors : Cors) (request : Request) :
    Response × Service σ :=
  let parts := Target.parts request.target
  let route := Route.ofPath parts.1
  if request.method = "OPTIONS" then
    ((cors.preflight request).withHeaders
      (route.allowed.map fun methods => ("allow", methods)).toList, service)
  else
    let answered := answerRoute service now request route parts.2
    (answered.1.withHeaders (cors.headers request), answered.2)

end Http
end RowGate
