import RowGate.Failure
import RowGate.Json.Writer

namespace RowGate
namespace Http

/-!
# Requests and responses

A request is a method, a target, headers and the bytes of a body.  The methods
are case-sensitive words, and names of headers are in lower case.
-/

/-- A request. -/
structure Request where
  method : String
  target : String
  headers : List (String × String)
  body : List UInt8

namespace Request

/-- The first header of a name. -/
def header? (request : Request) (name : String) : Option String :=
  (request.headers.find? fun header => header.1.toLower == name).map Prod.snd

end Request

/-- A response. -/
structure Response where
  status : Nat
  headers : List (String × String)
  body : String
deriving DecidableEq, Repr

namespace Response

/-- A response without content. -/
def bare (status : Nat) : Response :=
  ⟨status, [], ""⟩

/-- A response with a document. -/
def json (status : Nat) (value : Json) : Response :=
  ⟨status, [("content-type", "application/json")], value.render⟩

/-- A response with a plain text. -/
def plain (status : Nat) (text : String) : Response :=
  ⟨status, [("content-type", "text/plain; charset=utf-8")], text⟩

/-- Add headers. -/
def withHeaders (response : Response) (headers : List (String × String)) : Response :=
  { response with headers := response.headers ++ headers }

end Response

/-- The document that reports a failure. -/
def failureBody (failure : Failure) : Json :=
  .object [("error", .string failure.message), ("code", Json.ofNat failure.status)]

end Http
end RowGate
