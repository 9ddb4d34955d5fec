import RowGate.Http.Message

namespace RowGate
namespace Http

/-!
# Sharing across origins

Without a list of origins every origin is admitted; with a list, a request is
admitted if it names one of them.  Methods and headers are never restricted.
Every request with the method OPTIONS is answered as a preflight.
-/

/-- The origins that are admitted; an empty list admits all. -/
structure Cors where
  origins : List String
deriving DecidableEq, Repr

namespace Cors

/-- A text can be the value of a header. -/
def isHeaderValue (s : String) : Bool :=
  s.toList.all fun c => c = '\t' || (32 ≤ c.toNat && c.toNat ≠ 127)

/-- The header that admits the origin of a request. -/
def originHeaders (cors : Cors) (origin : Option String) : List (String × String) :=
  let name := "access-control-allow-origin"
  if cors.origins = [] then [(name, "*")]
  else
    match origin with
    | some origin => if isHeaderValue origin ∧ origin ∈ cors.origins then [(name, origin)] else []
    | none => []

/-- The header that says what the response depends on. -/
def varyHeader : String × String :=
  ("vary", "origin, access-control-request-method, access-control-request-headers")

/-- The answer to a preflight. -/
def preflight (cors : Cors) (request : Request) : Response :=
  (Response.bare 200).withHeaders
    (("access-control-allow-headers", "*") :: ("access-control-allow-methods", "*") ::
      varyHeader :: cors.originHeaders (request.header? "origin"))

/-- The headers of any other answer. -/
def headers (cors : Cors) (request : Request) : List (String × String) :=
  varyHeader :: cors.originHeaders (request.header? "origin")

end Cors
end Http
end RowGate
