import RowGate.Text.Percent

namespace RowGate
namespace Http

/-!
# Request targets

A target is a path, and behind a question mark a query.  Bytes of a query that
are no text are replaced, those of a path are refused.
-/

namespace Target

/-- Drop the scheme and the authority in front of a path. -/
def withoutAuthority (cs : List Char) : List Char :=
  if cs.head? = some '/' then cs
  else
    match Text.cutFirst ':' cs with
    | some (_, '/' :: '/' :: rest) => rest.dropWhile fun c => c ≠ '/' ∧ c ≠ '?'
    | _ => cs

/-- Path and query of a target. -/
def parts (target : String) : List Char × List Char :=
  let shown := (withoutAuthority target.toList).takeWhile (· ≠ '#')
  match Text.cutFirst '?' shown with
  | some (path, query) => (path, query)
  | none => (shown, [])

/-- A segment of a path as text. -/
def segment? (cs : List Char) : Option String :=
  (Text.Percent.read cs).toOption

end Target
end Http
end RowGate
