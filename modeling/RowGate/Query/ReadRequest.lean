import RowGate.Query.Filter
import RowGate.Query.Statement

namespace RowGate

/-!
# Read requests

A read is described before it is planned: table, columns, predicates, order and
limit are taken as the caller gives them.
-/

/-- The description of a read. -/
structure ReadRequest where
  table : String
  select : String
  predicates : List Predicate
  order : Option SortOrder
  limit : Option Nat
  counting : Bool
deriving DecidableEq

namespace ReadRequest

/-- All rows and columns of a table. -/
def ofTable (table : String) : ReadRequest where
  table := table
  select := "*"
  predicates := []
  order := none
  limit := none
  counting := false

/-- Add a predicate behind the others. -/
def filter (request : ReadRequest) (predicate : Predicate) : ReadRequest :=
  { request with predicates := request.predicates ++ [predicate] }

end ReadRequest
end RowGate
