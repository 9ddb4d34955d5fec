import RowGate.Decimal.Bounded
import RowGate.Failure
import RowGate.Query.ReadRequest
import RowGate.Text.Blank
import RowGate.Text.Split

namespace RowGate
namespace Http

/-!
# Query parameters

The pairs of a query string are the columns to return, on a read also order and
limit, and otherwise filters, in the order of the string.  A reserved key that
occurs again counts anew, except that a blank choice of columns is passed over.
-/

/-- The parameters of a request. -/
structure Parameters where
  select : String
  filters : List (String × String)
  order : Option SortOrder
  limit : Option Nat
deriving DecidableEq, Repr

namespace Parameters

/-- The parameters of an empty query string. -/
def none : Parameters :=
  ⟨"*", [], Option.none, Option.none⟩

/-- The direction of a word, in letters of either case. -/
def direction (word : String) : Except Failure Bool :=
  if word.toLower = "asc" then .ok true
  else if word.toLower = "desc" then .ok false
  else .error (.invalidParameter ("Invalid order direction: " ++ word))

/-- The order by a column, whose name is given with blanks around it. -/
def orderBy (column : List Char) (ascending : Bool) : Except Failure SortOrder :=
  let name := String.ofList (Text.trimmed column)
  if name = "" then .error (.invalidParameter "order requires a column") else .ok ⟨name, ascending⟩

/-- Read an order: a column, and behind its last dot a direction. -/
def readOrder (value : String) : Except Failure SortOrder :=
  match Text.cutLast '.' value.toList with
  | some (column, word) => (direction (String.ofList word)).bind (orderBy column)
  | Option.none => orderBy value.toList true

/-- Read a limit. -/
def readLimit (value : String) : Except Failure Nat :=
  match Bounded.natural? Bounded.maxNat64 (Text.trimmed value.toList) with
  | some limit => .ok limit
  | Option.none => .error (.invalidParameter ("Invalid limit: " ++ value))

/-- Take one more pair into account. -/
def add (reads : Bool) (parameters : Parameters) (pair : String × String) :
    Except Failure Parameters :=
  if pair.1 = "select" then
    if Text.isAllBlank pair.2 then .ok parameters else .ok { parameters with select := pair.2 }
  else if pair.1 = "table" then .ok parameters
  else if reads ∧ pair.1 = "order" then
    (readOrder pair.2).map fun order => { parameters with order := some order }
  else if reads ∧ pair.1 = "limit" then
    (readLimit pair.2).map fun limit => { parameters with limit := some limit }
  else .ok { parameters with filters := parameters.filters ++ [pair] }

/-- Read the pairs of a request; order and limit are reserved on GET only. -/
def read (method : String) (pairs : List (String × String)) : Except Failure Parameters :=
  pairs.foldlM (add (method == "GET")) none

/-- The predicates of the filters. -/
def predicates (parameters : Parameters) : List Predicate :=
  parameters.filters.map fun pair => .ofPair pair.1 pair.2

end Parameters
end Http
end RowGate
