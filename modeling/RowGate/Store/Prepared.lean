import RowGate.Store.Wire

namespace RowGate

/-!
# Prepared statements

A connection keeps the statements prepared that it has used last, up to a
number, with the types that their values were first sent with.  Using a
statement brings it to the front, and what does not fit any more is forgotten.
-/

/-- The statements that a connection keeps prepared, the last used first. -/
structure Prepared where
  capacity : Nat
  statements : List (String × List Wire.Kind)
deriving DecidableEq, Repr

namespace Prepared

/-- Nothing is prepared. -/
def empty (capacity : Nat) : Prepared :=
  ⟨capacity, []⟩

/-- The types of the values of a statement, if it is prepared. -/
def kinds? (prepared : Prepared) (sql : String) : Option (List Wire.Kind) :=
  prepared.statements.lookup sql

/-- Use a statement. -/
def use (prepared : Prepared) (sql : String) (kinds : List Wire.Kind) : Prepared :=
  let others := prepared.statements.filter fun statement => statement.1 ≠ sql
  { prepared with statements := ((sql, kinds) :: others).take prepared.capacity }

/-- Forget all statements. -/
def forgotten (prepared : Prepared) : Prepared :=
  empty prepared.capacity

end Prepared
end RowGate
