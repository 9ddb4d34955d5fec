import RowGate.Failure
import RowGate.Json.Writer

namespace RowGate

/-!
# Answers

Every operation answers in one shape: data, the failure if there is one, and
the number of rows.  A batch that stopped has both rows and a failure.
-/

/-- The answer of an operation. -/
structure Answer where
  data : Json
  failure : Option Failure
  count : Nat
deriving DecidableEq

namespace Answer

/-- An answer with rows. -/
def ofRows (rows : List Row) : Answer :=
  ⟨.array (rows.map Row.toJson), none, rows.length⟩

/-- The answer of a counting read. -/
def counted (count : Nat) : Answer :=
  ⟨.null, none, count⟩

/-- An answer with one value. -/
def ofValue (data : Json) (count : Nat) : Answer :=
  ⟨data, none, count⟩

/-- An answer without data. -/
def failed (failure : Failure) : Answer :=
  ⟨.null, some failure, 0⟩

/-- The answer of a batch that stopped behind some rows. -/
def stopped (rows : List Row) (failure : Failure) : Answer :=
  { ofRows rows with failure := some failure }

/-- The answer to what a store returned. -/
def ofResult : Except Failure (List Row) → Answer
  | .ok rows => ofRows rows
  | .error failure => failed failure

/-- Whether there is no failure. -/
def succeeded (answer : Answer) : Bool :=
  answer.failure.isNone

/-- Narrow a list of rows to its first row, or null.  An answer with a failure
stays as it is. -/
def single (answer : Answer) : Answer :=
  match answer.failure, answer.data with
  | none, .array [] => ⟨.null, none, 0⟩
  | none, .array (first :: _) => ⟨first, none, 1⟩
  | _, _ => answer

/-- The rows among the data. -/
def records (answer : Answer) : List Row :=
  match answer.data with
  | .array items => items.filterMap Row.ofJson?
  | .object members => [Keyed.ofList members]
  | _ => []

/-- The data, or the failure. -/
def result (answer : Answer) : Except Failure Json :=
  match answer.failure with
  | some failure => .error failure
  | none => .ok answer.data

/-- An answer as a document. -/
def toJson (answer : Answer) : Json :=
  .object [("data", answer.data),
    ("error", match answer.failure with
      | some failure => .string failure.message
      | none => .null),
    ("count", Json.ofNat answer.count)]

end Answer
end RowGate
