import RowGate.Failure
import RowGate.Journal
import RowGate.Query.Statement

namespace RowGate

/-!
# Stores

A store executes one statement at a time and answers with the rows that the
statement returns or touches.  A closed store executes nothing more.
-/

/-- What a store can do; `σ` is its state. -/
class Store (σ : Type) where
  /-- The name of the store in the journal. -/
  name : String
  /-- Execute a statement. -/
  execute : σ → Statement → Except StoreError (List Row) × σ
  /-- Give up all connections; the events are what there is to note of it. -/
  close : σ → List Event × σ

end RowGate
