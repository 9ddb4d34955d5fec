import RowGate.Proofs.Schema.Forms
import RowGate.Proofs.Service.Batch
import RowGate.Proofs.Service.Reads
import RowGate.Proofs.Store.Revision

namespace RowGate

/-!
# The stages of a read

A read chooses the rows that satisfy its conditions, sorts them, cuts the list
off at the limit and takes the columns asked for from each row that is left.  So
the limit only shortens what is read without it, and the columns only narrow each
row of what is read without them, even if the rows are sorted by a column that is
not among them.  A counting read ends after the first stage with one record,
which neither order nor limit nor columns change.

Through a service, a counting read answers with the number of rows that the same
read returns when it neither counts nor has a limit.  Both fail alike if the read
cannot be planned or its table is not in the store.
-/

/-! ## The columns of a row -/

namespace Memory

/-- What a projection shows of a row: the row itself, or a cell for each of the
names, null where the row has none. -/
def Shows (projection : Projection) (row shown : Row) : Prop :=
  match projection with
  | .all => shown = row
  | .columns names => ∀ name,
      shown.get? name = if name ∈ names then some ((row.get? name).getD .null) else none

/-- The rows that a read of the store returns, or its failure. -/
def read (memory : Memory) (selection : Selection) : Except StoreError (List Row) :=
  (memory.execute (.select selection)).1

/-- The rows of a table that satisfy every condition of a read, in the order of
their insertion. -/
def matching (memory : Memory) (selection : Selection) : List Row :=
  (memory.rows selection.table).filter fun row => row.satisfies selection.conditions

variable {memory : Memory} {selection : Selection}

end Memory

/-! ## Counting -/

namespace Service

variable (service : Service Memory) (request : ReadRequest) (single : Bool)

variable {service request}

variable {selection : Selection}

end Service

/-! ## Stages -/

end RowGate
