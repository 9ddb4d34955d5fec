import RowGate.ConnectionOptions
import RowGate.Json.Reader
import RowGate.Schema.Catalog
import RowGate.Sql.Text
import RowGate.Store.Basic
import RowGate.Store.Prepared

namespace RowGate

/-!
# The store in a database

Statements are compiled and sent to a database.  Each is wrapped so that every
row comes back as one document, whatever the types of its columns.  A connection
prepares the text of a statement once, with the types of the values that come
with it first; the bytes of later values are read as those types while the
statement stays prepared.  Bytes that cannot be read end the connection.
-/

/-- What a database answers: the cells of rows, as texts, or a code and a
message. -/
inductive Reply where
  | rows (rows : List (List String))
  | refused (code message : String)
deriving DecidableEq, Repr

/-- Why there is no connection to a database. -/
inductive ConnectError where
  | timedOut
  | noSocket
  | noEncryption
  | unavailable (message : String)
deriving DecidableEq, Repr

namespace ConnectError

/-- The error that a pool reports. -/
def toStoreError : ConnectError → StoreError
  | timedOut => .pool "pool timed out while waiting for an open connection"
  | noSocket =>
      .execution "error communicating with database: No such file or directory (os error 2)"
  | noEncryption =>
      .execution
        ("error occurred while attempting to establish a TLS connection: " ++
          "server does not support TLS")
  | unavailable message => .pool message

end ConnectError

/-- A database; `δ` is its state. -/
class Database (δ : Type) where
  /-- Connect to the database. -/
  connect : δ → ConnectionOptions → Except ConnectError δ
  /-- Execute the text of a statement with its values. -/
  execute : δ → String → List Wire.Argument → Reply × δ

/-- A pool over a database: the statements that its connection keeps prepared,
and whether the pool has been closed. -/
structure Postgres (δ : Type) where
  database : δ
  prepared : Prepared
  closed : Bool

namespace Postgres

variable {δ : Type}

/-- A pool that has executed nothing, whose connection keeps so many statements
prepared. -/
def ofDatabase (database : δ) (capacity : Nat) : Postgres δ :=
  ⟨database, .empty capacity, false⟩

/-- Close the pool. -/
def close (pool : Postgres δ) : Postgres δ :=
  { pool with closed := true }

/-! ## Sending statements -/

/-- The codes that say that a value does not fit its type. -/
def mismatchCodes : List String :=
  ["22P02", "42804", "42883", "22007", "22008"]

/-- The error of a refused statement. -/
def refusal (code message : String) : StoreError :=
  if code ∈ mismatchCodes then .typeMismatch message else .execution message

/-- The error of a connection that the database has ended. -/
def brokenOff : StoreError :=
  .execution "error communicating with database: Connection reset by peer (os error 104)"

/-- The types that a statement was prepared with, or those of its values. -/
def kindsOf (pool : Postgres δ) (sql : String) (arguments : List Wire.Argument) :
    List Wire.Kind :=
  (pool.prepared.kinds? sql).getD (arguments.map Wire.Argument.kind)

/-- Send a statement; the answer is the cells of its rows. -/
def send [Database δ] (pool : Postgres δ) (sql : String) (arguments : List Wire.Argument) :
    Except StoreError (List (List String)) × Postgres δ :=
  if pool.closed then (.error .closed, pool)
  else
    let kinds := pool.kindsOf sql arguments
    let typed := kinds.zipWith (fun kind argument => { argument with kind := kind }) arguments
    if !typed.all Wire.Argument.isReadable then
      (.error brokenOff, { pool with prepared := pool.prepared.forgotten })
    else
      let answered := Database.execute pool.database sql typed
      let after :=
        { pool with database := answered.2, prepared := pool.prepared.use sql kinds }
      match answered.1 with
      | .refused code message => (.error (refusal code message), after)
      | .rows rows => (.ok rows, after)

/-! ## Statements -/

/-- Bind the parameters of a statement; the first that does not fit is
reported. -/
def bind (params : List Param) : Except StoreError (List Wire.Argument) :=
  params.mapM fun param =>
    match Wire.bind? param with
    | some argument => .ok argument
    | none =>
        .error (.typeMismatch
          ("cannot bind " ++ param.value.render ++ " as " ++ param.type.name))

/-- The text of a statement whose rows come back as documents. -/
def wrapped (sql : String) : String :=
  "WITH r AS (" ++ sql ++ ") SELECT to_jsonb(r) AS row FROM r"

/-- The row in the cells that come back. -/
def rowOf (cells : List String) : Except StoreError Row :=
  match Json.read (cells.headD "null") with
  | .error fault =>
      .error (.execution ("error occurred while decoding column \"row\": " ++ fault.message))
  | .ok value =>
      match Row.ofJson? value with
      | some row => .ok row
      | none => .error (.execution ("unexpected row shape: " ++ value.render))

/-- Execute a statement.  Its values are bound before a connection is taken, so
a value that does not fit is reported even by a closed pool. -/
def execute [Database δ] (pool : Postgres δ) (statement : Statement) :
    Except StoreError (List Row) × Postgres δ :=
  let compiled := Sql.compile statement
  match bind compiled.params with
  | .error error => (.error error, pool)
  | .ok arguments =>
      let sent := pool.send (wrapped compiled.sql) arguments
      (sent.1.bind fun rows => rows.mapM rowOf, sent.2)

/-! ## The catalog of a schema -/

/-- The statement that lists the columns of a schema. -/
def columnsSql : String :=
  "SELECT table_name::text, column_name::text, data_type::text, is_nullable::text " ++
    "FROM information_schema.columns WHERE table_schema = $1 ORDER BY table_name, ordinal_position"

/-- Add the column that a row of that list describes. -/
def addColumn (catalog : Catalog) (cells : List String) : Catalog :=
  match cells with
  | [table, name, type, nullable] =>
      catalog.pushColumn table
        { name := name
          type := .ofDatabase type
          nullable := nullable == "YES" }
  | _ => catalog

/-- Load the catalog of a schema. -/
def loadCatalog [Database δ] (pool : Postgres δ) (schema : String) :
    Except StoreError Catalog × Postgres δ :=
  let sent := pool.send columnsSql
    [⟨.text, some (Wire.Value.text schema).bytes⟩]
  (sent.1.map fun rows => rows.foldl addColumn .empty, sent.2)

/-! ## The store -/

/-- The event of a closed pool. -/
def closedEvent : Event where
  severity := .info
  name := "POOL_CLOSED"
  fields := []

instance [Database δ] : Store (Postgres δ) where
  name := "postgres"
  execute := execute
  close pool := ([closedEvent], pool.close)

end Postgres
end RowGate
