namespace RowGate

/-!
# Failures

Every operation answers with a value or with the cause of its failure.  A cause
determines the message that callers see and the status that stands for it on
the HTTP surface; a failed row of a batch has the status of its own cause.
-/

/-- Why an operation was refused or did not succeed. -/
inductive Failure where
  /-- No table is named. -/
  | missingTable
  /-- A write without a usable condition. -/
  | missingFilter (operation : String)
  /-- A write without content. -/
  | missingBody (operation : String)
  /-- Content of the wrong shape. -/
  | invalidBody (reason : String)
  /-- A reserved query parameter with a malformed value. -/
  | invalidParameter (reason : String)
  /-- A table that the catalog does not list. -/
  | unknownTable (table : String)
  /-- A column that its table does not declare. -/
  | unknownColumn (table column : String)
  /-- A value that does not fit the type of its column. -/
  | typeMismatch (reason : String)
  /-- No profile has the given identifier. -/
  | userNotFound
  /-- The password does not verify. -/
  | invalidCredentials
  /-- A procedure that does not exist. -/
  | unknownProcedure (name : String)
  /-- An HTTP method that tables do not answer to. -/
  | methodNotAllowed (method : String)
  /-- The store refused the statement. -/
  | execution (message : String)
  /-- A batch stopped at a row; the rows before it stay. -/
  | rowFailed (index : Nat) (cause : Failure)
  /-- The persisted session could not be read or written. -/
  | session (message : String)
deriving DecidableEq, Repr

namespace Failure

/-- The wording of a failure. -/
def message : Failure → String
  | missingTable => "Missing table"
  | missingFilter operation => "Missing filter for " ++ operation
  | missingBody operation => "Missing body for " ++ operation
  | invalidBody reason => "Invalid request body: " ++ reason
  | invalidParameter reason => "Invalid query parameter: " ++ reason
  | unknownTable table => "Unknown table: " ++ table
  | unknownColumn table column => "Unknown column " ++ column ++ " on table " ++ table
  | typeMismatch reason => "Type mismatch: " ++ reason
  | userNotFound => "User not found"
  | invalidCredentials => "Invalid credentials"
  | unknownProcedure name => "RPC function not implemented: " ++ name
  | methodNotAllowed method => "Method " ++ method ++ " Not Allowed"
  | execution message => message
  | rowFailed index cause => "Insert failed at row " ++ Nat.repr index ++ ": " ++ cause.message
  | session message => "Session store error: " ++ message

/-- The HTTP status that stands for a failure. -/
def status : Failure → Nat
  | missingTable | missingFilter _ | missingBody _ | invalidBody _ | invalidParameter _
  | unknownTable _ | unknownColumn _ _ | typeMismatch _ => 400
  | userNotFound | invalidCredentials => 401
  | unknownProcedure _ => 404
  | methodNotAllowed _ => 405
  | rowFailed _ cause => cause.status
  | execution _ | session _ => 500

/-- The request itself is at fault. -/
def isValidation (failure : Failure) : Bool :=
  failure.status == 400

end Failure

/-- Why a store did not execute a statement. -/
inductive StoreError where
  /-- The store rejected a value for its type. -/
  | typeMismatch (message : String)
  /-- Any other refusal. -/
  | execution (message : String)
  /-- No connection could be had. -/
  | pool (message : String)
  /-- The store has been closed. -/
  | closed
deriving DecidableEq, Repr

namespace StoreError

/-- The wording of a store error. -/
def message : StoreError → String
  | typeMismatch message => message
  | execution message => message
  | pool message => "Connection pool error: " ++ message
  | closed => "Connection pool is closed"

/-- The failure of an operation whose statement met the error. -/
def toFailure : StoreError → Failure
  | typeMismatch message => .typeMismatch message
  | other => .execution other.message

end StoreError
end RowGate
