import RowGate.Settings

namespace RowGate
namespace CommandLine

/-!
# Faults of commands

A command that fails reports a code, by which scripts can tell the causes apart,
and a message.
-/

/-- What went wrong. -/
inductive Cause where
  /-- The settings cannot be used. -/
  | settings
  /-- Output could not be written. -/
  | output
  /-- The value of an argument is malformed. -/
  | argument
  /-- The database could not be reached, or its catalog not be loaded. -/
  | connection
  /-- The request was answered with a failure. -/
  | query
  /-- The server could not listen. -/
  | server
deriving DecidableEq, Repr

namespace Cause

/-- The code of a cause. -/
def code : Cause → String
  | settings => "TABULA_CLI_CONFIG_ERROR"
  | output => "TABULA_CLI_IO_ERROR"
  | argument => "TABULA_CLI_INVALID_ARGUMENT"
  | connection => "TABULA_CLI_CONNECT_FAILED"
  | query => "TABULA_CLI_QUERY_FAILED"
  | server => "TABULA_CLI_SERVE_FAILED"

end Cause

/-- Why a command failed. -/
structure Fault where
  cause : Cause
  message : String
deriving DecidableEq, Repr

namespace Fault

/-- The fault of settings. -/
def ofSettings (error : SettingsError) : Fault :=
  ⟨.settings, error.message⟩

/-- The fault of a request that was answered with a failure. -/
def ofFailure (failure : Failure) : Fault :=
  ⟨.query, failure.message⟩

/-- The line that reports a fault. -/
def line (fault : Fault) : String :=
  fault.cause.code ++ ": " ++ fault.message

end Fault
end CommandLine
end RowGate
