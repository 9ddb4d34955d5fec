import RowGate.CommandLine.Run
import Std.Time.DateTime.Timestamp

namespace RowGate
namespace Main

/-!
# The program

The program takes a snapshot of what a command depends on, runs the command, and
writes down what it leaves behind: changed files, the journal on standard error
and the output on standard output.  It fails with 1 if the command fails and with
2 if the arguments are no command.  No driver for a database and no listener is
part of it, so commands that need one report that.
-/

/-- A database that cannot be reached. -/
structure Unreachable where

instance : Database Unreachable where
  connect _ _ := .error (.unavailable "no database driver is linked")
  execute database _ _ := (.refused "08000" "no database driver is linked", database)

/-- The names of the environment variables that settings depend on. -/
def variableNames : List String :=
  ["DATABASE_URL", "TABULA_PORT"]

/-- The file of the settings of a command. -/
def settingsPath? : CommandLine.Command → Option String
  | .serve path _ | .query path _ | .signIn path _ | .signOut path | .session path => some path
  | .hashPassword _ => none

/-- The files of the local store in a directory. -/
def keyPaths (directory : String) : List String :=
  [Auth.sessionKey, Auth.userKey].map (Auth.FileKeys.fileOf ⟨.empty, directory⟩)

/-- What the version is called for. -/
def versionText : String := "tabula 0.1.0\n"

/-- How the program is used. -/
def helpText : String :=
  "Usage: tabula <COMMAND>\n\nCommands:\n" ++
    "  serve          Serve the REST API\n" ++
    "  query          Run one read and print the result\n" ++
    "  sign-in        Sign in and persist the session locally\n" ++
    "  sign-out       Clear the persisted session\n" ++
    "  session        Print the persisted session, or null\n" ++
    "  hash-password  Print an Argon2 hash for seeding a profiles table\n" ++
    "  help           Print this message\n"

/-- What is said about arguments that are no command. -/
def noticeText : CommandLine.Notice → String
  | .help | .commandMissing => helpText
  | .version => versionText
  | .unknownCommand => "error: unrecognized subcommand\n"
  | .unknownArgument => "error: unexpected argument\n"
  | .valueMissing => "error: a value is required\n"
  | .valueMalformed => "error: invalid value\n"
  | .valueUnwanted => "error: unexpected value\n"
  | .conflict => "error: the argument cannot be used with another one\n"
  | .argumentMissing => "error: a required argument was not provided\n"

/-- Read a file into a tree.  What is there but cannot be read as a text is
taken for a directory. -/
def snapshot (tree : FileTree) (path : String) : IO FileTree := do
  try
    let content ← IO.FS.readFile path
    pure (tree.add path content)
  catch error =>
    match error with
    | .noFileOrDirectory .. => pure tree
    | _ => pure (tree.createDirectories path).2

/-- Write a file if its text has changed, or remove it if it is gone. -/
def writeBack (before after : FileTree) (directory path : String) : IO Unit := do
  match (before.read path).toOption, (after.read path).toOption with
  | some _, none => IO.FS.removeFile path
  | old, some new =>
      if old ≠ some new then
        IO.FS.createDirAll directory
        IO.FS.writeFile path new
  | none, none => pure ()

/-- The milliseconds from the epoch. -/
def clock : IO Time.Instant := do
  let now ← Std.Time.Timestamp.now
  pure (.ofMillis now.toMillisecondsSinceUnixEpoch.val)

/-- Random bits: the first draws are from the operating system. -/
def randomBits : IO Random := do
  let bytes ← IO.getRandomBytes 1024
  let draw (n : Nat) : BitVec 128 :=
    BitVec.ofNat 128 ((bytes.toList.drop (16 * n)).take 16 |>.foldl
      (fun value byte => value * 256 + byte.toNat) n)
  pure ⟨draw, 0⟩

/-- Run a command. -/
def execute (command : CommandLine.Command) : IO UInt32 := do
  let values ← variableNames.mapM fun name => do pure (name, ← IO.getEnv name)
  let valueOf (name : String) : Option String := (values.find? (·.1 == name)).bind Prod.snd
  let home := FilePath.names (← IO.currentDir).toString
  let files ← (settingsPath? command).toList.foldlM snapshot (.within home)
  let directory :=
    match (settingsPath? command).map (Settings.load files valueOf) with
    | some (.ok settings) => settings.session.directory
    | _ => SessionSettings.default.directory
  let files ← (keyPaths directory).foldlM snapshot files
  let surroundings : CommandLine.Surroundings Unreachable :=
    { files := files
      lookup := valueOf
      database := {}
      listen := fun _ => .error "no listener is linked"
      now := ← clock
      random := ← randomBits }
  let outcome := surroundings.run command
  (keyPaths directory).forM (writeBack files outcome.files directory)
  outcome.journal.events.forM fun event => IO.eprint event.written
  IO.print outcome.output
  match outcome.result with
  | .ok _ => pure 0
  | .error fault =>
      IO.eprintln fault.line
      pure 1

end Main
end RowGate

/-- Run the command that the arguments give. -/
def main (arguments : List String) : IO UInt32 := do
  match RowGate.CommandLine.Command.read arguments with
  | .ok command => RowGate.Main.execute command
  | .error .help =>
      IO.print (RowGate.Main.noticeText .help)
      pure 0
  | .error .version =>
      IO.print (RowGate.Main.noticeText .version)
      pure 0
  | .error notice =>
      IO.eprint (RowGate.Main.noticeText notice)
      pure 2
