import RowGate.Auth.Session
import RowGate.Decimal.Bounded
import RowGate.Text.Split

namespace RowGate
namespace CommandLine

/-!
# Arguments

The first argument is the word of a command, and the others are its options and
its operands.  An option is written with two hyphens and takes one value, behind
an equals sign or as the next argument; behind a bare pair of hyphens everything
is an operand.  The value of an option is looked at only when the next option
is met or the arguments end, so an unknown option is reported before a malformed
value in front of it.
-/

/-! ## Notices -/

/-- Why arguments are not a command; help and the version are asked for. -/
inductive Notice where
  /-- Help is asked for. -/
  | help
  /-- There is no argument at all. -/
  | commandMissing
  /-- The version is asked for. -/
  | version
  /-- No command has the word. -/
  | unknownCommand
  /-- No option or operand can stand here. -/
  | unknownArgument
  /-- An option has no value, or an empty path. -/
  | valueMissing
  /-- A number is malformed or out of its range. -/
  | valueMalformed
  /-- A value is given to an option that takes none. -/
  | valueUnwanted
  /-- Two arguments exclude each other. -/
  | conflict
  /-- An argument that is needed is missing. -/
  | argumentMissing
deriving DecidableEq, Repr

/-! ## Options -/

/-- What the values of an option are. -/
inductive ValueForm where
  | text
  | path
  | port
  | count
deriving DecidableEq, Repr

namespace ValueForm

/-- Why a text cannot be a value. -/
def refuses? (form : ValueForm) (value : String) : Option Notice :=
  match form with
  | text => none
  | path => if value = "" then some .valueMissing else none
  | port =>
      if (Bounded.signed? 0 Bounded.maxNat16 value.toList).isNone then some .valueMalformed
      else none
  | count =>
      if (Bounded.natural? Bounded.maxNat64 value.toList).isNone then some .valueMalformed
      else none

end ValueForm

/-- An option: its name, the form of its values, and whether it may be given
more than once. -/
structure Choice where
  name : String
  form : ValueForm
  repeats : Bool
deriving DecidableEq, Repr

/-- The arguments that a command takes: its options, and how many operands. -/
structure Shape where
  choices : List Choice
  operands : Nat
deriving DecidableEq, Repr

/-- What has been read of the arguments of a command: the values of options,
the option whose value is awaited or not yet looked at, and the operands. -/
structure Reading where
  values : List (String × String)
  pending : Option (Choice × Option String)
  operands : List String
deriving DecidableEq, Repr

namespace Reading

/-- Nothing has been read. -/
def start : Reading :=
  ⟨[], none, []⟩

/-- Take a value of an option. -/
def take (reading : Reading) (choice : Choice) (value : String) : Except Notice Reading :=
  if ¬ choice.repeats ∧ reading.values.any fun entry => entry.1 == choice.name then
    .error .conflict
  else
    match choice.form.refuses? value with
    | some notice => .error notice
    | none => .ok { reading with values := reading.values ++ [(choice.name, value)] }

/-- Look at the value of the last option. -/
def settle (reading : Reading) : Except Notice Reading :=
  match reading.pending with
  | none => .ok reading
  | some (_, none) => .error .valueMissing
  | some (choice, some value) => { reading with pending := none }.take choice value

/-- Read an option, its name and what stands behind an equals sign. -/
def option (shape : Shape) (reading : Reading) (name : String) (value : Option String) :
    Except Notice Reading :=
  if name = "help" then
    if value.isSome then .error .valueUnwanted else reading.settle.bind fun _ => .error .help
  else
    match shape.choices.find? fun choice => choice.name == name with
    | none => .error .unknownArgument
    | some choice =>
        reading.settle.bind fun settled =>
          match value with
          | some value => settled.take choice value
          | none => .ok { settled with pending := some (choice, none) }

/-- Read an operand.  One too many is reported before a malformed value in front
of it. -/
def operand (shape : Shape) (reading : Reading) (argument : String) : Except Notice Reading :=
  if shape.operands ≤ reading.operands.length then .error .unknownArgument
  else
    reading.settle.map fun settled =>
      { settled with operands := settled.operands ++ [argument] }

/-- Read what is no option: the value that is awaited, or an operand. -/
def plain (shape : Shape) (reading : Reading) (argument : String) : Except Notice Reading :=
  match reading.pending with
  | some (choice, none) => .ok { reading with pending := some (choice, some argument) }
  | _ => reading.operand shape argument

/-- Name and value of an option. -/
def nameAndValue (cs : List Char) : String × Option String :=
  match Text.cutFirst '=' cs with
  | some (name, value) => (String.ofList name, some (String.ofList value))
  | none => (String.ofList cs, none)

/-- Read one argument in front of a bare pair of hyphens. -/
def argument (shape : Shape) (reading : Reading) (argument : String) : Except Notice Reading :=
  match argument.toList with
  | '-' :: '-' :: rest =>
      let parts := nameAndValue rest
      reading.option shape parts.1 parts.2
  | '-' :: 'h' :: _ => reading.settle.bind fun _ => .error .help
  | '-' :: _ :: _ => .error .unknownArgument
  | _ => reading.plain shape argument

/-- Read the arguments of a command. -/
def arguments (shape : Shape) (reading : Reading) : List String → Except Notice Reading
  | [] => reading.settle
  | first :: rest =>
      if first = "--" then
        (rest.foldlM (operand shape) reading).bind settle
      else (reading.argument shape first).bind fun next => arguments shape next rest

/-- The last value of an option. -/
def value? (reading : Reading) (name : String) : Option String :=
  (reading.values.reverse.find? fun entry => entry.1 == name).map Prod.snd

/-- All values of an option. -/
def allValues (reading : Reading) (name : String) : List String :=
  (reading.values.filter fun entry => entry.1 == name).map Prod.snd

/-- The number of an option that takes numbers. -/
def number? (reading : Reading) (name : String) : Option Nat :=
  (reading.value? name).bind fun value =>
    (Bounded.signed? 0 Bounded.maxNat64 value.toList).map Int.toNat

end Reading

/-! ## Commands -/

/-- A read that is asked for on the command line. -/
structure Inquiry where
  table : String
  select : String
  filters : List String
  order : Option String
  limit : Option Nat
deriving DecidableEq, Repr

/-- A command. -/
inductive Command where
  | serve (settings : String) (port : Option Nat)
  | query (settings : String) (inquiry : Inquiry)
  | signIn (settings : String) (credentials : Auth.Credentials)
  | signOut (settings : String)
  | session (settings : String)
  | hashPassword (password : String)
deriving DecidableEq, Repr

namespace Command

/-- The option that names the file of the settings. -/
def settingsChoice : Choice :=
  ⟨"config", .path, false⟩

/-- The file of the settings unless another one is named. -/
def defaultSettings : String := "./tabula.json"

/-- An option that takes a text once. -/
def textChoice (name : String) : Choice :=
  ⟨name, .text, false⟩

/-- The commands and their arguments. -/
def shapes : List (String × Shape) :=
  [("serve", ⟨[settingsChoice, ⟨"port", .port, false⟩], 0⟩),
   ("query",
    ⟨[settingsChoice, textChoice "select", ⟨"filter", .text, true⟩, textChoice "order",
      ⟨"limit", .count, false⟩], 1⟩),
   ("sign-in",
    ⟨[settingsChoice, textChoice "email", textChoice "username", textChoice "password"], 0⟩),
   ("sign-out", ⟨[settingsChoice], 0⟩),
   ("session", ⟨[settingsChoice], 0⟩),
   ("hash-password", ⟨[textChoice "password"], 0⟩)]

/-- The arguments of a command. -/
def shape? (word : String) : Option Shape :=
  (shapes.find? fun entry => entry.1 == word).map Prod.snd

/-- The file of the settings that is named. -/
def settingsOf (reading : Reading) : String :=
  (reading.value? settingsChoice.name).getD defaultSettings

/-- The read that is asked for. -/
def inquiryOf (reading : Reading) : Except Notice Inquiry :=
  match reading.operands with
  | table :: _ =>
      .ok
        { table := table
          select := (reading.value? "select").getD "*"
          filters := reading.allValues "filter"
          order := reading.value? "order"
          limit := reading.number? "limit" }
  | [] => .error .argumentMissing

/-- The credentials that are given.  E-mail address and user name exclude each
other, and one of them is needed. -/
def credentialsOf (reading : Reading) : Except Notice Auth.Credentials :=
  let credentials : Auth.Credentials :=
    { email := reading.value? "email"
      username := reading.value? "username"
      password := reading.value? "password" }
  match credentials.email, credentials.username with
  | some _, some _ => .error .conflict
  | none, none => .error .argumentMissing
  | _, _ => .ok credentials

/-- The command of a word and what has been read of its arguments. -/
def ofReading (word : String) (reading : Reading) : Except Notice Command :=
  let settings := settingsOf reading
  if word = "serve" then .ok (.serve settings (reading.number? "port"))
  else if word = "query" then (inquiryOf reading).map (.query settings)
  else if word = "sign-in" then (credentialsOf reading).map (.signIn settings)
  else if word = "sign-out" then .ok (.signOut settings)
  else if word = "session" then .ok (.session settings)
  else
    match reading.value? "password" with
    | some password => .ok (.hashPassword password)
    | none => .error .argumentMissing

/-- The word that asks for help. -/
def helpWord : String := "help"

/-- Whether a word can stand at the front. -/
def isWord (word : String) : Bool :=
  word == helpWord || (shape? word).isSome

/-- Help is asked for by a word: for the program, or for one command. -/
def helpNotice : List String → Notice
  | [] => .help
  | [word] => if isWord word then .help else .unknownCommand
  | _ => .unknownCommand

/-- The notice of an option in front of the word of a command. -/
def optionNotice (name : String) (value : Option String) : Notice :=
  let known : Option Notice :=
    if name = "help" then some .help else if name = "version" then some .version else none
  match known with
  | none => .unknownArgument
  | some notice => if value.isSome then .valueUnwanted else notice

/-- The notice of a first argument that is no word of a command. -/
def frontNotice (argument : String) : Notice :=
  match argument.toList with
  | '-' :: '-' :: rest =>
      let parts := Reading.nameAndValue rest
      optionNotice parts.1 parts.2
  | '-' :: 'h' :: _ => .help
  | '-' :: 'V' :: _ => .version
  | '-' :: _ :: _ => .unknownArgument
  | _ => .unknownCommand

/-- The notice of what stands behind a bare pair of hyphens at the front, where
no command can be given any more. -/
def trailingNotice : List String → Notice
  | [] => .commandMissing
  | word :: _ => if isWord word then .unknownArgument else .unknownCommand

/-- Read a command. -/
def read : List String → Except Notice Command
  | [] => .error .commandMissing
  | first :: rest =>
      if first = helpWord then .error (helpNotice rest)
      else if first = "--" then .error (trailingNotice rest)
      else
        match shape? first with
        | none => .error (frontNotice first)
        | some shape => (Reading.start.arguments shape rest).bind (ofReading first)

end Command
end CommandLine
end RowGate
