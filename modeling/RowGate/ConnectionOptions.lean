import RowGate.Text.Quoted
import RowGate.Url.Reader

namespace RowGate

/-!
# Connection options

A database is named by a URL: host, port, user, password and, as its path, the
name of the database.  The pairs of its query set further options or set these
anew; keys that mean nothing here are passed over.
-/

/-- Whether a connection is encrypted, and how far the other side is trusted. -/
inductive Security where
  | disable
  | allow
  | prefer
  | require
  | verifyAuthority
  | verifyFull
deriving DecidableEq, Repr

namespace Security

/-- The security of a name, in letters of either case. -/
def ofName? (name : String) : Option Security :=
  match name.toLower with
  | "disable" => some disable
  | "allow" => some allow
  | "prefer" => some prefer
  | "require" => some require
  | "verify-ca" => some verifyAuthority
  | "verify-full" => some verifyFull
  | _ => none

/-- Whether there is no connection unless it is encrypted. -/
def isRequired (security : Security) : Bool :=
  security == require || security == verifyAuthority || security == verifyFull

end Security

/-- Why a text names no database. -/
inductive ConnectionFault where
  | url (fault : Url.Fault)
  | text (flaw : Text.Utf8.Flaw)
  | number (fault : Bounded.Fault)
  | address
  | security (name : String)
deriving DecidableEq, Repr

namespace ConnectionFault

/-- The wording of a fault. -/
def message : ConnectionFault → String
  | url fault => fault.message
  | text flaw => flaw.message
  | number fault => fault.message
  | address => "invalid IP address syntax"
  | security name =>
      "error with configuration: unknown value " ++ Text.Quoted.quoted name ++ " for `ssl_mode`"

end ConnectionFault

/-- Where a database is and how to connect to it.  A socket takes the place of
host and port; `cacheCapacity` is the number of statements that a connection
keeps prepared. -/
structure ConnectionOptions where
  host : String
  port : Nat
  socket : Option String
  user : Option String
  password : Option String
  database : Option String
  security : Security
  cacheCapacity : Nat
deriving DecidableEq, Repr

namespace ConnectionOptions

/-- What holds without a word on it. -/
def default : ConnectionOptions where
  host := "localhost"
  port := 5432
  socket := none
  user := none
  password := none
  database := none
  security := .prefer
  cacheCapacity := 100

/-- A part of a URL as text; none if it is empty. -/
def part? (cs : List Char) : Except ConnectionFault (Option String) :=
  if cs = [] then .ok none
  else
    match Text.Percent.read cs with
    | .ok text => .ok (some text)
    | .error flaw => .error (.text flaw)

/-- A number of an option. -/
def number (high : Nat) (value : String) : Except ConnectionFault Nat :=
  match Bounded.natural high value.toList with
  | .ok number => .ok number
  | .error fault => .error (.number fault)

/-- Whether the host is the machine itself. -/
def isLocal (options : ConnectionOptions) : Bool :=
  options.host == "localhost" || options.host == "127.0.0.1" || options.host == "::1"

/-- Set the place of the database; one that begins with a slash is a socket. -/
def atHost (options : ConnectionOptions) (host : String) : ConnectionOptions :=
  if host.toList.head? = some '/' then { options with socket := some host }
  else { options with host := host }

/-- Set an option. -/
def set (options : ConnectionOptions) (pair : String × String) :
    Except ConnectionFault ConnectionOptions :=
  let value := pair.2
  match pair.1 with
  | "sslmode" | "ssl-mode" =>
      match Security.ofName? value with
      | some security => .ok { options with security := security }
      | none => .error (.security value)
  | "statement-cache-capacity" =>
      (number Bounded.maxNat64 value).map fun capacity =>
        { options with cacheCapacity := capacity }
  | "port" => (number Bounded.maxNat16 value).map fun port => { options with port := port }
  | "host" => .ok (options.atHost value)
  | "hostaddr" =>
      if Ip.isAddress value.toList then .ok { options with host := value } else .error .address
  | "dbname" => .ok { options with database := some value }
  | "user" => .ok { options with user := some value }
  | "password" => .ok { options with password := some value }
  | _ => .ok options

/-- Set the host of a URL.  Percent signs are resolved in the path of a socket
only. -/
def setHost (options : ConnectionOptions) (host : List Char) :
    Except ConnectionFault ConnectionOptions :=
  if host = [] then .ok options
  else if (Text.Percent.decode host).head? = some 47 then
    (part? host).map fun socket => { options with socket := socket }
  else .ok { options with host := String.ofList host }

/-- The options of a URL. -/
def ofUrl (url : Url) : Except ConnectionFault ConnectionOptions := do
  let placed ← default.setHost url.host
  let user ← part? url.user
  let password ← part? url.password
  let database ← part? (url.path.dropWhile (· = '/'))
  (Text.Percent.pairs url.query).foldlM set
    { placed with
      port := url.port.getD placed.port
      user := user
      password := password
      database := database }

/-- The options of the text of a URL. -/
def read (text : String) : Except ConnectionFault ConnectionOptions :=
  match Url.read text with
  | .error fault => .error (.url fault)
  | .ok url => ofUrl url

end ConnectionOptions
end RowGate
