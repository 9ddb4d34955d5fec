import RowGate.Url.Host

namespace RowGate

/-!
# URLs

A URL is a scheme and a colon, then mostly two slashes with an authority behind
them, which is a user, a host and a port, and a path and a query.  The schemes
of the web are read more leniently: backslashes are slashes, and the number of
slashes in front of the authority does not count, but there has to be a host.
What stands behind a number sign is of no importance here.
-/

/-- A URL.  Its parts are kept as they were written, percent signs and all. -/
structure Url where
  scheme : String
  user : List Char
  password : List Char
  host : List Char
  port : Option Nat
  path : List Char
  query : List Char
deriving DecidableEq, Repr

namespace Url

/-! ## Schemes -/

/-- The characters that count: none of those up to the blank at the ends, and
no tab or line break at all. -/
def significant (text : String) : List Char :=
  let unpadded := (text.toList.dropWhile (· ≤ ' ')).reverse.dropWhile (· ≤ ' ')
  unpadded.reverse.filter fun c => c ≠ '\t' ∧ c ≠ '\n' ∧ c ≠ '\r'

/-- A character of a scheme behind its first letter. -/
def isSchemeChar (c : Char) : Bool :=
  c.isAlphanum || c == '+' || c == '-' || c == '.'

/-- The scheme in small letters, and what follows its colon. -/
def splitScheme? (cs : List Char) : Option (String × List Char) :=
  match Text.cutFirst ':' cs with
  | some (scheme, rest) =>
      if scheme.head?.any Char.isAlpha && scheme.all isSchemeChar then
        some (String.ofList (scheme.map Char.toLower), rest)
      else none
  | none => none

/-- The schemes of the web with their ports. -/
def webPorts : List (String × Nat) :=
  [("http", 80), ("https", 443), ("ws", 80), ("wss", 443), ("ftp", 21)]

/-- Whether a scheme is one of the web. -/
def isWeb (scheme : String) : Bool :=
  (webPorts.map Prod.fst).contains scheme

/-! ## Authorities -/

/-- Whether a character is a slash in the schemes of the web. -/
def isSlash (c : Char) : Bool :=
  c == '/' || c == '\\'

/-- Whether a character ends an authority. -/
def endsAuthority (web : Bool) (c : Char) : Bool :=
  c == '/' || c == '?' || c == '#' || (web && c == '\\')

/-- Split at the first colon that is not in brackets; the second part begins
with it. -/
def splitPort (inBrackets : Bool) : List Char → List Char × List Char
  | [] => ([], [])
  | c :: rest =>
      if c = ':' ∧ ¬ inBrackets then ([], c :: rest)
      else
        let parts := splitPort (c == '[' || (inBrackets && c != ']')) rest
        (c :: parts.1, parts.2)

/-- The port behind a host, and what is left at a backslash. -/
def readPort : List Char → Except Fault (Option Nat × List Char)
  | ':' :: cs =>
      let run := Digits.span cs
      if Bounded.maxNat16 < Digits.value run.1 ∨ ¬ (run.2.head?.all (· = '\\')) then
        .error .badPort
      else .ok (if run.1 = [] then none else some (Digits.value run.1), run.2)
  | cs => .ok (none, cs)

/-- Host, port and what is left of the authority behind them. -/
def readPlace (web : Bool) (cs : List Char) :
    Except Fault (List Char × Option Nat × List Char) := do
  let parts := splitPort false cs
  if web ∧ parts.1 = [] then .error .emptyHost
  let host ← if web then Host.ofDomain parts.1 else Host.ofName parts.1
  if host = [] ∧ parts.2 ≠ [] then .error .emptyHost
  let port ← readPort parts.2
  .ok (host, port.1, port.2)

/-! ## Paths -/

/-- Whether a segment of a path stands for the place itself. -/
def staysInPlace (segment : List Char) : Bool :=
  [".", "%2e"].contains (String.ofList (segment.map Char.toLower))

/-- Whether a segment of a path leads back. -/
def leadsBack (segment : List Char) : Bool :=
  ["..", ".%2e", "%2e.", "%2e%2e"].contains (String.ofList (segment.map Char.toLower))

/-- Whether a segment is the letter of a drive, which is neither left again nor
a host. -/
def isDrive : List Char → Bool
  | [letter, mark] => letter.isAlpha && (mark == ':' || mark == '|')
  | _ => false

/-- The place that a place leads back to. -/
def left (place : List (List Char)) : List (List Char) :=
  if place.getLast?.any isDrive then place else place.dropLast

/-- Follow the segments of a path from a place.  One that is no name leaves an
empty name at the end. -/
def follow (place : List (List Char)) : List (List Char) → List (List Char)
  | [] => place
  | segment :: rest =>
      if leadsBack segment then
        follow (if rest = [] then left place ++ [[]] else left place) rest
      else if staysInPlace segment then
        follow (if rest = [] then place ++ [[]] else place) rest
      else follow (place ++ [segment]) rest

/-- A path in its shortest form. -/
def shortened (web : Bool) (path : List Char) : List Char :=
  let slashed := if web then path.map fun c => if isSlash c then '/' else c else path
  let inner := if slashed.head? = some '/' then slashed.drop 1 else slashed
  '/' :: Text.joined ['/'] (follow [] (Text.pieces '/' inner))

/-- Path and query of what follows an authority. -/
def splitQuery (cs : List Char) : List Char × List Char :=
  let shown := cs.takeWhile (· ≠ '#')
  (Text.cutFirst '?' shown).getD (shown, [])

/-! ## Whole URLs -/

/-- A URL without an authority. -/
def ofPath (scheme : String) (path query : List Char) : Url :=
  ⟨scheme, [], [], [], none, path, query⟩

/-- Read what follows the slashes in front of an authority. -/
def readAuthority (scheme : String) (cs : List Char) : Except Fault Url := do
  let web := isWeb scheme
  let authority := cs.takeWhile fun c => !endsAuthority web c
  let tail := cs.dropWhile fun c => !endsAuthority web c
  let (userinfo, place) := (Text.cutLast '@' authority).getD ([], authority)
  if userinfo = [] ∧ place = [] ∧ authority ≠ [] ∧ tail ≠ [] then .error .emptyHost
  let (user, password) := (Text.cutFirst ':' userinfo).getD (userinfo, [])
  let (host, port, rest) ← readPlace web place
  if host = [] ∧ (user ≠ [] ∨ password ≠ []) then .error .emptyHost
  let (path, query) := splitQuery (rest ++ tail)
  .ok
    { scheme := scheme
      user := user
      password := password
      host := host
      port := port.filter fun port => some port ≠ webPorts.lookup scheme
      path := if path = [] then [] else shortened web path
      query := query }

/-- A file URL with a host and what follows it.  A path that begins with the
letter of a drive needs no host. -/
def ofFile (host rest : List Char) : Url :=
  let (written, query) := splitQuery rest
  match shortened true written with
  | '/' :: letter :: mark :: behind =>
      if isDrive [letter, mark] ∧ behind.head?.all (· = '/') then
        ofPath "file" ('/' :: letter :: ':' :: behind) query
      else { ofPath "file" ('/' :: letter :: mark :: behind) query with host := host }
  | path => { ofPath "file" path query with host := host }

/-- Read what follows the scheme of a file. -/
def readFile (cs : List Char) : Except Fault Url :=
  match cs with
  | first :: second :: rest =>
      let named := rest.takeWhile fun c => !endsAuthority true c
      if ¬ (isSlash first ∧ isSlash second) then .ok (ofFile [] cs)
      else if named = [] ∨ isDrive named then .ok (ofFile [] rest)
      else
        (Host.ofDomain named).map fun host =>
          ofFile (if host = "localhost".toList then [] else host)
            (rest.dropWhile fun c => !endsAuthority true c)
  | _ => .ok (ofFile [] cs)

/-- Read a URL. -/
def read (text : String) : Except Fault Url :=
  match splitScheme? (significant text) with
  | none => .error .noScheme
  | some ("file", rest) => readFile rest
  | some (scheme, rest) =>
      if isWeb scheme then
        readAuthority scheme (rest.dropWhile isSlash)
      else
        match rest with
        | '/' :: '/' :: rest => readAuthority scheme rest
        | '/' :: _ =>
            let (path, query) := splitQuery rest
            .ok (ofPath scheme (shortened false path) query)
        | _ =>
            let (path, query) := splitQuery rest
            .ok (ofPath scheme path query)

end Url
end RowGate
