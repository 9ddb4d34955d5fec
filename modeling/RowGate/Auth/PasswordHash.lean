import RowGate.Auth.Argon2
import RowGate.Decimal.Bounded
import RowGate.Random
import RowGate.Text.Base64
import RowGate.Text.Split

namespace RowGate
namespace Auth

/-!
# Password hashes

A stored hash is a text of fields behind dollar signs: the variant, a version,
the costs, the salt and the tag.  A password verifies against it if hashing it
with the same settings gives the same tag.  A text that is not well formed
verifies nothing.
-/

/-- A stored hash. -/
structure PasswordHash where
  settings : Argon2.Settings
  salt : List UInt8
  tag : List UInt8
deriving DecidableEq, Repr

namespace PasswordHash

/-! ## Reading -/

/-- The length lies between two bounds. -/
def lengthIn (low high : Nat) (cs : List Char) : Bool :=
  low ≤ cs.length && cs.length ≤ high

/-- A name: lower-case letters, digits and hyphens. -/
def isName (cs : List Char) : Bool :=
  lengthIn 1 32 cs && cs.all fun c => c.isLower || c.isDigit || c == '-'

/-- The value of a cost or a salt: letters, digits and a few signs. -/
def isValue (cs : List Char) : Bool :=
  lengthIn 0 64 cs && cs.all fun c => c.isAlphanum || c == '/' || c == '+' || c == '.' || c == '-'

/-- A number without leading zeros. -/
def number? (cs : List Char) : Option Nat :=
  match Digits.span cs with
  | (ds, []) =>
      if Digits.Plain ds ∧ Digits.value ds ≤ 4294967295 then some (Digits.value ds) else none
  | _ => none

/-- The variant of a name. -/
def variant? (cs : List Char) : Option Argon2.Variant :=
  if cs = "argon2d".toList then some .dependent
  else if cs = "argon2i".toList then some .independent
  else if cs = "argon2id".toList then some .hybrid
  else none

/-- The settings that hold unless a field says otherwise. -/
def defaults (variant : Argon2.Variant) : Argon2.Settings where
  variant := variant
  version := 19
  memory := 19456
  passes := 2
  lanes := 1
  data := []
  length := 32

/-- Split a field into names and values; none if it is malformed. -/
def pairs? (cs : List Char) : Option (List (List Char × List Char)) :=
  if cs = [] then some []
  else if 127 < cs.length then none
  else
    (Text.pieces ',' cs).mapM fun pair =>
      match Text.pieces '=' pair with
      | [name, value] => if isName name ∧ isValue value then some (name, value) else none
      | _ => none

/-- Take one more cost into account. -/
def addCost (settings : Argon2.Settings) (pair : List Char × List Char) :
    Option Argon2.Settings :=
  if pair.1 = ['m'] then (number? pair.2).map fun n => { settings with memory := n }
  else if pair.1 = ['t'] then (number? pair.2).map fun n => { settings with passes := n }
  else if pair.1 = ['p'] then (number? pair.2).map fun n => { settings with lanes := n }
  else if pair.1 = "keyid".toList then
    (Text.Base64.standard.decode? pair.2).bind fun bytes =>
      if bytes.length ≤ 8 then some settings else none
  else if pair.1 = "data".toList then
    (Text.Base64.standard.decode? pair.2).bind fun bytes =>
      if bytes.length ≤ 32 then some { settings with data := bytes } else none
  else none

/-- The settings can be used for hashing. -/
def usable (settings : Argon2.Settings) : Bool :=
  (settings.version == 16 || settings.version == 19) && 1 ≤ settings.passes &&
    1 ≤ settings.lanes && settings.lanes < 16777216 && 8 ≤ settings.memory &&
    8 * settings.lanes ≤ settings.memory

/-- Whether a field is the version. -/
def isVersion (field : List Char) : Bool :=
  field.take 2 == ['v', '='] && !field.contains ','

/-- Take the version from the front of the fields. -/
def takeVersion (settings : Argon2.Settings) :
    List (List Char) → Option (Argon2.Settings × List (List Char))
  | [] => some (settings, [])
  | field :: rest =>
      if isVersion field then
        (number? (field.drop 2)).map fun n => ({ settings with version := n }, rest)
      else some (settings, field :: rest)

/-- Take the costs from the front of the fields. -/
def takeCosts (settings : Argon2.Settings) :
    List (List Char) → Option (Argon2.Settings × List (List Char))
  | [] => some (settings, [])
  | field :: rest =>
      if field.contains '=' then do
        let settings ← (← pairs? field).foldlM addCost settings
        some (settings, rest)
      else some (settings, field :: rest)

/-- Read salt and tag, which have to be there, behind the other fields. -/
def saltAndTag? : List (List Char) → Option (List UInt8 × List UInt8)
  | [salt, tag] => do
      let saltBytes ← Text.Base64.standard.decode? salt
      let tagBytes ← Text.Base64.standard.decode? tag
      if lengthIn 4 64 salt ∧ 8 ≤ saltBytes.length ∧
          10 ≤ tagBytes.length ∧ tagBytes.length ≤ 64 then
        some (saltBytes, tagBytes)
      else none
  | _ => none

/-- Read a stored hash. -/
def read? (text : String) : Option PasswordHash :=
  match Text.pieces '$' text.toList with
  | [] :: name :: fields => do
      let variant ← variant? name
      let (settings, fields) ← takeVersion (defaults variant) fields
      let (settings, fields) ← takeCosts settings fields
      let (salt, tag) ← saltAndTag? fields
      let settings := { settings with length := tag.length }
      if usable settings then some ⟨settings, salt, tag⟩ else none
  | _ => none

/-! ## Hashing and verifying -/

/-- Hash a password. -/
def make (settings : Argon2.Settings) (password : String) (salt : List UInt8) : PasswordHash :=
  ⟨settings, salt, Argon2.hash settings (password.toUTF8.toList) salt⟩

/-- The text of a hash with the standard settings. -/
def text (hash : PasswordHash) : String :=
  String.ofList ("$argon2id$v=19$m=".toList ++ Digits.chars (Digits.ofNat hash.settings.memory) ++
    ",t=".toList ++ Digits.chars (Digits.ofNat hash.settings.passes) ++
    ",p=".toList ++ Digits.chars (Digits.ofNat hash.settings.lanes) ++
    '$' :: Text.Base64.standard.encode hash.salt ++
    '$' :: Text.Base64.standard.encode hash.tag)

/-- Whether a password has the hash. -/
def admits (hash : PasswordHash) (password : String) : Bool :=
  (make hash.settings password hash.salt).tag == hash.tag

end PasswordHash

/-- Hash a password with the standard settings and a fresh salt. -/
def hashPassword (random : Random) (password : String) : String × Random :=
  let drawn := random.next
  let hash := PasswordHash.make (PasswordHash.defaults .hybrid) password (Random.bytes drawn.1)
  (hash.text, drawn.2)

/-- Whether a password verifies against a stored hash. -/
def verifyPassword (password stored : String) : Bool :=
  match PasswordHash.read? stored with
  | some hash => hash.admits password
  | none => false

/-- A fresh token of 256 random bits. -/
def newToken (random : Random) : String × Random :=
  let first := random.next
  let second := first.2.next
  (String.ofList (Text.Base64.urlSafe.encode (Random.bytes first.1 ++ Random.bytes second.1)),
    second.2)

end Auth
end RowGate
