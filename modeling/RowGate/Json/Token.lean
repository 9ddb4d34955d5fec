import RowGate.Json.Basic
import RowGate.Json.Fault
import RowGate.Text.Hex

namespace RowGate
namespace Json

/-!
# Tokens of JSON

Blanks are space, tab and line breaks.  Strings have no bare control characters;
escapes are characters or 16-bit units, and units above U+D7FF must come in
pairs.  Numbers have no leading zeros.  A string that is only passed over need
not have its units in pairs.
-/

/-- Drop the blanks that may stand between tokens. -/
def skipBlanks (cs : List Char) : List Char :=
  cs.dropWhile fun c => c = ' ' || c = '\n' || c = '\t' || c = '\r'

/-! ## Strings -/

/-- The character that a one-letter escape stands for. -/
def escaped? (c : Char) : Option Char :=
  if c = '"' ∨ c = '\\' ∨ c = '/' then some c
  else if c = 'n' then some '\n'
  else if c = 't' then some '\t'
  else if c = 'r' then some '\r'
  else if c = 'b' then some (Char.ofNat 8)
  else if c = 'f' then some (Char.ofNat 12)
  else none

/-- The unit is the first one of a pair. -/
def isHighUnit (unit : Nat) : Bool :=
  0xD800 ≤ unit && unit ≤ 0xDBFF

/-- The unit is the second one of a pair. -/
def isLowUnit (unit : Nat) : Bool :=
  0xDC00 ≤ unit && unit ≤ 0xDFFF

/-- The character of a pair of units. -/
def ofUnits (high low : Nat) : Char :=
  Char.ofNat (0x10000 + (high - 0xD800) * 0x400 + (low - 0xDC00))

/-- Where a reader stops that takes a number of bytes, which are no digits of a
unit. -/
def unitStop (bytes : Nat) : List Char → Stop
  | [] => if bytes = 0 then .behind .badEscape [] else .behind .endOfString []
  | c :: rest =>
      if bytes = 0 then .behind .badEscape (c :: rest)
      else if c.utf8Size ≤ bytes then unitStop (bytes - c.utf8Size) rest
      else .within .badEscape bytes (c :: rest)

/-- The bytes that the digits of a unit take. -/
def unitBytes : Nat := 4

/-- Read a string behind its opening quote, where `pending` is the first unit of
a pair, if one has just been read. -/
def scanChars (pending : Option Nat) : List Char → Scan (List Char)
  | [] => .error (.behind .endOfString [])
  | '\\' :: 'u' :: a :: b :: c :: d :: rest =>
      match Text.Hex.read [a, b, c, d], pending with
      | none, _ => .error (unitStop unitBytes (a :: b :: c :: d :: rest))
      | some unit, none =>
          if isHighUnit unit then scanChars (some unit) rest
          else if isLowUnit unit then .error (.behind .loneSurrogate rest)
          else (scanChars none rest).map fun scanned => (Char.ofNat unit :: scanned.1, scanned.2)
      | some unit, some high =>
          if isLowUnit unit then
            (scanChars none rest).map fun scanned => (ofUnits high unit :: scanned.1, scanned.2)
          else .error (.behind .loneSurrogate rest)
  | '\\' :: 'u' :: rest => .error (unitStop unitBytes rest)
  | ['\\'] => .error (.behind .endOfString [])
  | '\\' :: c :: rest =>
      match pending, escaped? c with
      | some _, _ => .error (.before .missingSurrogate (c :: rest))
      | none, none => .error (.before .badEscape (c :: rest))
      | none, some plain =>
          (scanChars none rest).map fun scanned => (plain :: scanned.1, scanned.2)
  | c :: rest =>
      if pending.isSome then .error (.before .missingSurrogate (c :: rest))
      else if c = '"' then .ok ([], rest)
      else if c.toNat < 32 then .error (.behind .controlCharacter rest)
      else (scanChars none rest).map fun scanned => (c :: scanned.1, scanned.2)

/-- Read a string behind its opening quote. -/
def scanString (cs : List Char) : Scan String :=
  (scanChars none cs).map fun scanned => (String.ofList scanned.1, scanned.2)

/-- Pass over a string behind its opening quote. -/
def skipString : List Char → Except Stop (List Char)
  | [] => .error (.behind .endOfString [])
  | '\\' :: 'u' :: a :: b :: c :: d :: rest =>
      match Text.Hex.read [a, b, c, d] with
      | none => .error (unitStop unitBytes (a :: b :: c :: d :: rest))
      | some _ => skipString rest
  | '\\' :: 'u' :: rest => .error (unitStop unitBytes rest)
  | ['\\'] => .error (.behind .endOfString [])
  | '\\' :: c :: rest =>
      match escaped? c with
      | none => .error (.before .badEscape (c :: rest))
      | some _ => skipString rest
  | c :: rest =>
      if c = '"' then .ok rest
      else if c.toNat < 32 then .error (.behind .controlCharacter rest)
      else skipString rest

/-! ## Numbers -/

/-- Where the reader of an exponent stops, if it has no digits. -/
def exponentStop : List Char → Stop
  | _ :: rest =>
      match (Number.scanSign rest).2 with
      | [] => .behind .endOfValue []
      | other => .before .badNumber other
  | [] => .behind .endOfValue []

/-- Where the reader of a fraction and an exponent stops. -/
def fractionStop : List Char → Stop
  | '.' :: rest =>
      match Digits.span rest with
      | ([], []) => .before .endOfValue []
      | ([], other) => .before .badNumber other
      | (_, behind) => exponentStop behind
  | cs => exponentStop cs

/-- Where the reader of a number stops, if there is none. -/
def numberStop (cs : List Char) : Stop :=
  let unsigned := if cs.head? = some '-' then cs.drop 1 else cs
  match Digits.span unsigned with
  | ([], []) => .behind .endOfValue []
  | ([], other) => .before .badNumber other
  | (run, behind) =>
      if run.length ≠ 1 ∧ unsigned.head? = some '0' then .before .badNumber (unsigned.drop 1)
      else fractionStop behind

/-- Read a number. -/
def scanNumber (cs : List Char) : Scan Number :=
  match Number.scan cs with
  | none => .error (numberStop cs)
  | some scanned => .ok scanned

/-- Read a whole text as a number. -/
def readNumber (cs : List Char) : Except Fault Number :=
  match cs with
  | [] => .error (.after .endOfValue [])
  | first :: _ =>
      if first ≠ '-' ∧ ¬ first.isDigit then .error (.before .badNumber [] cs)
      else
        match scanNumber cs with
        | .error stop => .error (stop.fault cs)
        | .ok (found, []) => .ok found
        | .ok (_, rest) => .error ((Stop.before .badNumber rest).fault cs)

/-! ## Words -/

/-- Read the rest of a word. -/
def scanWord (word : List Char) (value : Json) (cs : List Char) : Scan Json :=
  match word, cs with
  | [], rest => .ok (value, rest)
  | _ :: _, [] => .error (.behind .endOfValue [])
  | expected :: word, c :: rest =>
      if c = expected then scanWord word value rest else .error (.before .badWord (c :: rest))

/-- Read a value that is neither a string nor a container. -/
def scanSimple : List Char → Scan Json
  | [] => .error (.before .endOfValue [])
  | 'n' :: rest => scanWord "ull".toList .null rest
  | 't' :: rest => scanWord "rue".toList (.bool true) rest
  | 'f' :: rest => scanWord "alse".toList (.bool false) rest
  | c :: rest =>
      if c = '-' ∨ c.isDigit then
        (scanNumber (c :: rest)).map fun scanned => (.number scanned.1, scanned.2)
      else .error (.before .badValue (c :: rest))

end Json
end RowGate
