import RowGate.Json.Basic
import RowGate.Text.Hex

namespace RowGate
namespace Json

/-!
# Writing JSON

Values are written without blanks.  In a string the quote, the backslash and
the characters below U+0020 are escaped and nothing else is, so a written value
never holds a line break or another control character.
-/

/-- A character as it stands in a written string. -/
def escapeChar (c : Char) : List Char :=
  if c = '"' then ['\\', '"']
  else if c = '\\' then ['\\', '\\']
  else if c.toNat < 32 then
    if c = '\n' then ['\\', 'n']
    else if c = '\r' then ['\\', 'r']
    else if c = '\t' then ['\\', 't']
    else if c.toNat = 8 then ['\\', 'b']
    else if c.toNat = 12 then ['\\', 'f']
    else ['\\', 'u', '0', '0', Text.Hex.digit (c.toNat / 16), Text.Hex.digit (c.toNat % 16)]
  else [c]

/-- The characters of a text as they stand in a written string. -/
def escape (cs : List Char) : List Char :=
  cs.flatMap escapeChar

/-- A text as a written string, quotes included. -/
def quoted (s : String) : List Char :=
  '"' :: escape s.toList ++ ['"']

mutual

/-- The characters of a written value. -/
def chars : Json → List Char
  | .null => ['n', 'u', 'l', 'l']
  | .bool true => ['t', 'r', 'u', 'e']
  | .bool false => ['f', 'a', 'l', 's', 'e']
  | .number n => n.chars
  | .string s => quoted s
  | .array [] => ['[', ']']
  | .array (item :: rest) => '[' :: chars item ++ moreItems rest
  | .object [] => ['\x7b', '\x7d']
  | .object ((key, value) :: rest) => '\x7b' :: quoted key ++ ':' :: chars value ++ moreMembers rest

/-- The items after the first, each behind its comma, and the closing bracket. -/
def moreItems : List Json → List Char
  | [] => [']']
  | item :: rest => ',' :: chars item ++ moreItems rest

/-- The members after the first, each behind its comma, and the closing brace. -/
def moreMembers : List (String × Json) → List Char
  | [] => ['\x7d']
  | (key, value) :: rest => ',' :: quoted key ++ ':' :: chars value ++ moreMembers rest

end

/-- A value as text. -/
def render (value : Json) : String :=
  String.ofList value.chars

end Json
end RowGate
