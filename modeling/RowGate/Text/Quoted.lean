import RowGate.Text.Hex
import RowGate.Unicode.Visibility

namespace RowGate
namespace Text
namespace Quoted

/-!
# Quoted text

A message shows a text in quotes, so that its end can be seen.  Quotes and
backslashes have a backslash in front, line breaks, tabs and zero are letters
behind a backslash, and other characters that do not show by themselves, or
would extend the one in front, are code points.
-/

/-- The hexadecimal digits of a code point, without zeros in front. -/
def codeDigits (code : Nat) : List Char :=
  match (Hex.digits 6 code).dropWhile (· = '0') with
  | [] => ['0']
  | digits => digits

/-- A character as it is shown. -/
def shown (c : Char) : List Char :=
  if c = '"' ∨ c = '\\' then ['\\', c]
  else if c = '\n' then ['\\', 'n']
  else if c = '\r' then ['\\', 'r']
  else if c = '\t' then ['\\', 't']
  else if c = Char.ofNat 0 then ['\\', '0']
  else if Unicode.isHidden c || Unicode.isExtender c then
    '\\' :: 'u' :: '\x7b' :: codeDigits c.toNat ++ ['\x7d']
  else [c]

/-- A text in quotes. -/
def quoted (s : String) : String :=
  String.ofList ('"' :: s.toList.flatMap shown ++ ['"'])

end Quoted
end Text
end RowGate
