import RowGate.Text.Punycode
import RowGate.Unicode.Composition
import RowGate.Unicode.Direction
import RowGate.Unicode.Joining
import RowGate.Url.Replacement

namespace RowGate
namespace Url
namespace Domain

/-!
# Domains

A domain is labels with dots between them.  A label may be written in the letters
of any script, or as `xn--` and the ASCII form of such a label; both have to be
in normal form.  No label begins with a mark, and joiners stand only where they
have a meaning.  Where one label is read from the right, all of them have to be
such that they can be told from each other.
-/

/-- The characters that have a meaning in a URL. -/
def reserved : List Char :=
  "#/:<>?@[\\]^|".toList

/-- Whether a character is in no label. -/
def isForbidden (c : Char) : Bool :=
  c.toNat ≤ 32 || c.toNat == 127 || c == '%' || c == '.' || reserved.contains c

/-- The most characters of a label that is not all ASCII. -/
def maxLetters : Nat := 1000

/-- The most ASCII characters that stand for a label. -/
def maxDigits : Nat := 2000

/-- Whether the characters of a text can be a label. -/
def isLabel (letters : List Char) : Bool :=
  !letters.any isForbidden && !letters.head?.any Unicode.isMark && Unicode.joinersFit [] letters

/-- The letters that the ASCII form of a label stands for. -/
def decoded? (form : List Char) : Option (List Char) :=
  if form.any (127 < ·.toNat) ∨ maxDigits < form.length then none
  else
    let (ascii, numbers) := (Text.cutLast '-' form).getD ([], form)
    (Text.Punycode.readNumbers? ascii (if ascii = [] then form else numbers)).filter fun letters =>
      letters.any (127 < ·.toNat) && (letters.mapM Replacement.of?) == some (letters.map ([·])) &&
        Unicode.normal letters == letters

/-- The letters of a label. -/
def letters? (label : List Char) : Option (List Char) :=
  match label with
  | 'x' :: 'n' :: '-' :: '-' :: form => (decoded? form).filter isLabel
  | _ =>
      if isLabel label ∧ (label.all (·.toNat < 128) ∨ label.length ≤ maxLetters) then some label
      else none

/-- Whether the labels of a domain, given by their letters, can stand together. -/
def fit (labels : List (List Char)) : Bool :=
  let directions := labels.map fun letters => letters.map Unicode.direction
  !(directions.any (·.any Unicode.Direction.isFromRight)) || directions.all Unicode.Direction.fit

/-- The domain that a text names, with its characters replaced and composed. -/
def read? (text : List Char) : Option (List Char) := do
  let name := Unicode.normal (← Replacement.ofText? text)
  let labels ← (Text.pieces '.' name).mapM letters?
  if fit labels then some name else none

end Domain
end Url
end RowGate
