import RowGate.Text.Hex

namespace RowGate

/-!
# Universally unique identifiers

An identifier is 128 bits.  It is written as 32 lower-case hexadecimal digits
in groups of 8, 4, 4, 4 and 12, and is read in that form with digits of either
case, also in braces or behind `urn:uuid:`, and without any hyphens.
-/

/-- An identifier of 128 bits. -/
structure Uuid where
  bits : BitVec 128
deriving DecidableEq, Repr

namespace Uuid

/-- Put hyphens between the groups of 32 digits. -/
def hyphenate (digits : List Char) : List Char :=
  digits.take 8 ++ '-' :: (digits.drop 8).take 4 ++ '-' :: (digits.drop 12).take 4 ++
    '-' :: (digits.drop 16).take 4 ++ '-' :: digits.drop 20

/-- The characters of an identifier. -/
def chars (id : Uuid) : List Char :=
  hyphenate (Text.Hex.digits 32 id.bits.toNat)

/-- The text of an identifier. -/
def text (id : Uuid) : String :=
  String.ofList id.chars

/-- Read 32 digits. -/
def ofDigits? (cs : List Char) : Option Uuid :=
  if cs.length = 32 then (Text.Hex.read cs).map fun n => ⟨BitVec.ofNat 128 n⟩ else none

/-- Read the hyphenated form: taken without its hyphens, its digits give the
same text when the hyphens are put back. -/
def ofHyphenated? (cs : List Char) : Option Uuid :=
  let digits := cs.filter (· ≠ '-')
  if hyphenate digits = cs then ofDigits? digits else none

/-- What may stand in front of the hyphenated form. -/
def label : List Char :=
  ['u', 'r', 'n', ':', 'u', 'u', 'i', 'd', ':']

/-- Read any of the accepted forms. -/
def ofChars? (cs : List Char) : Option Uuid :=
  if cs.length = 32 then ofDigits? cs
  else if cs.length = 36 then ofHyphenated? cs
  else if cs.length = 38 then
    if cs.head? = some '\x7b' ∧ cs.getLast? = some '\x7d' then ofHyphenated? (cs.drop 1).dropLast
    else none
  else if cs.length = 45 then
    if (cs.take 9).map Char.toLower = label then ofHyphenated? (cs.drop 9) else none
  else none

/-- Read a text. -/
def read? (s : String) : Option Uuid :=
  ofChars? s.toList

/-- The identifier of 122 random bits: the others say that it is of version
four in the common layout. -/
def ofRandom (bits : BitVec 128) : Uuid :=
  let version : BitVec 128 := 0x00000000000040008000000000000000#128
  let free : BitVec 128 := 0xFFFFFFFFFFFF0FFF3FFFFFFFFFFFFFFF#128
  ⟨(bits &&& free) ||| version⟩

end Uuid
end RowGate
