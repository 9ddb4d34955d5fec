namespace RowGate
namespace Text

/-!
# Base64 without padding

Three bytes are four digits of six bits each.  A last group of one or two
bytes is two or three digits whose unused bits are zero, and the reader
refuses any other value of those bits, so that no two texts stand for the
same bytes.  The two alphabets differ in their last two digits only.
-/

/-- A choice of the digits for 62 and 63. -/
structure Base64 where
  digit62 : Char
  digit63 : Char

namespace Base64

/-- The alphabet with plus and slash. -/
def standard : Base64 := ⟨'+', '/'⟩

/-- The alphabet with hyphen and low line, safe in a URL. -/
def urlSafe : Base64 := ⟨'-', '_'⟩

/-- The digit for a value below 64. -/
def digit (alphabet : Base64) (value : Nat) : Char :=
  if value < 26 then Char.ofNat (65 + value)
  else if value < 52 then Char.ofNat (97 + (value - 26))
  else if value < 62 then Char.ofNat (48 + (value - 52))
  else if value = 62 then alphabet.digit62
  else alphabet.digit63

/-- The value of a digit. -/
def value? (alphabet : Base64) (c : Char) : Option Nat :=
  if 'A' ≤ c ∧ c ≤ 'Z' then some (c.toNat - 65)
  else if 'a' ≤ c ∧ c ≤ 'z' then some (c.toNat - 97 + 26)
  else if '0' ≤ c ∧ c ≤ '9' then some (c.toNat - 48 + 52)
  else if c = alphabet.digit62 then some 62
  else if c = alphabet.digit63 then some 63
  else none

/-- Write bytes as digits. -/
def encode (alphabet : Base64) : List UInt8 → List Char
  | [] => []
  | [a] =>
      let n := a.toNat * 16
      [alphabet.digit (n / 64), alphabet.digit (n % 64)]
  | [a, b] =>
      let n := (a.toNat * 256 + b.toNat) * 4
      [alphabet.digit (n / 4096), alphabet.digit (n / 64 % 64), alphabet.digit (n % 64)]
  | a :: b :: c :: rest =>
      let n := (a.toNat * 256 + b.toNat) * 256 + c.toNat
      alphabet.digit (n / 262144) :: alphabet.digit (n / 4096 % 64) ::
        alphabet.digit (n / 64 % 64) :: alphabet.digit (n % 64) :: encode alphabet rest

/-- Read digits as bytes. -/
def decode? (alphabet : Base64) : List Char → Option (List UInt8)
  | [] => some []
  | [_] => none
  | [a, b] => do
      let n := (← alphabet.value? a) * 64 + (← alphabet.value? b)
      if n % 16 = 0 then some [UInt8.ofNat (n / 16)] else none
  | [a, b, c] => do
      let n := ((← alphabet.value? a) * 64 + (← alphabet.value? b)) * 64 + (← alphabet.value? c)
      if n % 4 = 0 then some [UInt8.ofNat (n / 1024), UInt8.ofNat (n / 4 % 256)] else none
  | a :: b :: c :: d :: rest => do
      let n := (((← alphabet.value? a) * 64 + (← alphabet.value? b)) * 64
        + (← alphabet.value? c)) * 64 + (← alphabet.value? d)
      let others ← decode? alphabet rest
      some (UInt8.ofNat (n / 65536) :: UInt8.ofNat (n / 256 % 256) :: UInt8.ofNat (n % 256) ::
        others)

end Base64
end Text
end RowGate
