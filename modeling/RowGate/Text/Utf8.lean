namespace RowGate
namespace Text

/-!
# Text and bytes

Bytes become text either strictly, where the first ill-formed sequence refuses
the whole and is reported, or leniently, where each maximal ill-formed part becomes one
replacement character and decoding goes on at the byte that broke it.
-/

namespace Utf8

/-- What a first byte announces: its own bits, how many further bytes follow,
and the bounds of the first of them.  The bounds exclude overlong forms, the
surrogates and code points above U+10FFFF. -/
def lead (b : UInt8) : Option (Nat × Nat × UInt8 × UInt8) :=
  if b < 0x80 then some (b.toNat, 0, 0x80, 0xBF)
  else if b < 0xC2 then none
  else if b < 0xE0 then some (b.toNat - 0xC0, 1, 0x80, 0xBF)
  else if b < 0xF0 then
    some (b.toNat - 0xE0, 2, if b = 0xE0 then 0xA0 else 0x80, if b = 0xED then 0x9F else 0xBF)
  else if b < 0xF5 then
    some (b.toNat - 0xF0, 3, if b = 0xF0 then 0x90 else 0x80, if b = 0xF4 then 0x8F else 0xBF)
  else none

/-- Gather the announced number of further bytes.  The rest begins at the
first byte that does not belong to the sequence. -/
def follow : Nat → UInt8 → UInt8 → Nat → List UInt8 → Option Nat × List UInt8
  | 0, _, _, code, rest => (some code, rest)
  | _ + 1, _, _, _, [] => (none, [])
  | count + 1, low, high, code, b :: rest =>
      if low ≤ b ∧ b ≤ high then follow count 0x80 0xBF (code * 64 + b.toNat % 64) rest
      else (none, b :: rest)

theorem length_follow_le (count : Nat) (low high : UInt8) (code : Nat) (bytes : List UInt8) :
    (follow count low high code bytes).2.length ≤ bytes.length := by
  induction count generalizing low high code bytes with
  | zero => exact Nat.le_refl _
  | succ count inductionHypothesis =>
      cases bytes with
      | nil => exact Nat.le_refl _
      | cons b rest =>
          simp only [follow]
          split
          · exact Nat.le_succ_of_le (inductionHypothesis _ _ _ _)
          · exact Nat.le_refl _

/-- One step: a character, or nothing for an ill-formed part, and the rest. -/
def step (b : UInt8) (rest : List UInt8) : Option Char × List UInt8 :=
  match lead b with
  | none => (none, rest)
  | some (code, count, low, high) =>
      let sequence := follow count low high code rest
      (sequence.1.map Char.ofNat, sequence.2)

theorem length_step_le (b : UInt8) (rest : List UInt8) :
    (step b rest).2.length ≤ rest.length := by
  unfold step
  split
  · exact Nat.le_refl _
  · exact length_follow_le _ _ _ _ _

/-- What is wrong with bytes that are no text, and behind how many bytes: so
many bytes belong to no character, or a character is cut off at the end. -/
inductive Flaw where
  | illFormed (place count : Nat)
  | cutOff (place : Nat)
deriving DecidableEq, Repr

namespace Flaw

/-- The wording of a flaw. -/
def message : Flaw → String
  | illFormed place count =>
      "invalid utf-8 sequence of " ++ Nat.repr count ++ " bytes from index " ++ Nat.repr place
  | cutOff place => "incomplete utf-8 byte sequence from index " ++ Nat.repr place

/-- The flaw of a sequence that begins with `b` and has been left at `left`. -/
def ofStep (place : Nat) (b : UInt8) (rest left : List UInt8) : Flaw :=
  if (lead b).isSome ∧ left = [] then .cutOff place
  else .illFormed place (rest.length + 1 - left.length)

end Flaw

/-- Decode the bytes behind `place` others, refusing ill-formed input. -/
def readFrom (place : Nat) : List UInt8 → Except Flaw (List Char)
  | [] => .ok []
  | b :: rest =>
      let first := step b rest
      match first.1 with
      | none => .error (.ofStep place b rest first.2)
      | some c =>
          (readFrom (place + (rest.length + 1 - first.2.length)) first.2).map (c :: ·)
termination_by bytes => bytes.length
decreasing_by exact Nat.lt_succ_of_le (length_step_le b rest)

/-- Decode, refusing ill-formed input. -/
def read (bytes : List UInt8) : Except Flaw (List Char) :=
  readFrom 0 bytes

/-- The text of bytes, if they are one. -/
def decode? (bytes : List UInt8) : Option (List Char) :=
  (read bytes).toOption

/-- Decode, writing U+FFFD for each ill-formed part. -/
def decodeLossy : List UInt8 → List Char
  | [] => []
  | b :: rest =>
      let first := step b rest
      first.1.getD '\uFFFD' :: decodeLossy first.2
termination_by bytes => bytes.length
decreasing_by exact Nat.lt_succ_of_le (length_step_le b rest)

/-- The bytes of a text. -/
def encode (cs : List Char) : List UInt8 :=
  cs.flatMap String.utf8EncodeChar

end Utf8
end Text
end RowGate
