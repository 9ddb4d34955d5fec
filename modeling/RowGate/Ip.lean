import RowGate.Decimal.Bounded
import RowGate.Text.Hex
import RowGate.Text.Split

namespace RowGate
namespace Ip

/-!
# Numeric addresses

A numeric address is four numbers between dots, or eight groups of hexadecimal
digits between colons.  Two colons in a row stand for the groups that are left
out, at least one, and the last two groups may be written as four numbers.
-/

/-! ## Reading -/

/-- A decimal number up to a bound. -/
def number? (high : Nat) (cs : List Char) : Option Nat :=
  if cs.head? = some '+' then none else Bounded.natural? high cs

/-- One of the four numbers, without zeros in front. -/
def byte? (cs : List Char) : Option Nat :=
  if cs.length ≤ 3 ∧ (cs.head? = some '0' → cs = ['0']) then number? 255 cs else none

/-- Four numbers between dots. -/
def fourBytes? (cs : List Char) : Option (List Nat) :=
  match Text.pieces '.' cs with
  | [a, b, c, d] => [a, b, c, d].mapM byte?
  | _ => none

/-- A group of one to four hexadecimal digits. -/
def group? (cs : List Char) : Option Nat :=
  if cs ≠ [] ∧ cs.length ≤ 4 then Text.Hex.read cs else none

/-- Groups between colons; the last piece may be four numbers, which make two
groups. -/
def groups? : List (List Char) → Option (List Nat)
  | [] => some []
  | [last] =>
      match fourBytes? last with
      | some [a, b, c, d] => some [a * 256 + b, c * 256 + d]
      | _ => (group? last).map fun group => [group]
  | first :: rest => do
      let group ← group? first
      let others ← groups? rest
      some (group :: others)

/-- Groups on one side of the gap, which may be none. -/
def side? (cs : List Char) : Option (List Nat) :=
  if cs = [] then some [] else groups? (Text.pieces ':' cs)

/-- Split a text at its first pair of colons. -/
def splitGap : List Char → Option (List Char × List Char)
  | ':' :: ':' :: rest => some ([], rest)
  | c :: rest => (splitGap rest).map fun halves => (c :: halves.1, halves.2)
  | [] => none

/-- Eight groups, some of which a gap may stand for.  Numbers between dots
cannot stand in front of a gap. -/
def eightGroups? (cs : List Char) : Option (List Nat) := do
  match splitGap cs with
  | none =>
      let groups ← groups? (Text.pieces ':' cs)
      if groups.length = 8 then some groups else none
  | some (front, back) =>
      let first ← side? front
      let last ← side? back
      if front.contains '.' ∨ 7 < first.length + last.length then none
      else some (first ++ List.replicate (8 - first.length - last.length) 0 ++ last)

/-- Whether a text is a numeric address of either form. -/
def isAddress (cs : List Char) : Bool :=
  (fourBytes? cs).isSome || (eightGroups? cs).isSome

/-! ## Writing -/

/-- The hexadecimal digits of a group, without zeros in front. -/
def groupChars (group : Nat) : List Char :=
  match (Text.Hex.digits 4 group).dropWhile (· = '0') with
  | [] => ['0']
  | digits => digits

/-- The characters of four numbers. -/
def fourChars (bytes : List Nat) : List Char :=
  Text.joined ['.'] (bytes.map fun byte => Digits.chars (Digits.ofNat byte))

/-- The number of zeros at the front of a list of groups. -/
def zeros (groups : List Nat) : Nat :=
  (groups.takeWhile (· = 0)).length

/-- The place and the length of the longest run of zero groups; of two runs of
one length the first. -/
def longestRun (groups : List Nat) : Nat × Nat :=
  (List.range 8).foldl
    (fun best place =>
      let length := zeros (groups.drop place)
      if best.2 < length then (place, length) else best)
    (0, 0)

/-- The characters of eight groups.  The longest run of zeros becomes a gap if
it is longer than one group. -/
def sixChars (groups : List Nat) : List Char :=
  match groups with
  | [0, 0, 0, 0, 0, 65535, high, low] =>
      "::ffff:".toList ++ fourChars [high / 256, high % 256, low / 256, low % 256]
  | _ =>
      let run := longestRun groups
      if run.2 ≤ 1 then Text.joined [':'] (groups.map groupChars)
      else
        Text.joined [':'] ((groups.take run.1).map groupChars) ++ ':' :: ':' ::
          Text.joined [':'] ((groups.drop (run.1 + run.2)).map groupChars)

end Ip
end RowGate
