import RowGate.Auth.Blake2b

namespace RowGate
namespace Auth
namespace Argon2

/-!
# Argon2

A password is hashed by filling a memory of blocks, each from the block before
it and one other, and folding the last blocks of all lanes into a tag.  The
variants differ in how the other block is chosen: from the memory itself, from
its position alone, or from its position in the first half of the first pass
and from the memory later on.

A block is 1024 bytes, eight rows of eight registers of two words each.  The
permutation works on the rows and then on the columns, which are the rows of
the transposed block.
-/

open Blake2b (littleEndian)

/-- How the other block is chosen. -/
inductive Variant where
  | dependent
  | independent
  | hybrid
deriving DecidableEq, Repr

namespace Variant

/-- The number of a variant in the hash. -/
def number : Variant → Nat
  | dependent => 0
  | independent => 1
  | hybrid => 2

end Variant

/-- The costs of a hash and what goes into it beside password and salt. -/
structure Settings where
  variant : Variant
  version : Nat
  memory : Nat
  passes : Nat
  lanes : Nat
  data : List UInt8
  length : Nat
deriving DecidableEq, Repr

/-! ## Blocks -/

/-- Two words. -/
structure Register where
  first : UInt64
  second : UInt64

/-- Eight registers. -/
structure Row where
  r0 : Register
  r1 : Register
  r2 : Register
  r3 : Register
  r4 : Register
  r5 : Register
  r6 : Register
  r7 : Register

/-- Eight rows. -/
structure Block where
  r0 : Row
  r1 : Row
  r2 : Row
  r3 : Row
  r4 : Row
  r5 : Row
  r6 : Row
  r7 : Row

namespace Register

/-- The exclusive or of two registers. -/
def xor (a b : Register) : Register :=
  ⟨a.first ^^^ b.first, a.second ^^^ b.second⟩

end Register

/-- The sum of two words and twice the product of their lower halves. -/
@[inline] def blend (a b : UInt64) : UInt64 :=
  a + b + 2 * (a &&& 0xFFFFFFFF) * (b &&& 0xFFFFFFFF)

/-- Mix four words and hand them on. -/
@[inline] def quarter {α : Type} (a b c d : UInt64)
    (next : UInt64 → UInt64 → UInt64 → UInt64 → α) : α :=
  let a := blend a b
  let d := Blake2b.rotate (d ^^^ a) 32
  let c := blend c d
  let b := Blake2b.rotate (b ^^^ c) 24
  let a := blend a b
  let d := Blake2b.rotate (d ^^^ a) 16
  let c := blend c d
  let b := Blake2b.rotate (b ^^^ c) 63
  next a b c d

namespace Row

/-- The exclusive or of two rows. -/
def xor (a b : Row) : Row :=
  ⟨a.r0.xor b.r0, a.r1.xor b.r1, a.r2.xor b.r2, a.r3.xor b.r3,
   a.r4.xor b.r4, a.r5.xor b.r5, a.r6.xor b.r6, a.r7.xor b.r7⟩

/-- The registers of a row. -/
def registers (row : Row) : List Register :=
  [row.r0, row.r1, row.r2, row.r3, row.r4, row.r5, row.r6, row.r7]

/-- Mix the 16 words of a row: the columns of the square that they form, then
its diagonals. -/
def permute (row : Row) : Row :=
  quarter row.r0.first row.r2.first row.r4.first row.r6.first fun v0 v4 v8 v12 =>
  quarter row.r0.second row.r2.second row.r4.second row.r6.second fun v1 v5 v9 v13 =>
  quarter row.r1.first row.r3.first row.r5.first row.r7.first fun v2 v6 v10 v14 =>
  quarter row.r1.second row.r3.second row.r5.second row.r7.second fun v3 v7 v11 v15 =>
  quarter v0 v5 v10 v15 fun v0 v5 v10 v15 =>
  quarter v1 v6 v11 v12 fun v1 v6 v11 v12 =>
  quarter v2 v7 v8 v13 fun v2 v7 v8 v13 =>
  quarter v3 v4 v9 v14 fun v3 v4 v9 v14 =>
  ⟨⟨v0, v1⟩, ⟨v2, v3⟩, ⟨v4, v5⟩, ⟨v6, v7⟩, ⟨v8, v9⟩, ⟨v10, v11⟩, ⟨v12, v13⟩, ⟨v14, v15⟩⟩

end Row

namespace Block

/-- The exclusive or of two blocks. -/
def xor (a b : Block) : Block :=
  ⟨a.r0.xor b.r0, a.r1.xor b.r1, a.r2.xor b.r2, a.r3.xor b.r3,
   a.r4.xor b.r4, a.r5.xor b.r5, a.r6.xor b.r6, a.r7.xor b.r7⟩

/-- Permute every row. -/
def permuteRows (b : Block) : Block :=
  ⟨b.r0.permute, b.r1.permute, b.r2.permute, b.r3.permute,
   b.r4.permute, b.r5.permute, b.r6.permute, b.r7.permute⟩

/-- Exchange rows and columns. -/
def transpose (b : Block) : Block :=
  ⟨⟨b.r0.r0, b.r1.r0, b.r2.r0, b.r3.r0, b.r4.r0, b.r5.r0, b.r6.r0, b.r7.r0⟩,
   ⟨b.r0.r1, b.r1.r1, b.r2.r1, b.r3.r1, b.r4.r1, b.r5.r1, b.r6.r1, b.r7.r1⟩,
   ⟨b.r0.r2, b.r1.r2, b.r2.r2, b.r3.r2, b.r4.r2, b.r5.r2, b.r6.r2, b.r7.r2⟩,
   ⟨b.r0.r3, b.r1.r3, b.r2.r3, b.r3.r3, b.r4.r3, b.r5.r3, b.r6.r3, b.r7.r3⟩,
   ⟨b.r0.r4, b.r1.r4, b.r2.r4, b.r3.r4, b.r4.r4, b.r5.r4, b.r6.r4, b.r7.r4⟩,
   ⟨b.r0.r5, b.r1.r5, b.r2.r5, b.r3.r5, b.r4.r5, b.r5.r5, b.r6.r5, b.r7.r5⟩,
   ⟨b.r0.r6, b.r1.r6, b.r2.r6, b.r3.r6, b.r4.r6, b.r5.r6, b.r6.r6, b.r7.r6⟩,
   ⟨b.r0.r7, b.r1.r7, b.r2.r7, b.r3.r7, b.r4.r7, b.r5.r7, b.r6.r7, b.r7.r7⟩⟩

/-- Compress two blocks into one. -/
def compress (a b : Block) : Block :=
  let mixed := a.xor b
  mixed.xor mixed.permuteRows.transpose.permuteRows.transpose

/-- The registers of a block. -/
def registers (b : Block) : List Register :=
  [b.r0, b.r1, b.r2, b.r3, b.r4, b.r5, b.r6, b.r7].flatMap Row.registers

/-- The words of a block. -/
def words (b : Block) : List UInt64 :=
  b.registers.flatMap fun register => [register.first, register.second]

/-- The register of the first two words. -/
def registerOf (words : List UInt64) : Register :=
  ⟨words.getD 0 0, words.getD 1 0⟩

/-- The row of the first 16 words. -/
def rowOf (words : List UInt64) : Row :=
  let part := fun place : Nat => registerOf (words.drop (2 * place))
  ⟨part 0, part 1, part 2, part 3, part 4, part 5, part 6, part 7⟩

/-- The block of 128 words. -/
def ofWords (words : List UInt64) : Block :=
  let part := fun place : Nat => rowOf (words.drop (16 * place))
  ⟨part 0, part 1, part 2, part 3, part 4, part 5, part 6, part 7⟩

/-- The block of zeros. -/
def zero : Block :=
  ofWords []

instance : Inhabited Block := ⟨zero⟩

end Block

/-! ## Hashes of any length -/

/-- The chain of hashes behind the first one, each giving its first half. -/
def chain : Nat → (length : Nat) → List UInt8 → List UInt8
  | 0, length, previous => Blake2b.hash length previous
  | steps + 1, length, previous =>
      let next := Blake2b.hash 64 previous
      next.take 32 ++ chain steps length next

/-- The hash of an input with any number of bytes. -/
def longHash (length : Nat) (input : List UInt8) : List UInt8 :=
  let labelled := littleEndian 4 length ++ input
  if length ≤ 64 then Blake2b.hash length labelled
  else
    let steps := (length + 31) / 32 - 3
    let first := Blake2b.hash 64 labelled
    first.take 32 ++ chain steps (length - 32 * (steps + 1)) first

/-! ## Filling the memory -/

/-- The dimensions of the memory: lanes of four slices each. -/
structure Shape where
  lanes : Nat
  segment : Nat

namespace Shape

/-- The number of blocks of a lane. -/
def lane (shape : Shape) : Nat := 4 * shape.segment

/-- The number of blocks. -/
def size (shape : Shape) : Nat := shape.lanes * shape.lane

end Shape

/-- Where the memory is being filled. -/
structure Position where
  pass : Nat
  slice : Nat
  lane : Nat

/-- The block that a position draws its choices from, when they do not depend
on the memory. -/
def addresses (settings : Settings) (shape : Shape) (position : Position) (counter : Nat) :
    List UInt64 :=
  let input := Block.ofWords ([position.pass, position.lane, position.slice, shape.size,
    settings.passes, settings.variant.number, counter].map UInt64.ofNat)
  (Block.zero.compress (Block.zero.compress input)).words

/-- The choices of a whole segment; nothing when they come from the memory. -/
def choices (settings : Settings) (shape : Shape) (position : Position) : Array UInt64 :=
  let independent :=
    settings.variant = .independent ∨
      (settings.variant = .hybrid ∧ position.pass = 0 ∧ position.slice < 2)
  if independent then
    ((List.range (shape.segment / 128 + 1)).flatMap fun block =>
      addresses settings shape position (block + 1)).toArray
  else #[]

/-- The place of the other block, among those that are already filled. -/
def reference (shape : Shape) (position : Position) (index : Nat) (choice : UInt64) : Nat :=
  let lane :=
    if position.pass = 0 ∧ position.slice = 0 then position.lane
    else (choice >>> 32).toNat % shape.lanes
  let same := lane = position.lane
  let behind := if position.pass = 0 then position.slice * shape.segment else 3 * shape.segment
  let filled := if same then behind + index - 1 else if index = 0 then behind - 1 else behind
  let low := (choice &&& 0xFFFFFFFF).toNat
  let squared := (low * low) >>> 32
  let relative := filled - 1 - ((filled * squared) >>> 32)
  let origin := if position.pass = 0 then 0 else (position.slice + 1) * shape.segment
  lane * shape.lane + (origin + relative) % shape.lane

/-- Fill the blocks of a segment; `count` of them are left. -/
def fillSegment (settings : Settings) (shape : Shape) (position : Position)
    (chosen : Array UInt64) : (count index : Nat) → Array Block → Array Block
  | 0, _, memory => memory
  | count + 1, index, memory =>
      let column := position.slice * shape.segment + index
      let origin := position.lane * shape.lane
      let before := memory.getD (origin + (column + shape.lane - 1) % shape.lane) default
      let choice :=
        if chosen.isEmpty then before.r0.r0.first else chosen.getD index 0
      let other := memory.getD (reference shape position index choice) default
      let fresh := before.compress other
      let place := origin + column
      let block :=
        if position.pass = 0 ∨ settings.version = 16 then fresh
        else fresh.xor (memory.getD place default)
      fillSegment settings shape position chosen count (index + 1)
        (memory.setIfInBounds place block)

/-- Fill one segment; the first two blocks of a lane are there from the
start. -/
def fillAt (settings : Settings) (shape : Shape) (memory : Array Block) (position : Position) :
    Array Block :=
  let first := if position.pass = 0 ∧ position.slice = 0 then 2 else 0
  fillSegment settings shape position (choices settings shape position) (shape.segment - first)
    first memory

/-- The positions in the order in which they are filled. -/
def positions (settings : Settings) (shape : Shape) : List Position :=
  (List.range settings.passes).flatMap fun pass =>
    (List.range 4).flatMap fun slice =>
      (List.range shape.lanes).map fun lane => ⟨pass, slice, lane⟩

/-! ## The hash -/

/-- The hash of all inputs, from which the memory starts. -/
def seed (settings : Settings) (password salt : List UInt8) : List UInt8 :=
  let field := fun bytes : List UInt8 => littleEndian 4 bytes.length ++ bytes
  let numbers := [settings.lanes, settings.length, settings.memory, settings.passes,
    settings.version, settings.variant.number]
  Blake2b.hash 64 (numbers.flatMap (littleEndian 4) ++ field password ++ field salt ++
    field [] ++ field settings.data)

/-- A block that a lane starts with. -/
def startBlock (seed : List UInt8) (column lane : Nat) : Block :=
  .ofWords (Blake2b.words 128 (longHash 1024 (seed ++ littleEndian 4 column ++
    littleEndian 4 lane)))

/-- The memory at the start. -/
def initial (shape : Shape) (seed : List UInt8) : Array Block :=
  (List.range shape.lanes).foldl
    (fun memory lane =>
      (memory.setIfInBounds (lane * shape.lane) (startBlock seed 0 lane)).setIfInBounds
        (lane * shape.lane + 1) (startBlock seed 1 lane))
    (Array.replicate shape.size Block.zero)

/-- The tag of a password. -/
def hash (settings : Settings) (password salt : List UInt8) : List UInt8 :=
  let shape : Shape := ⟨settings.lanes, settings.memory / (4 * settings.lanes)⟩
  let filled := (positions settings shape).foldl (fillAt settings shape)
    (initial shape (seed settings password salt))
  let last := ((List.range shape.lanes).map fun lane =>
    filled.getD (lane * shape.lane + shape.lane - 1) default).foldl Block.xor Block.zero
  longHash settings.length (Blake2b.bytes last.words)

end Argon2
end Auth
end RowGate
