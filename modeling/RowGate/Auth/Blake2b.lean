namespace RowGate
namespace Auth
namespace Blake2b

/-!
# BLAKE2b

The hash of a text of bytes, of 1 to 64 bytes.  The input is cut into blocks of
128 bytes, each of which is 16 little-endian words, and twelve rounds mix every
block into a state of eight words.
-/

/-- A number as bytes, least significant first. -/
def littleEndian (count : Nat) (n : Nat) : List UInt8 :=
  (List.range count).map fun place => UInt8.ofNat (n >>> (8 * place))

/-- The word of bytes, least significant first. -/
def word (bytes : List UInt8) : UInt64 :=
  bytes.foldr (fun byte high => high <<< 8 ||| byte.toUInt64) 0

/-- The first `count` words of bytes; words without bytes are zero. -/
def words : Nat → List UInt8 → List UInt64
  | 0, _ => []
  | count + 1, bytes => word (bytes.take 8) :: words count (bytes.drop 8)

/-- The bytes of words. -/
def bytes (words : List UInt64) : List UInt8 :=
  words.flatMap fun word => littleEndian 8 word.toNat

/-- Rotate a word to the right by less than 64 places. -/
@[inline] def rotate (x : UInt64) (places : UInt64) : UInt64 :=
  x >>> places ||| x <<< (64 - places)

/-- The words that a state starts from. -/
def start : List UInt64 :=
  [0x6a09e667f3bcc908, 0xbb67ae8584caa73b, 0x3c6ef372fe94f82b, 0xa54ff53a5f1d36f1,
   0x510e527fade682d1, 0x9b05688c2b3e6c1f, 0x1f83d9abfb41bd6b, 0x5be0cd19137e2179]

/-- The order in which the rounds take the words of a block. -/
def schedule : List (List Nat) :=
  [[0, 1, 2, 3, 4, 5, 6, 7, 8, 9, 10, 11, 12, 13, 14, 15],
   [14, 10, 4, 8, 9, 15, 13, 6, 1, 12, 0, 2, 11, 7, 5, 3],
   [11, 8, 12, 0, 5, 2, 15, 13, 10, 14, 3, 6, 7, 1, 9, 4],
   [7, 9, 3, 1, 13, 12, 11, 14, 2, 6, 5, 10, 4, 0, 15, 8],
   [9, 0, 5, 7, 2, 4, 10, 15, 14, 1, 11, 12, 6, 8, 3, 13],
   [2, 12, 6, 10, 0, 11, 8, 3, 4, 13, 7, 5, 15, 14, 1, 9],
   [12, 5, 1, 15, 14, 13, 4, 10, 0, 7, 6, 3, 9, 2, 8, 11],
   [13, 11, 7, 14, 12, 1, 3, 9, 5, 0, 15, 4, 8, 6, 2, 10],
   [6, 15, 14, 9, 11, 3, 0, 8, 12, 2, 13, 7, 1, 4, 10, 5],
   [10, 2, 8, 4, 7, 6, 1, 5, 15, 11, 9, 14, 3, 12, 13, 0],
   [0, 1, 2, 3, 4, 5, 6, 7, 8, 9, 10, 11, 12, 13, 14, 15],
   [14, 10, 4, 8, 9, 15, 13, 6, 1, 12, 0, 2, 11, 7, 5, 3]]

/-- The places of the working vector that the steps of a round mix: its
columns, then its diagonals. -/
def lanes : List (Nat × Nat × Nat × Nat) :=
  [(0, 4, 8, 12), (1, 5, 9, 13), (2, 6, 10, 14), (3, 7, 11, 15),
   (0, 5, 10, 15), (1, 6, 11, 12), (2, 7, 8, 13), (3, 4, 9, 14)]

/-- Mix two words into four places of the working vector. -/
def mix (v : Array UInt64) (lane : Nat × Nat × Nat × Nat) (x y : UInt64) : Array UInt64 :=
  let (i, j, k, l) := lane
  let a := v.getD i 0 + v.getD j 0 + x
  let d := rotate (v.getD l 0 ^^^ a) 32
  let c := v.getD k 0 + d
  let b := rotate (v.getD j 0 ^^^ c) 24
  let a := a + b + y
  let d := rotate (d ^^^ a) 16
  let c := c + d
  let b := rotate (b ^^^ c) 63
  (((v.setIfInBounds i a).setIfInBounds j b).setIfInBounds k c).setIfInBounds l d

/-- One round. -/
def round (block v : Array UInt64) (order : List Nat) : Array UInt64 :=
  (lanes.zipIdx).foldl
    (fun v lane => mix v lane.1 (block.getD (order.getD (2 * lane.2) 0) 0)
      (block.getD (order.getD (2 * lane.2 + 1) 0) 0)) v

/-- Mix a block into the state.  `count` is the number of bytes so far. -/
def compress (state : List UInt64) (block : List UInt8) (count : Nat) (last : Bool) :
    List UInt64 :=
  let tail := start.drop 4
  let low := tail.getD 0 0 ^^^ UInt64.ofNat count
  let high := tail.getD 1 0 ^^^ UInt64.ofNat (count >>> 64)
  let mark := if last then ~~~ tail.getD 2 0 else tail.getD 2 0
  let initial := (state ++ start.take 4 ++ [low, high, mark, tail.getD 3 0]).toArray
  let mixed := (schedule.foldl (round (words 16 block).toArray) initial).toList
  List.zipWith (· ^^^ ·) state (List.zipWith (· ^^^ ·) (mixed.take 8) (mixed.drop 8))

/-- Mix the blocks of an input into the state; the last one may be short.
`fuel` bounds the number of blocks. -/
def absorb : (fuel : Nat) → List UInt64 → (count : Nat) → List UInt8 → List UInt64
  | 0, state, _, _ => state
  | fuel + 1, state, count, input =>
      if input.length ≤ 128 then compress state input (count + input.length) true
      else absorb fuel (compress state (input.take 128) (count + 128) false) (count + 128)
        (input.drop 128)

/-- The hash of an input, of a length in bytes. -/
def hash (length : Nat) (input : List UInt8) : List UInt8 :=
  let parameters := UInt64.ofNat (0x01010000 + length)
  let initial := (start.getD 0 0 ^^^ parameters) :: start.drop 1
  (bytes (absorb (input.length / 128 + 1) initial 0 input)).take length

end Blake2b
end Auth
end RowGate
