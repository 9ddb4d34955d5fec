namespace RowGate

/-!
# Random bits

Identifiers, tokens and salts are drawn from a source of random bits.  The
source is any sequence of draws; what is drawn once is not drawn again.
-/

/-- A source of random bits and the number of draws taken from it. -/
structure Random where
  draw : Nat → BitVec 128
  taken : Nat

namespace Random

/-- The next draw. -/
def next (random : Random) : BitVec 128 × Random :=
  (random.draw random.taken, { random with taken := random.taken + 1 })

/-- The bytes of a draw, most significant first. -/
def bytes (bits : BitVec 128) : List UInt8 :=
  (List.range 16).map fun place => UInt8.ofNat (bits.toNat >>> (8 * (15 - place)))

end Random
end RowGate
