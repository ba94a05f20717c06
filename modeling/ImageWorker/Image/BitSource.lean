import ImageWorker.Image.Octets

/-!
# Octets bit by bit

Formats take the bits of an octet from its low or from its high end, and put numbers together
accordingly.
-/

namespace ImageWorker

/-- Octets that are read bit by bit, and how many bits have been read. -/
structure BitSource where
  octets : Octets
  read : Nat

namespace BitSource

/-- The start of some octets. -/
def ofOctets (octets : Octets) : BitSource := ⟨octets, 0⟩

def low (s : BitSource) : Option (Nat × BitSource) :=
  (s.octets[s.read / 8]?).map fun o =>
    ((o.toNat >>> (s.read % 8)) % 2, { s with read := s.read + 1 })

def high (s : BitSource) : Option (Nat × BitSource) :=
  (s.octets[s.read / 8]?).map fun o =>
    ((o.toNat >>> (7 - s.read % 8)) % 2, { s with read := s.read + 1 })

/-- A number of some bits, the lowest first. -/
def lowBits : Nat → BitSource → Option (Nat × BitSource)
  | 0, s => some (0, s)
  | n + 1, s => do
    let (b, s) ← s.low
    let (more, s) ← lowBits n s
    return (b + 2 * more, s)

/-- A number of some bits behind the bits of `value`, the highest first. -/
def highBitsAfter (value : Nat) : Nat → BitSource → Option (Nat × BitSource)
  | 0, s => some (value, s)
  | n + 1, s => do
    let (b, s) ← s.high
    highBitsAfter (2 * value + b) n s

/-- A number of some bits, the highest first. -/
def highBits (n : Nat) (s : BitSource) : Option (Nat × BitSource) := highBitsAfter 0 n s

def aligned (s : BitSource) : BitSource := { s with read := (s.read + 7) / 8 * 8 }

/-- How many bits there are at most. -/
def size (s : BitSource) : Nat := 8 * s.octets.size

end BitSource

end ImageWorker
