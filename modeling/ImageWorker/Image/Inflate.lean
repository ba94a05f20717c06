import ImageWorker.Image.BitSource
import ImageWorker.Image.PrefixCode

/-!
# Inflating compressed data

Compressed data is a sequence of blocks, each stored as it is or written as literal octets and
copies of what came before, under a fixed prefix code or one that the block brings along. Bits are
taken from the low end of each octet.
-/

namespace ImageWorker.Inflate

/-- For each length symbol the shortest length and the number of further bits. -/
def lengths : Array (Nat × Nat) :=
  #[(3, 0), (4, 0), (5, 0), (6, 0), (7, 0), (8, 0), (9, 0), (10, 0), (11, 1), (13, 1), (15, 1),
    (17, 1), (19, 2), (23, 2), (27, 2), (31, 2), (35, 3), (43, 3), (51, 3), (59, 3), (67, 4),
    (83, 4), (99, 4), (115, 4), (131, 5), (163, 5), (195, 5), (227, 5), (258, 0)]

/-- For each distance symbol the shortest distance and the number of further bits. -/
def distances : Array (Nat × Nat) :=
  #[(1, 0), (2, 0), (3, 0), (4, 0), (5, 1), (7, 1), (9, 2), (13, 2), (17, 3), (25, 3), (33, 4),
    (49, 4), (65, 5), (97, 5), (129, 6), (193, 6), (257, 7), (385, 7), (513, 8), (769, 8),
    (1025, 9), (1537, 9), (2049, 10), (3073, 10), (4097, 11), (6145, 11), (8193, 12), (12289, 12),
    (16385, 13), (24577, 13)]

/-- The lengths of the codewords that stand in no block. -/
def fixedLengths : List Nat :=
  List.replicate 144 8 ++ List.replicate 112 9 ++ List.replicate 24 7 ++ List.replicate 8 8

/-- The order in which a block gives the codeword lengths of its codeword lengths. -/
def lengthOrder : List Nat := [16, 17, 18, 0, 8, 7, 9, 6, 10, 5, 11, 4, 12, 3, 13, 2, 14, 1, 15]

/-- Appends a copy of what stands `distance` octets back, octet by octet. -/
def copyBack (distance : Nat) : Nat → Octets → Octets
  | 0, out => out
  | n + 1, out => copyBack distance n (out.push ((out[out.size - distance]?).getD 0))

def extended (table : Array (Nat × Nat)) (symbol : Nat) (s : BitSource) :
    Option (Nat × BitSource) := do
  let (base, more) ← table[symbol]?
  let (extra, s) ← s.lowBits more
  return (base + extra, s)

/-- Reads literals and copies up to the end of a block, or until there are `limit` octets. Each
takes a bit at least, so `fuel` is the number of bits. -/
def symbols (literal distance : PrefixCode) (limit : Nat) :
    (fuel : Nat) → BitSource → Octets → Option (BitSource × Octets)
  | 0, _, _ => none
  | fuel + 1, s, out =>
    if limit ≤ out.size then some (s, out)
    else do
      let (symbol, s) ← literal.decode BitSource.low s
      if symbol < 256 then symbols literal distance limit fuel s (out.push (UInt8.ofNat symbol))
      else if symbol = 256 then return (s, out)
      else do
        let (length, s) ← extended lengths (symbol - 257) s
        let (symbol, s) ← distance.decode BitSource.low s
        let (back, s) ← extended distances symbol s
        if out.size < back then none
        else symbols literal distance limit fuel s (copyBack back length out)

def stored (s : BitSource) (out : Octets) : Option (BitSource × Octets) := do
  let s := s.aligned
  let (length, s) ← s.lowBits 16
  let (check, s) ← s.lowBits 16
  if length + check ≠ 65535 then none
  else
    let start := s.read / 8
    if s.octets.size < start + length then none
    else
      return ({ s with read := s.read + 8 * length }, out ++ s.octets.extract start (start + length))

/-- Reads `count` codeword lengths, some of which stand for repetitions. -/
def codeLengths (code : PrefixCode) (count : Nat) :
    (fuel : Nat) → BitSource → List Nat → Option (List Nat × BitSource)
  | 0, _, _ => none
  | fuel + 1, s, done =>
    if count ≤ done.length then
      if count = done.length then some (done.reverse, s) else none
    else do
      let (symbol, s) ← code.decode BitSource.low s
      if symbol < 16 then codeLengths code count fuel s (symbol :: done)
      else if symbol = 16 then do
        let last ← done.head?
        let (n, s) ← s.lowBits 2
        codeLengths code count fuel s (List.replicate (n + 3) last ++ done)
      else do
        let (n, s) ← s.lowBits (if symbol = 17 then 3 else 7)
        let n := if symbol = 17 then n + 3 else n + 11
        codeLengths code count fuel s (List.replicate n 0 ++ done)

/-- Reads some numbers of three bits. -/
def triples : Nat → BitSource → Option (List Nat × BitSource)
  | 0, s => some ([], s)
  | n + 1, s => do
    let (x, s) ← s.lowBits 3
    let (xs, s) ← triples n s
    return (x :: xs, s)

def ownCodes (s : BitSource) : Option (PrefixCode × PrefixCode × BitSource) := do
  let (literals, s) ← s.lowBits 5
  let (distances, s) ← s.lowBits 5
  let (given, s) ← s.lowBits 4
  let (sizes, s) ← triples (given + 4) s
  let sizeOf (symbol : Nat) : Nat := ((lengthOrder.zip sizes).lookup symbol).getD 0
  let code ← PrefixCode.ofLengths? 7 ((List.range 19).map sizeOf)
  let (all, s) ← codeLengths code (literals + 257 + (distances + 1)) (literals + distances + 259) s []
  let literal ← PrefixCode.ofLengths? 15 (all.take (literals + 257))
  let distance ← PrefixCode.ofLengths? 15 (all.drop (literals + 257))
  return (literal, distance, s)

/-- Reads blocks up to the last one, or until there are `limit` octets. -/
def blocks (limit : Nat) : (fuel : Nat) → BitSource → Octets → Option Octets
  | 0, _, _ => none
  | fuel + 1, s, out =>
    if limit ≤ out.size then some out
    else do
      let (last, s) ← s.low
      let (kind, s) ← s.lowBits 2
      let (s, out) ←
        if kind = 0 then stored s out
        else if kind = 1 then do
          let literal ← PrefixCode.ofLengths? 15 fixedLengths
          let distance ← PrefixCode.ofLengths? 15 (List.replicate 30 5)
          symbols literal distance limit (s.size + 1) s out
        else if kind = 2 then do
          let (literal, distance, s) ← ownCodes s
          symbols literal distance limit (s.size + 1) s out
        else none
      if last = 1 then return out else blocks limit fuel s out

/-- Inflates data, up to `limit` octets at least if there are so many. -/
def inflate (limit : Nat) (data : Octets) : Option Octets :=
  blocks limit (8 * data.size + 1) (.ofOctets data) #[]

/-- Inflates data behind a header of two octets; the check sum after the data is not looked at. -/
def inflateWrapped (limit : Nat) (data : Octets) : Option Octets := do
  let method ← data[0]?
  let flags ← data[1]?
  if method % 16 ≠ 8 || (256 * method.toNat + flags.toNat) % 31 ≠ 0 || flags &&& 32 ≠ 0 then none
  else inflate limit (data.extract 2 data.size)

end ImageWorker.Inflate
