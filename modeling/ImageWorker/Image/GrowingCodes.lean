import ImageWorker.Image.BitSource

/-!
# Codes of growing length

Octets are written as numbers of growing length. A number stands for a sequence of octets seen
before: each number that is read adds the sequence before it, longer by one octet, to the table.
Two numbers are set apart, one that empties the table and one that ends the data. Formats differ
in the order of bits and in whether numbers grow one entry early.
-/

namespace ImageWorker.GrowingCodes

/-- How a format writes the numbers. -/
structure Style where
  /-- Bits of the octets that stand for themselves. -/
  bits : Nat
  number : Nat → BitSource → Option (Nat × BitSource)
  /-- How many entries before the table is full numbers grow. -/
  early : Nat

/-- The longest number in bits. -/
def maxWidth : Nat := 12

/-- The table, the present length of numbers, and the sequence that was read last. -/
structure Reading where
  table : Array Octets
  width : Nat
  last : Option Octets

namespace Reading

/-- The empty table for octets of some bits. -/
def start (bits : Nat) : Reading :=
  ⟨((List.range (2 ^ bits)).map fun i => #[UInt8.ofNat i]).toArray ++ #[#[], #[]], bits + 1, none⟩

def add (r : Reading) (early : Nat) (sequence : Octets) : Reading :=
  if 2 ^ maxWidth ≤ r.table.size then r
  else
    let table := r.table.push sequence
    let full := table.size + early = 2 ^ r.width
    { r with table := table, width := if full && r.width < maxWidth then r.width + 1 else r.width }

/-- The sequence for a number, and the reading after it. -/
def sequence? (r : Reading) (early code : Nat) : Option (Octets × Reading) :=
  match r.last with
  | none => (r.table[code]?).map fun s => (s, { r with last := some s })
  | some last =>
    let longer (s : Octets) : Octets := last ++ s.extract 0 1
    match r.table[code]? with
    | some s => some (s, { r.add early (longer s) with last := some s })
    | none =>
      if code = r.table.size then
        let s := longer last
        some (s, { r.add early s with last := some s })
      else none

end Reading

/-- Reads numbers until there are `limit` octets. Each takes a bit at least, so `fuel` is the
number of bits. -/
def readFrom (style : Style) (limit : Nat) :
    (fuel : Nat) → BitSource → Reading → Octets → Option Octets
  | 0, _, _, _ => none
  | fuel + 1, s, r, out =>
    if limit ≤ out.size then some (out.extract 0 limit)
    else do
      let (code, s) ← style.number r.width s
      if code = 2 ^ style.bits then readFrom style limit fuel s (.start style.bits) out
      else if code = 2 ^ style.bits + 1 then none
      else
        let (sequence, r) ← r.sequence? style.early code
        readFrom style limit fuel s r (out ++ sequence)

def read? (style : Style) (count : Nat) (data : Octets) : Option Octets :=
  readFrom style count (8 * data.size + 2) (.ofOctets data) (.start style.bits) #[]

/-- The numbers for some octets: each stands for itself, and the table is emptied before numbers
would grow. -/
def codesOf (bits : Nat) (octets : List Nat) : List Nat :=
  let clear := 2 ^ bits
  let period := clear - 2
  (octets.zipIdx.flatMap fun (p, i) => if i % period = 0 then [clear, p] else [p]) ++ [clear + 1]

/-- Numbers of some bits as octets, the lowest bit first; `held` is what is left of the last
octet, in `n` bits. -/
def packed (width : Nat) : List Nat → (held n : Nat) → Bytes
  | [], held, n => if n = 0 then [] else [UInt8.ofNat held]
  | code :: rest, held, n =>
    let held := held + code * 2 ^ n
    let n := n + width
    let whole := n / 8
    (List.range whole).map (fun i => UInt8.ofNat (held / 256 ^ i)) ++
      packed width rest (held / 256 ^ whole) (n % 8)

def write (bits : Nat) (octets : List Nat) : Bytes := packed (bits + 1) (codesOf bits octets) 0 0

end ImageWorker.GrowingCodes
