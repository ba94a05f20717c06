import ImageWorker.Text.Bytes

/-!
# Check sums

The cyclic redundancy check of 32 bits and the sum of sums modulo 65521, as compressed data and
its containers carry them.
-/

namespace ImageWorker.Checksum

/-- One bit of the cyclic redundancy check. -/
def crcBit (c : UInt32) : UInt32 := if c &&& 1 = 1 then (c >>> 1) ^^^ 0xEDB88320 else c >>> 1

/-- One octet of the cyclic redundancy check. -/
def crcOctet (c : UInt32) (b : UInt8) : UInt32 :=
  (List.range 8).foldl (fun c _ => crcBit c) (c ^^^ b.toUInt32)

/-- The cyclic redundancy check of some octets. -/
def crc (bs : Bytes) : Nat := ((bs.foldl crcOctet 0xFFFFFFFF) ^^^ 0xFFFFFFFF).toNat

/-- The sum of some octets, and the sum of all sums on the way. -/
def adler (bs : Bytes) : Nat :=
  let (a, b) := bs.foldl
    (fun (a, b) o => let a := (a + o.toNat) % 65521; (a, (b + a) % 65521)) (1, 0)
  b * 65536 + a

end ImageWorker.Checksum
