import ImageWorker.Image.DecodeFault
import ImageWorker.Text.Bytes

/-!
# Numbers in octets

Image formats store whole numbers in two or four octets, the lowest or the highest first. Reading
past the end is a fault; writing gives the octets that reading turns back into the number.
-/

namespace ImageWorker

/-- The octets of a file, read by position. -/
abbrev Octets := Array UInt8

namespace Octets

def octet (o : Octets) (i : Nat) : Except DecodeFault Nat :=
  match o[i]? with
  | some b => .ok b.toNat
  | none => .error .truncated

def slice (o : Octets) (start length : Nat) : Except DecodeFault Octets :=
  if start + length ≤ o.size then .ok (o.extract start (start + length)) else .error .truncated

def little16 (o : Octets) (i : Nat) : Except DecodeFault Nat := do
  return (← o.octet i) + 256 * (← o.octet (i + 1))

def little32 (o : Octets) (i : Nat) : Except DecodeFault Nat := do
  return (← o.little16 i) + 65536 * (← o.little16 (i + 2))

def big16 (o : Octets) (i : Nat) : Except DecodeFault Nat := do
  return 256 * (← o.octet i) + (← o.octet (i + 1))

def big32 (o : Octets) (i : Nat) : Except DecodeFault Nat := do
  return 65536 * (← o.big16 i) + (← o.big16 (i + 2))

end Octets

namespace Bytes

def little16 (n : Nat) : Bytes := [UInt8.ofNat n, UInt8.ofNat (n / 256)]

def little32 (n : Nat) : Bytes := little16 n ++ little16 (n / 65536)

def big16 (n : Nat) : Bytes := [UInt8.ofNat (n / 256), UInt8.ofNat n]

def big32 (n : Nat) : Bytes := big16 (n / 65536) ++ big16 n

end Bytes

end ImageWorker
