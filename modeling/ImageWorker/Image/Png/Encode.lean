import ImageWorker.Image.Picture
import ImageWorker.Image.Png.Format

/-!
# Writing PNG files

The rows are written without filters and without compression.
-/

namespace ImageWorker.Png

def sampleOctets (d : Depth) (s : UInt16) : Bytes :=
  match d with
  | .eight => [s.toUInt8]
  | .sixteen => Bytes.big16 s.toNat

/-- The rows of a picture, each behind the number of no filter. -/
def rowOctets (p : Picture) : Bytes :=
  (List.range p.height).flatMap fun y =>
    0 :: (List.range p.width).flatMap fun x =>
      ((p.raster.get? x y).getD []).flatMap (sampleOctets p.color.depth)

/-- Stored blocks for some octets, in `fuel` blocks at most. -/
def storedBlocks : (fuel : Nat) → Bytes → Bytes
  | 0, _ => []
  | fuel + 1, data =>
    let block := data.take 65535
    let rest := data.drop 65535
    let last : UInt8 := if rest.isEmpty then 1 else 0
    last :: Bytes.little16 block.length ++ Bytes.little16 (65535 - block.length) ++ block ++
      if rest.isEmpty then [] else storedBlocks fuel rest

/-- Octets in the form of compressed data. -/
def wrapped (data : Bytes) : Bytes :=
  [0x78, 0x01] ++ storedBlocks (data.length / 65535 + 1) data ++ Bytes.big32 (Checksum.adler data)

def chunk (name : String) (data : Bytes) : Bytes :=
  let named := Bytes.ofText name ++ data
  Bytes.big32 data.length ++ named ++ Bytes.big32 (Checksum.crc named)

def codingNumber : Channels → UInt8
  | .gray => 0
  | .rgb => 2
  | .grayAlpha => 4
  | .rgba => 6

def encode (p : Picture) : Bytes :=
  let depth : UInt8 := match p.color.depth with
    | .eight => 8
    | .sixteen => 16
  signature ++
    chunk "IHDR" (Bytes.big32 p.width ++ Bytes.big32 p.height ++
      [depth, codingNumber p.color.channels, 0, 0, 0]) ++
    chunk "IDAT" (wrapped (rowOctets p)) ++ chunk "IEND" []

end ImageWorker.Png
