import ImageWorker.Image.GrowingCodes
import ImageWorker.Image.Gif.Learned

/-!
# Writing GIF files

The picture becomes the only image of the file and covers its screen. The palette is exact when it
can be.
-/

namespace ImageWorker.Gif

/-- The palette of a picture and its pixels. -/
def indexed (p : Picture) : Indexed :=
  let colors := mergeTransparent (p.toRgba8.raster.pixels.toList.map Color.ofPixel)
  (exactPalette? colors).getD (Learned.palette colors)

/-- The number of bits that are enough for a palette. -/
def paletteBits (size : Nat) : Nat := ((List.range 8).find? fun b => size ≤ 2 ^ (b + 1)).getD 7 + 1

/-- Octets in pieces of up to 255, in `fuel` pieces at most. -/
def inPieces : (fuel : Nat) → Bytes → Bytes
  | 0, _ => []
  | fuel + 1, data =>
    if data.isEmpty then []
    else
      let piece := data.take 255
      UInt8.ofNat piece.length :: piece ++ inPieces fuel (data.drop 255)

def encode (p : Picture) : Bytes :=
  let i := indexed p
  let bits := max 2 (paletteBits i.palette.length)
  let size := Bytes.little16 p.width ++ Bytes.little16 p.height
  let colors : Bytes := i.palette.flatMap fun c =>
    [UInt8.ofNat c.red, UInt8.ofNat c.green, UInt8.ofNat c.blue]
  let rest : Bytes := List.replicate (3 * 2 ^ bits - colors.length) 0
  let control : Bytes := match i.transparent with
    | some n => [0x21, 0xF9, 4, 1, 0, 0, UInt8.ofNat n, 0]
    | none => []
  let codes := GrowingCodes.write bits i.indices
  Bytes.ofText "GIF89a" ++ size ++ [0, 0, 0] ++ control ++
    [0x2C, 0, 0, 0, 0] ++ size ++ [UInt8.ofNat (0x80 + bits - 1)] ++ colors ++ rest ++
    [UInt8.ofNat bits] ++ inPieces (codes.length / 255 + 1) codes ++ [0, 0x3B]

end ImageWorker.Gif
