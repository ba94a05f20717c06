import ImageWorker.Image.Octets
import ImageWorker.Image.Picture

/-!
# Writing TIFF files

The samples stand in one strip without compression, the lowest octet of a number first. Gray
pictures with opacity are refused.
-/

namespace ImageWorker.Tiff

def refusal (c : ColorModel) : String :=
  "The decoder for Tiff does not support the color type \x60" ++ c.name ++ "\x60"

/-- A field of two-octet values, behind the position of what does not fit into it. -/
structure Field where
  tag : Nat
  type : Nat
  count : Nat
  value : Nat

def Field.octets (f : Field) : Bytes :=
  Bytes.little16 f.tag ++ Bytes.little16 f.type ++ Bytes.little32 f.count ++ Bytes.little32 f.value

/-- Writes a picture as a TIFF file, or gives the refusal. -/
def encode (p : Picture) : Except String Bytes :=
  match p.color.channels with
  | .grayAlpha => .error (refusal p.color)
  | channels =>
    let n := channels.count
    let bits := match p.color.depth with
      | .eight => 8
      | .sixteen => 16
    let samples := p.raster.pixels.toList.flatMap fun px => px.flatMap fun s =>
      match p.color.depth with
      | .eight => [s.toUInt8]
      | .sixteen => Bytes.little16 s.toNat
    let bitsAt := 8 + samples.length
    let bitOctets := (List.replicate n bits).flatMap Bytes.little16
    let start := bitsAt + bitOctets.length
    let fields : List Field :=
      [⟨256, 4, 1, p.width⟩, ⟨257, 4, 1, p.height⟩,
        ⟨258, 3, n, if n = 1 then bits else bitsAt⟩, ⟨259, 3, 1, 1⟩,
        ⟨262, 3, 1, if n = 1 then 1 else 2⟩, ⟨273, 4, 1, 8⟩, ⟨277, 3, 1, n⟩,
        ⟨278, 4, 1, p.height⟩, ⟨279, 4, 1, samples.length⟩] ++
      if n = 4 then [⟨338, 3, 1, 2⟩] else []
    .ok <|
      Bytes.ofText "II" ++ Bytes.little16 42 ++ Bytes.little32 start ++ samples ++ bitOctets ++
      Bytes.little16 fields.length ++ fields.flatMap Field.octets ++ Bytes.little32 0

end ImageWorker.Tiff
