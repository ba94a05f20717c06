import ImageWorker.Image.Octets
import ImageWorker.Image.Picture

/-!
# Writing BMP files

Gray pictures get a palette of all grays and lose their opacity, colored ones are written as
octets, and those with opacity as numbers with a field for each sample. Samples of sixteen bits
are refused.
-/

namespace ImageWorker.Bmp

def refusal (c : ColorModel) : String :=
  "Unsupported color type " ++ c.name ++
    ".  Supported types: RGB(8), RGBA(8), Gray(8), GrayA(8)."

def pixelOctets (px : Pixel) : Bytes :=
  match px.map (·.toUInt8) with
  | [r, g, b] => [b, g, r]
  | [r, g, b, a] => [b, g, r, a]
  | l :: _ => [l]
  | [] => []

/-- Writes a picture as a BMP file, or gives the refusal. -/
def encode (p : Picture) : Except String Bytes :=
  match p.color.depth with
  | .sixteen => .error (refusal p.color)
  | .eight =>
    let (headerSize, pixelSize, colors) : Nat × Nat × Nat := match p.color.channels with
      | .gray | .grayAlpha => (40, 1, 256)
      | .rgb => (40, 3, 0)
      | .rgba => (108, 4, 0)
    let padding := (4 - p.width * pixelSize % 4) % 4
    let rows := (List.range p.height).reverse.flatMap fun y =>
      ((List.range p.width).flatMap fun x => pixelOctets ((p.raster.get? x y).getD [])) ++
        List.replicate padding 0
    let start := 14 + headerSize + 4 * colors
    let masked := p.color.channels = .rgba
    .ok <|
      Bytes.ofText "BM" ++ Bytes.little32 (start + rows.length) ++ Bytes.little32 0 ++
      Bytes.little32 start ++ Bytes.little32 headerSize ++ Bytes.little32 p.width ++
      Bytes.little32 p.height ++ Bytes.little16 1 ++ Bytes.little16 (8 * pixelSize) ++
      Bytes.little32 (if masked then 3 else 0) ++ Bytes.little32 rows.length ++
      Bytes.little32 0 ++ Bytes.little32 0 ++ Bytes.little32 colors ++ Bytes.little32 colors ++
      (if masked then
        Bytes.little32 0xFF0000 ++ Bytes.little32 0xFF00 ++ Bytes.little32 0xFF ++
        Bytes.little32 0xFF000000 ++ Bytes.little32 0x73524742 ++ List.replicate 48 0
      else []) ++
      ((List.range colors).flatMap fun i => let g := UInt8.ofNat i; [g, g, g, 0]) ++ rows

end ImageWorker.Bmp
