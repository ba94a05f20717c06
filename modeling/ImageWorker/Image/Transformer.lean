import ImageWorker.Image.Bmp.Decode
import ImageWorker.Image.Bmp.Encode
import ImageWorker.Image.Geometry
import ImageWorker.Image.Gif.Decode
import ImageWorker.Image.Gif.Encode
import ImageWorker.Image.Jpeg.Decode
import ImageWorker.Image.Jpeg.Encode
import ImageWorker.Image.Library
import ImageWorker.Image.Png.Decode
import ImageWorker.Image.Png.Encode
import ImageWorker.Image.Resample
import ImageWorker.Image.Tiff.Decode
import ImageWorker.Image.Tiff.Encode
import ImageWorker.Image.Transformed

/-!
# A library of codecs

The codecs for five formats make a library, with pictures that are scaled, cut and turned. Another
library may write the same picture into another file: PNG files are stored here, not compressed.
-/

namespace ImageWorker

namespace Picture

def read (format : TargetFormat) (content : Bytes) : Except DecodeFault Picture :=
  let octets : Octets := content.toArray
  match format with
  | .png => Png.decode octets
  | .jpeg => Jpeg.decode octets
  | .gif => Gif.decode octets
  | .bmp => Bmp.decode octets
  | .tiff => Tiff.decode octets

/-- Whether the sides of a picture can be told in two octets each. -/
def fitsShortSides (p : Picture) : Bool := p.width < 2 ^ 16 && p.height < 2 ^ 16

def sidesRefusal : String := "The Image's dimensions are either too small or too large"

/-- Writes a file of a format, or gives the refusal. -/
def write (p : Picture) (format : TargetFormat) : Except String Bytes :=
  match format with
  | .png => .ok (Png.encode p)
  | .jpeg => if p.fitsShortSides then .ok (Jpeg.encode p) else .error sidesRefusal
  | .gif => if p.fitsShortSides then .ok (Gif.encode p) else .error sidesRefusal
  | .bmp => Bmp.encode p
  | .tiff => Tiff.encode p

def covering (p : Picture) (box : Box) : Picture :=
  let size := box.covering p.width p.height
  p.stretched size.width size.height

/-- The picture scaled until it covers a box, and cut down to the box around its centre. -/
def filling (p : Picture) (box : Box) : Picture :=
  let scaled := p.covering box
  let (left, top) := box.corner ⟨scaled.width, scaled.height⟩
  ⟨scaled.color, scaled.raster.crop left top box.width box.height⟩

def quarterTurn (p : Picture) : Picture := ⟨p.color, p.raster.quarterTurn⟩

end Picture

def ImageLibrary.pictures : ImageLibrary where
  guess := Recognised.guess
  decode format content := (Picture.read format content).mapError DecodeFault.message
  encode format p := p.write format
  toRgb8 := Picture.toRgb8
  resizeExact p box := p.stretched box.width box.height
  resizeToFill := Picture.filling
  rotate90 := Picture.quarterTurn
  rotate180 p := p.quarterTurn.quarterTurn
  rotate270 p := p.quarterTurn.quarterTurn.quarterTurn

end ImageWorker
