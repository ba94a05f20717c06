import ImageWorker.Image.DecodeFault
import ImageWorker.Image.Raster
import ImageWorker.Power

/-!
# Pictures

A picture is a raster of pixels with a color model: how many samples a pixel has, what they mean,
and whether they are octets or have sixteen bits. The last sample is the opacity in the models
that have one.
-/

namespace ImageWorker

/-- What the samples of a pixel mean. -/
inductive Channels where
  | gray
  | grayAlpha
  | rgb
  | rgba
  deriving DecidableEq, Repr

/-- How many bits a sample has. -/
inductive Depth where
  | eight
  | sixteen
  deriving DecidableEq, Repr

structure ColorModel where
  channels : Channels
  depth : Depth
  deriving DecidableEq, Repr

def Channels.count : Channels → Nat
  | gray => 1
  | grayAlpha => 2
  | rgb => 3
  | rgba => 4

/-- The largest sample. -/
def Depth.maximum : Depth → UInt16
  | eight => 255
  | sixteen => 65535

def ColorModel.name (c : ColorModel) : String :=
  let channels := match c.channels with
    | .gray => "L"
    | .grayAlpha => "La"
    | .rgb => "Rgb"
    | .rgba => "Rgba"
  match c.depth with
  | .eight => channels ++ "8"
  | .sixteen => channels ++ "16"

def ColorModel.pixelSize (c : ColorModel) : Nat :=
  match c.depth with
  | .eight => c.channels.count
  | .sixteen => 2 * c.channels.count

/-- How many octets the pixels of a file may take: half of a gibibyte. -/
def pixelBudget : Nat := 2 ^ 29

/-- Refuses a size that does not fit the budget before anything of that size is made. -/
def ColorModel.checkSize (c : ColorModel) (width height : Nat) : Except DecodeFault Unit :=
  if pixelBudget < width * height * c.pixelSize then .error .tooLarge else .ok ()

/-- The samples of one pixel, in the order of the color model. -/
abbrev Pixel := List UInt16

structure Picture where
  color : ColorModel
  raster : Raster Pixel

namespace Picture

def width (p : Picture) : Nat := p.raster.width

def height (p : Picture) : Nat := p.raster.height

/-- The octet that is nearest to a sample of sixteen bits. -/
def octetOf (s : UInt16) : UInt16 := UInt16.ofNat ((s.toNat + 128) / 257)

/-- A pixel as red, green, blue and opacity. -/
def opaqueColors (c : ColorModel) (p : Pixel) : Pixel :=
  match c.channels, p with
  | .gray, [l] => [l, l, l, c.depth.maximum]
  | .grayAlpha, [l, a] => [l, l, l, a]
  | .rgb, [r, g, b] => [r, g, b, c.depth.maximum]
  | _, p => p

/-- A pixel with samples of eight bits. -/
def toOctets (d : Depth) (p : Pixel) : Pixel :=
  match d with
  | .eight => p
  | .sixteen => p.map octetOf

/-- The picture as red, green, blue and opacity in its own depth. -/
def colored (p : Picture) : Raster Pixel := p.raster.map (opaqueColors p.color)

/-- The picture as octets of red, green, blue and opacity. -/
def toRgba8 (p : Picture) : Picture :=
  ⟨⟨.rgba, .eight⟩, p.raster.map fun px => toOctets p.color.depth (opaqueColors p.color px)⟩

/-- The picture as octets of red, green and blue; the opacity is lost. -/
def toRgb8 (p : Picture) : Picture :=
  ⟨⟨.rgb, .eight⟩, p.toRgba8.raster.map (·.take 3)⟩

end Picture

end ImageWorker
