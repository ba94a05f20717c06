import ImageWorker.Image.Picture

/-!
# Resampling

A picture is brought to another size column by column and then row by row. Each new sample is the
weighted mean of the old ones around its place; the weights are those of a sinc function under a
sinc window of three lobes, stretched when the picture shrinks. All of it is in single precision,
and only the final samples are rounded.
-/

namespace ImageWorker.Resample

/-- The circle constant in single precision. -/
def pi : Float32 := 3.14159265

/-- The sine of a multiple of the circle constant, over that multiple. -/
def sinc (t : Float32) : Float32 :=
  let a := t * pi
  if t == 0 then 1 else a.sin / a

/-- How many pixels the window reaches to either side. -/
def support : Float32 := 3

/-- The weight at a distance. -/
def kernel (x : Float32) : Float32 :=
  if x.abs < support then sinc x * sinc (x / support) else 0

/-- A whole number that is not negative, rounded down. -/
def wholeBelow (x : Float32) : Nat := if x < 0 then 0 else x.floor.toUInt64.toNat

/-- A whole number that is not negative, rounded up. -/
def wholeAbove (x : Float32) : Nat := if x < 0 then 0 else x.ceil.toUInt64.toNat

/-- The old samples that a new one depends on: the first of them, and the weights from there. -/
structure Window where
  first : Nat
  weights : List Float32

/-- The window of the new sample at a place when `size` samples become `newSize`. -/
def window (size newSize place : Nat) : Window :=
  let ratio := Float32.ofNat size / Float32.ofNat newSize
  let stretch := if ratio < 1 then 1 else ratio
  let reach := support * stretch
  let centre := (Float32.ofNat place + 0.5) * ratio
  let first := min (wholeBelow (centre - reach)) (size - 1)
  let after := min (max (wholeAbove (centre + reach)) (first + 1)) size
  let centre := centre - 0.5
  let raw := (List.range (after - first)).map fun i =>
    kernel ((Float32.ofNat (first + i) - centre) / stretch)
  let sum := raw.foldl (· + ·) 0
  ⟨first, raw.map (· / sum)⟩

/-- The weighted sum of pixels, sample by sample. -/
def weighted (channels : Nat) : List Float32 → List (List Float32) → List Float32
  | weights, pixels =>
    (weights.zip pixels).foldl (fun sum (w, px) => sum.zipWith (fun s v => s + v * w) px)
      (List.replicate channels 0)

/-- The picture with another number of rows. -/
def vertically (channels : Nat) (r : Raster (List Float32)) (height : Nat) :
    Raster (List Float32) :=
  let windows := Array.ofFn fun y : Fin height => window r.height height y.val
  Raster.ofFn r.width height fun x y _ hy =>
    have : y < windows.size := by simpa [windows] using hy
    let w := windows[y]
    weighted channels w.weights
      ((List.range w.weights.length).map fun i => (r.get? x (w.first + i)).getD [])

/-- The picture with another number of columns. -/
def horizontally (channels : Nat) (r : Raster (List Float32)) (width : Nat) :
    Raster (List Float32) :=
  let windows := Array.ofFn fun x : Fin width => window r.width width x.val
  Raster.ofFn width r.height fun x y hx _ =>
    have : x < windows.size := by simpa [windows] using hx
    let w := windows[x]
    weighted channels w.weights
      ((List.range w.weights.length).map fun i => (r.get? (w.first + i) y).getD [])

/-- The sample nearest to a sum. -/
def settle (d : Depth) (s : Float32) : UInt16 :=
  let top := Float32.ofNat d.maximum.toNat
  (if s < 0 then 0 else if top < s then top else s).round.toUInt16

end Resample

def Picture.stretched (p : Picture) (width height : Nat) : Picture :=
  if p.width = width && p.height = height then p
  else
    let n := p.color.channels.count
    let samples := p.raster.map fun px => px.map fun s => Float32.ofNat s.toNat
    let wide := Resample.horizontally n (Resample.vertically n samples height) width
    ⟨p.color, wide.map fun px => px.map (Resample.settle p.color.depth)⟩

end ImageWorker
