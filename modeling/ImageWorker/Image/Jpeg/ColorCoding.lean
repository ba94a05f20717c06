import ImageWorker.Image.Jpeg.Frequency
import ImageWorker.Image.Jpeg.Header

/-!
# The colors of a JPEG file

A file does not say in one place what its components mean. The numbers of the components and two
kinds of segments that programs add decide it.
-/

namespace ImageWorker.Jpeg

/-- What the samples of a pixel mean. -/
inductive ColorCoding where
  | gray
  /-- Red, green and blue. -/
  | colors
  /-- Brightness and the differences of blue and red from it. -/
  | differences
  /-- Cyan, magenta, yellow and black, the full octet without ink. -/
  | inks
  /-- Brightness and two differences for three of the inks, and black. -/
  | inkDifferences
  deriving DecidableEq, Repr

structure ColorHints where
  /-- Whether the file follows the interchange format, which has differences only. -/
  interchange : Bool
  /-- The number of a color transform. -/
  transform : Option Nat
  deriving DecidableEq, Repr

def ColorHints.add (h : ColorHints) (kind : Nat) (data : Octets) : Except DecodeFault ColorHints :=
  let beginsWith (text : String) : Bool := (Bytes.ofText text).isPrefixOf data.toList
  if kind = 0xE0 && beginsWith "JFIF\x00" then .ok { h with interchange := true }
  else if kind = 0xEE && 12 ≤ data.size && beginsWith "Adobe\x00" then
    match data.octet 11 with
    | .error e => .error e
    | .ok n =>
      if 2 < n then fault "invalid color transform in adobe app segment"
      else .ok { h with transform := some n }
  else .ok h

/-- The meaning of the components with given numbers. -/
def ColorHints.coding (h : ColorHints) (ids : List Nat) : Except DecodeFault ColorCoding :=
  match ids with
  | [_] => .ok .gray
  | [1, 2, 3] => .ok .differences
  | [82, 71, 66] => .ok .colors
  | [_, _, _] =>
    if h.interchange then .ok .differences
    else
      match h.transform with
      | some 0 => .ok .colors
      | some 2 => fault "Invalid number of channels (3) for YCCK data"
      | _ => .ok .differences
  | _ =>
    match h.transform with
    | none | some 0 => .ok .inks
    | some 2 => .ok .inkDifferences
    | _ => fault "Invalid number of channels (4) for YCbCr data"

/-- Red, green and blue for brightness and two color differences. -/
def colorsOf (y cb cr : Nat) : List Nat :=
  let y := Float.ofNat y
  let cb := Float.ofNat cb - 128.0
  let cr := Float.ofNat cr - 128.0
  [octet (y + 1.402 * cr), octet (y - 0.344136 * cb - 0.714136 * cr), octet (y + 1.772 * cb)]

/-- The samples of the color model for those of a pixel: black ink darkens the others. -/
def ColorCoding.resolve (coding : ColorCoding) (samples : List Nat) : List Nat :=
  match coding, samples with
  | .differences, [y, cb, cr] => colorsOf y cb cr
  | .inks, [c, m, y, k] => [c, m, y].map fun s => s * k / 255
  | .inkDifferences, [y, cb, cr, k] => (colorsOf y cb cr).map fun s => (255 - s) * k / 255
  | _, samples => samples

end ImageWorker.Jpeg
