import ImageWorker.Image.GrowingCodes
import ImageWorker.Image.Picture

/-!
# Reading GIF files

Only the first image of a file is read. It stands somewhere on a screen, and what it does not
cover is transparent, as are the pixels with the number that counts as transparent.
-/

namespace ImageWorker.Gif

def fault {α : Type} (what : String) : Except DecodeFault α := .error (.malformed "Gif" what)

/-- Data in pieces of up to 255 octets, put together, and the position after them. -/
def pieces (o : Octets) : (fuel pos : Nat) → Octets → Except DecodeFault (Octets × Nat)
  | 0, _, _ => .error .truncated
  | fuel + 1, pos, data => do
    let size ← o.octet pos
    if size = 0 then return (data, pos + 1)
    else pieces o fuel (pos + 1 + size) (data ++ (← o.slice (pos + 1) size))

/-- Like `pieces`, but the file may break off. -/
def piecesAtEnd (o : Octets) : (fuel pos : Nat) → Octets → Octets
  | 0, _, data => data
  | fuel + 1, pos, data =>
    match o[pos]? with
    | none => data
    | some size =>
      if size = 0 then data
      else piecesAtEnd o fuel (pos + 1 + size.toNat)
        (data ++ o.extract (pos + 1) (pos + 1 + size.toNat))

/-- The color table that flags announce, and the position after it. -/
def colorTable (o : Octets) (flags pos : Nat) : Except DecodeFault (Option Octets × Nat) :=
  if flags &&& 0x80 = 0 then .ok (none, pos)
  else do
    let size := 3 * 2 ^ (flags % 8 + 1)
    return (some (← o.slice pos size), pos + size)

/-- Where an image stands and how its pixels are written. -/
structure Frame where
  left : Nat
  top : Nat
  width : Nat
  height : Nat
  interlaced : Bool
  colors : Octets
  transparent : Option Nat
  pixels : Octets

/-- The rows of an interlaced image in the order in which they are written. -/
def interlacedRows (height : Nat) : List Nat :=
  [(0, 8), (4, 8), (2, 4), (1, 2)].flatMap fun (start, step) =>
    (List.range ((height + step - 1 - start) / step)).map fun i => start + i * step

def Frame.pixel (f : Frame) (rowAt : Array Nat) (x y : Nat) : Pixel :=
  let n := ((f.pixels[(rowAt[y]?).getD y * f.width + x]?).getD 0).toNat
  if f.colors.size < 3 * n + 3 then [0, 0, 0, 0]
  else
    let color (c : Nat) : UInt16 := ((f.colors[3 * n + c]?).getD 0).toUInt16
    [color 0, color 1, color 2, if f.transparent = some n then 0 else 255]

/-- Where each row of a frame is found among the rows that are written. -/
def Frame.rowPlaces (f : Frame) : Array Nat :=
  if f.interlaced then
    ((List.range f.height).map fun y => (interlacedRows f.height).idxOf y).toArray
  else (List.range f.height).toArray

def frame (o : Octets) (pos : Nat) (shared : Option Octets) (transparent : Option Nat) :
    Except DecodeFault Frame := do
  let left ← o.little16 pos
  let top ← o.little16 (pos + 2)
  let width ← o.little16 (pos + 4)
  let height ← o.little16 (pos + 6)
  let flags ← o.octet (pos + 8)
  let (own, pos) ← colorTable o flags (pos + 9)
  let bits ← o.octet pos
  if 11 < bits then fault "invalid minimal code size"
  else
    match own.orElse fun _ => shared with
    | none => fault "no color table available for current frame"
    | some colors =>
      match GrowingCodes.read? ⟨bits, BitSource.lowBits, 0⟩ (width * height)
          (piecesAtEnd o o.size (pos + 1) #[]) with
      | none => fault "image truncated"
      | some pixels =>
        return ⟨left, top, width, height, flags &&& 0x40 ≠ 0, colors, transparent, pixels⟩

/-- Looks for the first image from a position on. -/
def firstFrame (o : Octets) (shared : Option Octets) :
    (fuel pos : Nat) → (transparent : Option Nat) → Except DecodeFault Frame
  | 0, _, _ => .error .truncated
  | fuel + 1, pos, transparent => do
    let kind ← o.octet pos
    if kind = 0x2C then frame o (pos + 1) shared transparent
    else if kind = 0x21 then
      let label ← o.octet (pos + 1)
      let (data, next) ← pieces o (o.size + 1) (pos + 2) #[]
      if label = 0xF9 then
        let flags ← data.octet 0
        let index ← data.octet 3
        firstFrame o shared fuel next (if flags % 2 = 1 then some index else none)
      else firstFrame o shared fuel next transparent
    else if kind = 0x3B then fault "no image"
    else fault "unknown block type encountered"

def decode (o : Octets) : Except DecodeFault Picture := do
  let width ← o.little16 6
  let height ← o.little16 8
  let flags ← o.octet 10
  let color : ColorModel := ⟨.rgba, .eight⟩
  color.checkSize width height
  let (shared, pos) ← colorTable o flags 13
  let f ← firstFrame o shared (o.size + 1) pos none
  let places := f.rowPlaces
  return ⟨color, .ofFn width height fun x y _ _ =>
    if f.left ≤ x && f.top ≤ y && x - f.left < f.width && y - f.top < f.height then
      f.pixel places (x - f.left) (y - f.top)
    else [0, 0, 0, 0]⟩

end ImageWorker.Gif
