import ImageWorker.Image.Bmp.RunLengths
import ImageWorker.Image.Octets
import ImageWorker.Image.Picture

/-!
# Reading BMP files

The rows of a bitmap stand from the bottom to the top, or the other way round when the height is
negative, and each is filled up to a multiple of four octets. Pixels are places in a palette, three
or four octets of color, or numbers of which given bits are the colors; palettes also go with run lengths,
in rows from the bottom only.
-/

namespace ImageWorker.Bmp

def fault {α : Type} (what : String) : Except DecodeFault α := .error (.malformed "Bmp" what)

/-- The bits of a number that hold one sample: how far up they begin and how many they are. -/
structure Field where
  shift : Nat
  length : Nat
  deriving DecidableEq, Repr

namespace Field

/-- How many low bits of a number are not set, up to 32. -/
def zerosBelow (mask : Nat) : Nat := ((List.range 32).find? mask.testBit).getD 32

/-- The field of a mask; its bits have to follow each other. -/
def ofMask (mask width : Nat) : Except DecodeFault Field :=
  if mask = 0 then .ok ⟨0, 0⟩
  else
    let shift := zerosBelow mask
    let length := (List.range 33).foldl
      (fun n i => if n = i && mask.testBit (shift + i) then n + 1 else n) 0
    if mask ≠ (2 ^ length - 1) * 2 ^ shift then fault "Non-contiguous bitfield mask"
    else if width < shift + length then fault "Invalid bitfield mask"
    else if 8 < length then .ok ⟨shift + length - 8, 8⟩
    else .ok ⟨shift, length⟩

/-- The octet that a field of a number stands for: the nearest multiple of its share. -/
def read (f : Field) (n : Nat) : UInt16 :=
  if f.length = 0 then 0
  else
    let top := 2 ^ f.length - 1
    let value := (n >>> f.shift) % 2 ^ f.length
    UInt16.ofNat ((2 * value * 255 + top) / (2 * top))

end Field

inductive Coding where
  /-- Places in a palette, in so many bits. -/
  | palette (bits : Nat)
  /-- Places in a palette with run lengths. -/
  | runs (size : PlaceSize)
  /-- Blue, green and red, followed by so many other octets. -/
  | octets (spare : Nat)
  /-- Numbers of so many octets with a field for each sample. -/
  | fields (size : Nat) (red green blue alpha : Field)
  deriving DecidableEq, Repr

structure Header where
  width : Nat
  height : Nat
  topDown : Bool
  coding : Coding
  /-- Where the palette begins, how many entries it has and how long each is. -/
  paletteAt : Nat
  paletteCount : Nat
  entrySize : Nat
  dataAt : Nat
  deriving DecidableEq, Repr

def maxSide : Nat := 65535

/-- The fields of a number that takes 5 bits for each color. -/
def fiveBits : Coding := .fields 2 ⟨10, 5⟩ ⟨5, 5⟩ ⟨0, 5⟩ ⟨0, 0⟩

def maskCoding (o : Octets) (headerSize bits : Nat) : Except DecodeFault Coding := do
  let red ← Field.ofMask (← o.little32 54) bits
  let green ← Field.ofMask (← o.little32 58) bits
  let blue ← Field.ofMask (← o.little32 62) bits
  let alpha ← if headerSize < 56 then pure ⟨0, 0⟩ else do Field.ofMask (← o.little32 66) bits
  if red.length = 0 || green.length = 0 || blue.length = 0 then fault "Missing bitfield mask"
  else return .fields (bits / 8) red green blue alpha

/-- How the pixels are written, by their bits and the compression. -/
def codingOf (o : Octets) (headerSize bits compression : Nat) : Except DecodeFault Coding :=
  match compression with
  | 0 =>
    match bits with
    | 1 | 2 | 4 | 8 => .ok (.palette bits)
    | 16 => .ok fiveBits
    | 24 => .ok (.octets 0)
    | 32 => .ok (.octets 1)
    | _ => fault "Invalid bits per pixel"
  | 1 => if bits = 8 then .ok (.runs .eight) else fault "Invalid bits per pixel for run lengths"
  | 2 => if bits = 4 then .ok (.runs .four) else fault "Invalid bits per pixel for run lengths"
  | 3 =>
    if bits = 16 || bits = 32 then maskCoding o headerSize bits
    else fault "Invalid bits per pixel for bitfields"
  | _ => fault "Unsupported compression"

def paletteCountOf (coding : Coding) (used : Nat) : Except DecodeFault Nat :=
  let upTo (bits : Nat) : Except DecodeFault Nat :=
    if used = 0 then .ok (2 ^ bits)
    else if 2 ^ bits < used then fault "Palette size exceeds maximum size"
    else .ok used
  match coding with
  | .palette bits => upTo bits
  | .runs .four => upTo 4
  | .runs .eight => upTo 8
  | _ => .ok 0

def shortHeader (o : Octets) (dataAt : Nat) : Except DecodeFault Header := do
  let width ← o.little16 18
  let height ← o.little16 20
  let planes ← o.little16 22
  let bits ← o.little16 24
  if planes ≠ 1 then fault "More than one plane"
  else
    let coding ← match bits with
      | 1 | 4 | 8 => pure (.palette bits)
      | 24 => pure (.octets 0)
      | _ => fault "Invalid bits per pixel"
    return ⟨width, height, false, coding, 26, ← paletteCountOf coding 0, 3, dataAt⟩

def longHeader (o : Octets) (headerSize dataAt : Nat) : Except DecodeFault Header := do
  let width ← o.little32 18
  let height ← o.little32 22
  let planes ← o.little16 26
  let bits ← o.little16 28
  let compression ← o.little32 30
  let used ← o.little32 46
  let _ ← o.little32 50
  let topDown : Bool := decide (2 ^ 31 ≤ height)
  let height := if topDown then 2 ^ 32 - height else height
  if 2 ^ 31 ≤ width then fault "Negative width"
  else if maxSide < width || maxSide < height then fault "Image too large"
  else if planes ≠ 1 then fault "More than one plane"
  else if topDown && compression ≠ 0 && compression ≠ 3 then
    fault "Invalid image type for top-down image."
  else
    let coding ← codingOf o headerSize bits compression
    return ⟨width, height, topDown, coding, 14 + headerSize, ← paletteCountOf coding used, 4, dataAt⟩

def headerOf (o : Octets) : Except DecodeFault Header := do
  let dataAt ← o.little32 10
  let headerSize ← o.little32 14
  if headerSize = 12 then shortHeader o dataAt
  else if [40, 52, 56, 108, 124].contains headerSize then longHeader o headerSize dataAt
  else fault "Unknown bitmap header type"

def Coding.bits : Coding → Nat
  | palette bits => bits
  | runs .four => 4
  | runs .eight => 8
  | octets spare => 8 * (3 + spare)
  | fields size _ _ _ _ => 8 * size

def Header.rowSize (h : Header) : Nat := (h.coding.bits * h.width + 31) / 32 * 4

def Coding.color : Coding → ColorModel
  | fields _ _ _ _ alpha => ⟨if alpha.length = 0 then .rgb else .rgba, .eight⟩
  | _ => ⟨.rgb, .eight⟩

/-- The octet at a position, or zero. -/
def octetAt (o : Octets) (i : Nat) : Nat := ((o[i]?).map (·.toNat)).getD 0

def paletteColor (palette : Octets) (entrySize place : Nat) : Pixel :=
  let n := place * entrySize
  [octetAt palette (n + 2), octetAt palette (n + 1), octetAt palette n].map UInt16.ofNat

/-- The pixel of a column, where there are no run lengths. -/
def pixel (coding : Coding) (palette : Octets) (entrySize : Nat) (row : Octets) (x : Nat) : Pixel :=
  match coding with
  | .palette bits =>
    let first := x * bits
    paletteColor palette entrySize
      ((octetAt row (first / 8) >>> (8 - bits - first % 8)) % 2 ^ bits)
  | .octets spare =>
    let n := x * (3 + spare)
    [octetAt row (n + 2), octetAt row (n + 1), octetAt row n].map UInt16.ofNat
  | .fields size red green blue alpha =>
    let n := (List.range size).foldr (fun i n => n * 256 + octetAt row (x * size + i)) 0
    [red.read n, green.read n, blue.read n] ++
      if alpha.length = 0 then [] else [alpha.read n]
  | .runs _ => []

def decode (o : Octets) : Except DecodeFault Picture := do
  let h ← headerOf o
  h.coding.color.checkSize h.width h.height
  let palette ← o.slice h.paletteAt (h.paletteCount * h.entrySize)
  let rowAt (y : Nat) : Nat := if h.topDown then y else h.height - 1 - y
  match h.coding with
  | .runs size =>
    let pen ← Pen.follow size o (o.size + 1) h.dataAt (.start h.width h.height)
    return ⟨h.coding.color, .ofFn h.width h.height fun x y _ _ =>
      match pen.at? x (rowAt y) with
      | some place => paletteColor palette h.entrySize place.toNat
      | none => [0, 0, 0]⟩
  | coding =>
    let data ← o.slice h.dataAt (h.rowSize * h.height)
    let rows := Array.ofFn fun y : Fin h.height =>
      data.extract (y.val * h.rowSize) ((y.val + 1) * h.rowSize)
    return ⟨coding.color, .ofFn h.width h.height fun x y _ _ =>
      pixel coding palette h.entrySize ((rows[rowAt y]?).getD #[]) x⟩

end ImageWorker.Bmp
