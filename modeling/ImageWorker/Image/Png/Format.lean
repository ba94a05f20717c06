import ImageWorker.Image.Checksum
import ImageWorker.Image.Octets

/-!
# The parts of a PNG file

A PNG file is a signature and a sequence of chunks, each with a length, a name of four letters and
a check sum. The header says how large the picture is and how its pixels are coded; an interlaced
picture comes in seven passes over ever finer grids.
-/

namespace ImageWorker.Png

def signature : Bytes := [0x89, 0x50, 0x4E, 0x47, 0x0D, 0x0A, 0x1A, 0x0A]

inductive Coding where
  | gray
  | rgb
  | palette
  | grayAlpha
  | rgba
  deriving DecidableEq, Repr

namespace Coding

def all : List (Nat × Coding) := [(0, gray), (2, rgb), (3, palette), (4, grayAlpha), (6, rgba)]

def samples : Coding → Nat
  | gray | palette => 1
  | grayAlpha => 2
  | rgb => 3
  | rgba => 4

/-- How many bits a sample can have. -/
def depths : Coding → List Nat
  | gray => [1, 2, 4, 8, 16]
  | palette => [1, 2, 4, 8]
  | rgb | grayAlpha | rgba => [8, 16]

end Coding

structure Header where
  width : Nat
  height : Nat
  /-- Bits of a sample. -/
  depth : Nat
  coding : Coding
  interlaced : Bool
  deriving DecidableEq, Repr

/-- The grid of one pass: where it begins and how far its columns and rows are apart. -/
structure Pass where
  left : Nat
  top : Nat
  columnStep : Nat
  rowStep : Nat
  deriving DecidableEq, Repr

namespace Pass

/-- The passes of a picture. -/
def all (interlaced : Bool) : List Pass :=
  if interlaced then
    [⟨0, 0, 8, 8⟩, ⟨4, 0, 8, 8⟩, ⟨0, 4, 4, 8⟩, ⟨2, 0, 4, 4⟩, ⟨0, 2, 2, 4⟩, ⟨1, 0, 2, 2⟩,
      ⟨0, 1, 1, 2⟩]
  else [⟨0, 0, 1, 1⟩]

def holds (p : Pass) (x y : Nat) : Bool :=
  p.left ≤ x && p.top ≤ y && (x - p.left) % p.columnStep = 0 && (y - p.top) % p.rowStep = 0

/-- How many columns of a picture belong to a pass. -/
def width (p : Pass) (h : Header) : Nat := (h.width + p.columnStep - 1 - p.left) / p.columnStep

/-- How many rows of a picture belong to a pass. -/
def height (p : Pass) (h : Header) : Nat :=
  if p.width h = 0 then 0 else (h.height + p.rowStep - 1 - p.top) / p.rowStep

end Pass

namespace Header

def pixelBits (h : Header) : Nat := h.coding.samples * h.depth

/-- How many octets a row of a pass has without its filter. -/
def rowSize (h : Header) (p : Pass) : Nat := (p.width h * h.pixelBits + 7) / 8

/-- How many octets the rows of all passes have with their filters. -/
def dataSize (h : Header) : Nat :=
  ((Pass.all h.interlaced).map fun p => p.height h * (h.rowSize p + 1)).foldr (· + ·) 0

end Header

def fault {α : Type} (what : String) : Except DecodeFault α := .error (.malformed "Png" what)

structure Chunk where
  name : String
  data : Octets
  next : Nat

def chunkName (letters : Octets) : String :=
  String.ofList (letters.toList.map fun b => Char.ofNat b.toNat)

/-- The chunk at a position. A wrong check sum is only borne in chunks that can be left out, whose
names begin with a small letter. -/
def chunkAt (o : Octets) (pos : Nat) : Except DecodeFault Chunk := do
  let length ← o.big32 pos
  let letters ← o.slice (pos + 4) 4
  let data ← o.slice (pos + 8) length
  let crc ← o.big32 (pos + 8 + length)
  let optional := letters.toList.head?.any fun b => b &&& 32 ≠ 0
  if !optional && crc ≠ Checksum.crc (letters ++ data).toList then fault "CRC error"
  else return ⟨chunkName letters, data, pos + 12 + length⟩

end ImageWorker.Png
