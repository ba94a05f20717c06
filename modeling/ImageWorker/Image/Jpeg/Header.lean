import ImageWorker.Image.Octets
import ImageWorker.Image.Picture
import ImageWorker.Image.PrefixCode

/-!
# The segments of a JPEG file

A JPEG file is a sequence of segments, each behind an octet of ones and the number of its kind.
They bring quantities, prefix codes, the size of the picture with the grid of each of its
components, and scans of coded data.
-/

namespace ImageWorker.Jpeg

def fault {α : Type} (what : String) : Except DecodeFault α := .error (.malformed "Jpeg" what)

structure Component where
  id : Nat
  /-- Blocks of a unit side by side. -/
  across : Nat
  /-- Blocks of a unit one below the other. -/
  down : Nat
  quantities : Nat
  deriving DecidableEq, Repr

structure Frame where
  width : Nat
  height : Nat
  /-- Whether the frequencies come bit by bit in several scans. -/
  progressive : Bool
  components : List Component
  deriving DecidableEq, Repr

namespace Frame

def color (f : Frame) : ColorModel := ⟨if f.components.length = 1 then .gray else .rgb, .eight⟩

/-- Blocks of a unit side by side, of the widest component. -/
def maxAcross (f : Frame) : Nat := (f.components.map (·.across)).foldl max 1

/-- Blocks of a unit one below the other, of the highest component. -/
def maxDown (f : Frame) : Nat := (f.components.map (·.down)).foldl max 1

/-- Units in a row of the picture. -/
def unitsWide (f : Frame) : Nat := (f.width + 8 * f.maxAcross - 1) / (8 * f.maxAcross)

def unitsHigh (f : Frame) : Nat := (f.height + 8 * f.maxDown - 1) / (8 * f.maxDown)

/-- Blocks in a row of a component, to the end of the last unit. -/
def blocksWide (f : Frame) (c : Component) : Nat := f.unitsWide * c.across

/-- Rows of blocks of a component, to the end of the last unit. -/
def blocksHigh (f : Frame) (c : Component) : Nat := f.unitsHigh * c.down

/-- Blocks in a row of a component that stands alone. -/
def ownWide (f : Frame) (c : Component) : Nat :=
  ((f.width * c.across + f.maxAcross - 1) / f.maxAcross + 7) / 8

/-- Rows of blocks of a component that stands alone. -/
def ownHigh (f : Frame) (c : Component) : Nat :=
  ((f.height * c.down + f.maxDown - 1) / f.maxDown + 7) / 8

end Frame

/-- The quantities and codes that segments have brought so far, by number. -/
structure Tables where
  quantities : List (Nat × Array Nat)
  means : List (Nat × PrefixCode)
  runs : List (Nat × PrefixCode)
  /-- After how many units the code starts afresh, or zero. -/
  restart : Nat

/-- The part of a component in a scan: its place in the frame and the numbers of its codes. -/
structure Share where
  place : Nat
  component : Component
  means : Nat
  runs : Nat
  deriving DecidableEq, Repr

/-- What a scan brings: its components, the frequencies, and which of their bits. -/
structure Scan where
  shares : List Share
  first : Nat
  last : Nat
  /-- The bit that earlier scans brought, or zero for the first one. -/
  high : Nat
  low : Nat
  deriving DecidableEq, Repr

def readQuantities : (fuel pos : Nat) → Octets → Tables → Except DecodeFault Tables
  | 0, _, _, t => .ok t
  | fuel + 1, pos, data, t =>
    if data.size ≤ pos then .ok t
    else do
      let kind ← data.octet pos
      let size := if kind < 16 then 1 else 2
      let values ← (List.range 64).mapM fun i =>
        if size = 1 then data.octet (pos + 1 + i) else data.big16 (pos + 1 + 2 * i)
      readQuantities fuel (pos + 1 + 64 * size) data
        { t with quantities := (kind % 16, values.toArray) :: t.quantities }

def readCodes : (fuel pos : Nat) → Octets → Tables → Except DecodeFault Tables
  | 0, _, _, t => .ok t
  | fuel + 1, pos, data, t =>
    if data.size ≤ pos then .ok t
    else do
      let kind ← data.octet pos
      let counts ← (List.range 16).mapM fun i => data.octet (pos + 1 + i)
      let symbols ← (List.range counts.sum).mapM fun i => data.octet (pos + 17 + i)
      if (PrefixCode.free? 1 counts).isNone then fault "bad huffman code"
      else
        let code := (kind % 16, (⟨counts, symbols.toArray⟩ : PrefixCode))
        readCodes fuel (pos + 17 + counts.sum) data
          (if kind < 16 then { t with means := code :: t.means } else { t with runs := code :: t.runs })

def readFrame (progressive : Bool) (data : Octets) : Except DecodeFault Frame := do
  let precision ← data.octet 0
  let height ← data.big16 1
  let width ← data.big16 3
  let count ← data.octet 5
  let components ← (List.range count).mapM fun i => do
    let id ← data.octet (6 + 3 * i)
    let grid ← data.octet (7 + 3 * i)
    let quantities ← data.octet (8 + 3 * i)
    return (⟨id, grid / 16, grid % 16, quantities⟩ : Component)
  if precision ≠ 8 then fault "unsupported precision"
  else if width = 0 || height = 0 then fault "zero width or height in frame header"
  else if count ≠ 1 && count ≠ 3 && count ≠ 4 then fault "unsupported number of components"
  else if components.any fun c => c.across = 0 || 4 < c.across || c.down = 0 || 4 < c.down then
    fault "invalid sampling factor"
  else
    let f : Frame := ⟨width, height, progressive, components⟩
    f.color.checkSize width height
    return f

def readScan (f : Frame) (data : Octets) : Except DecodeFault Scan := do
  let count ← data.octet 0
  let shares ← (List.range count).mapM fun i => do
    let id ← data.octet (1 + 2 * i)
    let codes ← data.octet (2 + 2 * i)
    match f.components.findIdx? fun c => c.id = id with
    | none => fault "scan of an unknown component"
    | some place =>
      match f.components[place]? with
      | none => fault "scan of an unknown component"
      | some c => return (⟨place, c, codes / 16, codes % 16⟩ : Share)
  let first ← data.octet (1 + 2 * count)
  let last ← data.octet (2 + 2 * count)
  let bits ← data.octet (3 + 2 * count)
  if count = 0 || 63 < last || last < first then fault "invalid scan header"
  else if f.progressive then return ⟨shares, first, last, bits / 16, bits % 16⟩
  else return ⟨shares, 0, 63, 0, 0⟩

end ImageWorker.Jpeg
