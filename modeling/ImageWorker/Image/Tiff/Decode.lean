import ImageWorker.Image.GrowingCodes
import ImageWorker.Image.Inflate
import ImageWorker.Image.Picture

/-!
# Reading TIFF files

A directory of numbered fields says how large the picture is, what its samples are and where its
strips of rows stand. Gray, red-green-blue and red-green-blue-opacity pictures with samples of
eight or sixteen bits are read.
-/

namespace ImageWorker.Tiff

def fault {α : Type} (what : String) : Except DecodeFault α := .error (.malformed "Tiff" what)

/-- A file and the order of octets in its numbers. -/
structure File where
  octets : Octets
  lowFirst : Bool

namespace File

/-- A number of two octets. -/
def number16 (f : File) (i : Nat) : Except DecodeFault Nat :=
  if f.lowFirst then f.octets.little16 i else f.octets.big16 i

/-- A number of four octets. -/
def number32 (f : File) (i : Nat) : Except DecodeFault Nat :=
  if f.lowFirst then f.octets.little32 i else f.octets.big32 i

/-- A number of one, two or four octets. -/
def number (f : File) (size i : Nat) : Except DecodeFault Nat :=
  match size with
  | 1 => f.octets.octet i
  | 2 => f.number16 i
  | _ => f.number32 i

end File

/-- A field of the directory: its number, the size of a value, how many values there are and
where. -/
structure Entry where
  tag : Nat
  size : Nat
  count : Nat
  start : Nat
  deriving DecidableEq, Repr

/-- The octets of a value of some type, for the types of whole numbers. -/
def typeSize? : Nat → Option Nat
  | 1 => some 1
  | 3 => some 2
  | 4 => some 4
  | _ => none

/-- Reads the entry at a position; values that fit into four octets stand in the entry itself. -/
def entryAt (f : File) (pos : Nat) : Except DecodeFault (Option Entry) := do
  let tag ← f.number16 pos
  let type ← f.number16 (pos + 2)
  let count ← f.number32 (pos + 4)
  match typeSize? type with
  | none => return none
  | some size =>
    let start ← if size * count ≤ 4 then pure (pos + 8) else f.number32 (pos + 8)
    return some ⟨tag, size, count, start⟩

def directory (f : File) : Except DecodeFault (List Entry) := do
  let pos ← f.number32 4
  let count ← f.number16 pos
  let entries ← (List.range count).mapM fun i => entryAt f (pos + 2 + 12 * i)
  return entries.filterMap id

def values? (f : File) (d : List Entry) (tag : Nat) : Except DecodeFault (Option (List Nat)) :=
  match d.find? fun e => e.tag = tag with
  | none => .ok none
  | some e =>
    if f.octets.size < e.start + e.size * e.count then .error .truncated
    else return some (← (List.range e.count).mapM fun i => f.number e.size (e.start + i * e.size))

/-- The values of a field that has to be there. -/
def values (f : File) (d : List Entry) (tag : Nat) : Except DecodeFault (List Nat) := do
  match ← values? f d tag with
  | some vs => return vs
  | none => fault ("Required tag " ++ toString tag ++ " not found.")

/-- The first value of a field, or a standard value. -/
def valueOr (f : File) (d : List Entry) (tag standard : Nat) : Except DecodeFault Nat := do
  match ← values? f d tag with
  | some (v :: _) => return v
  | _ => return standard

/-- Undoes the compression of a strip by runs: a number below 128 announces so many and one more
octets, and a larger one a repeated octet. -/
def unpackRuns : (fuel pos : Nat) → Octets → Octets → Octets
  | 0, _, _, out => out
  | fuel + 1, pos, data, out =>
    match data[pos]? with
    | none => out
    | some n =>
      if n < 128 then
        unpackRuns fuel (pos + 2 + n.toNat) data
          (out ++ data.extract (pos + 1) (pos + 2 + n.toNat))
      else if n = 128 then unpackRuns fuel (pos + 1) data out
      else unpackRuns fuel (pos + 2) data (out ++ Array.replicate (257 - n.toNat) ((data[pos + 1]?).getD 0))

/-- Undoes the compression of a strip that has `size` octets then. -/
def expand (compression size : Nat) (data : Octets) : Except DecodeFault Octets := do
  let out ← match compression with
    | 1 => pure data
    | 5 =>
      match GrowingCodes.read? ⟨8, BitSource.highBits, 1⟩ size data with
      | some out => pure out
      | none => fault "invalid LZW data"
    | 8 | 32946 =>
      match Inflate.inflateWrapped size data with
      | some out => pure out
      | none => fault "corrupt deflate stream"
    | 32773 => pure (unpackRuns data.size 0 data #[])
    | _ => fault "Unsupported compression method"
  out.slice 0 size

structure Layout where
  width : Nat
  height : Nat
  color : ColorModel
  /-- Whether the largest sample is black. -/
  inverted : Bool
  /-- Whether each sample is the difference to the one before. -/
  differences : Bool
  compression : Nat
  rowsPerStrip : Nat
  deriving DecidableEq, Repr

def Layout.sampleSize (l : Layout) : Nat :=
  match l.color.depth with
  | .eight => 1
  | .sixteen => 2

def Layout.rowSize (l : Layout) : Nat := l.width * l.color.channels.count * l.sampleSize

def channelsOf (meaning samples : Nat) : Except DecodeFault Channels :=
  match meaning, samples with
  | 0, 1 | 1, 1 => .ok .gray
  | 2, 3 => .ok .rgb
  | 2, 4 => .ok .rgba
  | _, _ => fault "unsupported color type"

def layoutOf (f : File) (d : List Entry) : Except DecodeFault Layout := do
  let width ← values f d 256
  let height ← values f d 257
  let meaning ← values f d 262
  let samples ← valueOr f d 277 1
  let bits := (← values? f d 258).getD [1]
  let compression ← valueOr f d 259 1
  let rowsPerStrip ← valueOr f d 278 (2 ^ 32 - 1)
  let planes ← valueOr f d 284 1
  let predictor ← valueOr f d 317 1
  match width, height, meaning, bits with
  | width :: _, height :: _, meaning :: _, bit :: _ =>
    if width = 0 || height = 0 then fault "invalid dimensions"
    else if planes ≠ 1 && samples ≠ 1 then fault "unsupported planar configuration"
    else if bits.any (· ≠ bit) || rowsPerStrip = 0 then fault "inconsistent sizes"
    else
      let channels ← channelsOf meaning samples
      let depth ← match bit with
        | 8 => pure .eight
        | 16 => pure .sixteen
        | _ => fault "unsupported color type"
      return ⟨width, height, ⟨channels, depth⟩, meaning = 0, predictor = 2, compression, rowsPerStrip⟩
  | _, _, _, _ => fault "inconsistent sizes"

/-- Reads the strips, whose places and sizes are given, from a row on. -/
def strips (f : File) (l : Layout) :
    List (Nat × Nat) → (row : Nat) → Octets → Except DecodeFault Octets
  | [], row, out => if row < l.height then .error .truncated else .ok out
  | (start, size) :: rest, row, out =>
    if l.height ≤ row then .ok out
    else do
      let count := min l.rowsPerStrip (l.height - row)
      let strip ← expand l.compression (count * l.rowSize) (← f.octets.slice start size)
      strips f l rest (row + count) (out ++ strip)

def rowSamples (f : File) (l : Layout) (data : Octets) (y : Nat) : Array Nat :=
  let n := l.width * l.color.channels.count
  let plain := (Array.range n).map fun i =>
    (({ f with octets := data }.number l.sampleSize
      (y * l.rowSize + i * l.sampleSize)).toOption).getD 0
  if l.differences then
    let step := l.color.channels.count
    (List.range n).foldl (fun done i =>
      let before := if i < step then 0 else (done[i - step]?).getD 0
      done.push (((plain[i]?).getD 0 + before) % 256 ^ l.sampleSize)) #[]
  else plain

def decode (o : Octets) : Except DecodeFault Picture := do
  let f : File := ⟨o, o[0]? = some 0x49⟩
  let d ← directory f
  let l ← layoutOf f d
  l.color.checkSize l.width l.height
  let places ← values f d 273
  let sizes ← values f d 279
  let data ← strips f l (places.zip sizes) 0 #[]
  let rows := Array.ofFn fun y : Fin l.height => rowSamples f l data y.val
  let top := l.color.depth.maximum.toNat
  return ⟨l.color, .ofFn l.width l.height fun x y _ _ =>
    let row := (rows[y]?).getD #[]
    (List.range l.color.channels.count).map fun c =>
      let s := (row[x * l.color.channels.count + c]?).getD 0
      UInt16.ofNat (if l.inverted then top - s else s)⟩

end ImageWorker.Tiff
