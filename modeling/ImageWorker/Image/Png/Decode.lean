import ImageWorker.Image.Inflate
import ImageWorker.Image.Picture
import ImageWorker.Image.Png.Format

/-!
# Reading PNG files

The chunks up to the end of the image data are gathered, the data inflated, the filter of each row
undone, and the samples brought to eight or sixteen bits; palettes and transparent colors are
resolved on the way.
-/

namespace ImageWorker.Png

structure Parts where
  header : Header
  palette : Option Octets
  transparency : Option Octets

def headerOf (c : Chunk) : Except DecodeFault Header := do
  if c.name ≠ "IHDR" then fault (c.name ++ " chunk appeared before IHDR chunk")
  else if c.data.size ≠ 13 then fault "invalid header"
  else
    let width ← c.data.big32 0
    let height ← c.data.big32 4
    let depth ← c.data.octet 8
    let coding ← c.data.octet 9
    let compression ← c.data.octet 10
    let filter ← c.data.octet 11
    let interlace ← c.data.octet 12
    if width = 0 || height = 0 then fault "Invalid width or height"
    else
      match Coding.all.lookup coding with
      | none => fault "Invalid color type"
      | some coding =>
        if !coding.depths.contains depth then fault "Invalid color/depth combination in header"
        else if compression ≠ 0 then fault "Unknown compression method"
        else if filter ≠ 0 then fault "Unknown filter method"
        else if 1 < interlace then fault "Unknown interlace method"
        else return ⟨width, height, depth, coding, interlace = 1⟩

/-- Puts the image data together from chunks that follow each other. Another chunk has to follow
them. -/
def gatherData (o : Octets) : (fuel pos : Nat) → Octets → Except DecodeFault Octets
  | 0, _, _ => .error .truncated
  | fuel + 1, pos, data => do
    let letters ← o.slice (pos + 4) 4
    if chunkName letters = "IDAT" then
      let c ← chunkAt o pos
      gatherData o fuel c.next (data ++ c.data)
    else return data

/-- Whether a transparency chunk fits the coding of the pixels. -/
def checkTransparency (p : Parts) (data : Octets) : Except DecodeFault Unit :=
  match p.header.coding with
  | .gray => if data.size < 2 then fault "Not enough palette entries" else .ok ()
  | .rgb => if data.size < 6 then fault "Not enough palette entries" else .ok ()
  | .palette => if p.palette.isNone then fault "tRNS chunk appeared before PLTE chunk" else .ok ()
  | .grayAlpha | .rgba => fault "Transparency chunk found for a color type with alpha"

/-- Gathers the parts of a file from a position on, with its image data. -/
def gather (o : Octets) : (fuel pos : Nat) → Parts → Except DecodeFault (Parts × Octets)
  | 0, _, _ => .error .truncated
  | fuel + 1, pos, p => do
    let c ← chunkAt o pos
    match c.name with
    | "IHDR" => fault "IHDR chunk is duplicated"
    | "PLTE" =>
      if p.palette.isSome then fault "PLTE chunk is duplicated"
      else gather o fuel c.next { p with palette := some c.data }
    | "tRNS" =>
      if p.transparency.isSome then fault "tRNS chunk is duplicated"
      else
        checkTransparency p c.data
        gather o fuel c.next { p with transparency := some c.data }
    | "IDAT" =>
      if p.header.coding = .palette && p.palette.isNone then fault "No palette"
      else return (p, ← gatherData o (o.size + 1) pos #[])
    | "IEND" => fault "No image data"
    | _ => gather o fuel c.next p

/-- The one of three neighbours that is nearest to left plus up minus corner. -/
def nearest (left up corner : Nat) : Nat :=
  let p : Int := left + up - corner
  let a := (p - left).natAbs
  let b := (p - up).natAbs
  let c := (p - corner).natAbs
  if a ≤ b && a ≤ c then left else if b ≤ c then up else corner

/-- Undoes the filter of a row; `step` is how many octets back the left neighbour is. -/
def unfilter (kind step : Nat) (above row : Octets) : Except DecodeFault Octets :=
  if 4 < kind then fault "Invalid filter method"
  else
    .ok <| (List.range row.size).foldl (fun out i =>
      let old (o : Octets) (j : Nat) : Nat := ((o[j]?).map (·.toNat)).getD 0
      let left := if i < step then 0 else old out (i - step)
      let up := old above i
      let corner := if i < step then 0 else old above (i - step)
      let guess := match kind with
        | 0 => 0
        | 1 => left
        | 2 => up
        | 3 => (left + up) / 2
        | _ => nearest left up corner
      out.push (UInt8.ofNat (old row i + guess))) #[]

/-- Reads the rows of one pass from a position; gives them and the position after them. -/
def rows (data : Octets) (step size : Nat) :
    (count pos : Nat) → (above : Octets) → Except DecodeFault (List Octets × Nat)
  | 0, pos, _ => .ok ([], pos)
  | count + 1, pos, above => do
    let kind ← data.octet pos
    let row ← unfilter kind step above (← data.slice (pos + 1) size)
    let (rest, pos) ← rows data step size count (pos + 1 + size) row
    return (row :: rest, pos)

/-- Reads the rows of all passes. -/
def passRows (h : Header) (data : Octets) :
    List Pass → (pos : Nat) → Except DecodeFault (List (Pass × Array Octets))
  | [], _ => .ok []
  | p :: ps, pos => do
    let (rs, pos) ← rows data (max 1 (h.pixelBits / 8)) (h.rowSize p) (p.height h) pos #[]
    return (p, rs.toArray) :: (← passRows h data ps pos)

def sampleAt (depth : Nat) (row : Octets) (i : Nat) : Nat :=
  let old (j : Nat) : Nat := ((row[j]?).map (·.toNat)).getD 0
  if depth = 16 then 256 * old (2 * i) + old (2 * i + 1)
  else
    let bits := i * depth
    (old (bits / 8) >>> (8 - depth - bits % 8)) % 2 ^ depth

def codedPixel (h : Header) (passes : List (Pass × Array Octets)) (x y : Nat) : List Nat :=
  match passes.find? fun (p, _) => p.holds x y with
  | none => []
  | some (p, rs) =>
    let row := (rs[(y - p.top) / p.rowStep]?).getD #[]
    let column := (x - p.left) / p.columnStep
    (List.range h.coding.samples).map fun c => sampleAt h.depth row (column * h.coding.samples + c)

def transparentColor (h : Header) (data : Octets) : List Nat :=
  (List.range h.coding.samples).map fun c =>
    let n := sampleAt 16 data c
    if h.depth = 16 then n else n % 256

def colorModel (p : Parts) : ColorModel :=
  let alpha := p.transparency.isSome
  { channels := match p.header.coding with
      | .gray => if alpha then .grayAlpha else .gray
      | .rgb | .palette => if alpha then .rgba else .rgb
      | .grayAlpha => .grayAlpha
      | .rgba => .rgba
    depth := if p.header.depth = 16 then .sixteen else .eight }

/-- A palette entry with its opacity; entries that are missing are black. -/
def paletteEntry (p : Parts) (i : Nat) : Pixel :=
  let palette := p.palette.getD #[]
  let color (c : Nat) : UInt16 := if 3 * i + 3 ≤ palette.size then
      ((palette[3 * i + c]?).getD 0).toUInt16 else 0
  let entry := [color 0, color 1, color 2]
  match p.transparency with
  | none => entry
  | some opacities => entry ++ [((opacities[i]?).getD 255).toUInt16]

def pixel (p : Parts) (coded : List Nat) : Pixel :=
  match p.header.coding, coded with
  | .palette, [i] => paletteEntry p i
  | _, _ =>
    let scale := if p.header.depth < 8 then 255 / (2 ^ p.header.depth - 1) else 1
    let px := coded.map fun s => UInt16.ofNat (s * scale)
    match p.transparency with
    | none => px
    | some data =>
      let opacity := if coded = transparentColor p.header data then 0
        else (colorModel p).depth.maximum
      px ++ [opacity]

def decode (o : Octets) : Except DecodeFault Picture := do
  let first ← chunkAt o signature.length
  let header ← headerOf first
  let (parts, data) ← gather o (o.size + 1) first.next ⟨header, none, none⟩
  (colorModel parts).checkSize header.width header.height
  match Inflate.inflateWrapped header.dataSize data with
  | none => fault "Corrupt deflate stream"
  | some data =>
    let passes ← passRows header data (Pass.all header.interlaced) 0
    return ⟨colorModel parts, .ofFn header.width header.height fun x y _ _ =>
      pixel parts (codedPixel header passes x y)⟩

end ImageWorker.Png
