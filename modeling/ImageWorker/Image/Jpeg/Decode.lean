import ImageWorker.Image.BitSource
import ImageWorker.Image.Jpeg.ColorCoding
import ImageWorker.Image.Jpeg.Frequency
import ImageWorker.Image.Jpeg.Header
import ImageWorker.Image.Jpeg.Tables
import ImageWorker.Image.Picture

/-!
# Reading JPEG files

The scans fill blocks of frequencies, at once or bit by bit; in the end the blocks become samples,
components with a coarser grid are spread over the finer one, and what they mean becomes red,
green and blue. Past the end of its data a scan reads zeros.
-/

namespace ImageWorker.Jpeg

/-- A block of frequencies in the order of rows. -/
abbrev Block := Array Int

structure Filling where
  source : BitSource
  /-- The last mean of each component. -/
  means : Array Int
  /-- How many blocks are still without further frequencies. -/
  emptyBlocks : Nat
  /-- The blocks of each component, row by row. -/
  blocks : Array (Array Block)

/-- The next bit, zero past the end. -/
def bit (s : BitSource) : Nat × BitSource := s.high.getD (0, s)

/-- A number of some bits. -/
def bits : (count : Nat) → (value : Nat) → BitSource → Nat × BitSource
  | 0, value, s => (value, s)
  | n + 1, value, s =>
    let (b, s) := bit s
    bits n (2 * value + b) s

/-- The number of a given size: those whose first bit is zero are negative. -/
def signed (size : Nat) (s : BitSource) : Int × BitSource :=
  let (n, s) := bits size 0 s
  (if size = 0 then 0 else if n < 2 ^ (size - 1) then (n : Int) - 2 ^ size + 1 else n, s)

def symbol (code : PrefixCode) (s : BitSource) : Except DecodeFault (Nat × BitSource) :=
  match code.decode (fun s => some (bit s)) s with
  | some r => .ok r
  | none => fault "failed to decode huffman code"

def readMean (code : PrefixCode) (place low : Nat) (f : Filling) (b : Block) :
    Except DecodeFault (Block × Filling) := do
  let (size, s) ← symbol code f.source
  if 16 < size then fault "invalid DC difference"
  else
    let (difference, s) := signed size s
    let mean := (f.means[place]?).getD 0 + difference
    return (b.set! 0 (mean * 2 ^ low), { f with source := s, means := f.means.set! place mean })

/-- Reads the other frequencies of a block from one on. -/
def readRuns (code : PrefixCode) (last low : Nat) :
    (fuel k : Nat) → Filling → Block → Except DecodeFault (Block × Filling)
  | 0, _, f, b => .ok (b, f)
  | fuel + 1, k, f, b =>
    if last < k then .ok (b, f)
    else do
      let (rs, s) ← symbol code f.source
      let run := rs / 16
      let size := rs % 16
      if size = 0 then
        if run = 15 then readRuns code last low fuel (k + 16) { f with source := s } b
        else
          let (more, s) := bits run 0 s
          return (b, { f with source := s, emptyBlocks := 2 ^ run - 1 + more })
      else
        let (value, s) := signed size s
        let b := match zigzag[k + run]? with
          | some place => b.set! place (value * 2 ^ low)
          | none => b
        readRuns code last low fuel (k + run + 1) { f with source := s } b

/-- Adds a bit to a frequency that is not zero. -/
def refined (low : Nat) (value : Int) (s : BitSource) : Int × BitSource :=
  let (b, s) := bit s
  (if b = 0 then value else if 0 < value then value + 2 ^ low else value - 2 ^ low, s)

/-- Passes over `zeros` frequencies that are zero and refines the others on the way, from one on;
gives where the next zero is. -/
def refineOver (last low : Nat) :
    (fuel k zeros : Nat) → BitSource → Block → Nat × BitSource × Block
  | 0, k, _, s, b => (k, s, b)
  | fuel + 1, k, zeros, s, b =>
    if last < k then (k, s, b)
    else
      let place := (zigzag[k]?).getD 0
      let value := (b[place]?).getD 0
      if value = 0 then
        if zeros = 0 then (k, s, b) else refineOver last low fuel (k + 1) (zeros - 1) s b
      else
        let (value, s) := refined low value s
        refineOver last low fuel (k + 1) zeros s (b.set! place value)

/-- Reads one more bit of the frequencies of a block from one on. -/
def refineRuns (code : PrefixCode) (last low : Nat) :
    (fuel k : Nat) → Filling → Block → Except DecodeFault (Block × Filling)
  | 0, _, f, b => .ok (b, f)
  | fuel + 1, k, f, b =>
    if last < k then .ok (b, f)
    else do
      let (rs, s) ← symbol code f.source
      let run := rs / 16
      let size := rs % 16
      if size = 0 && run < 15 then
        let (more, s) := bits run 0 s
        let (_, s, b) := refineOver last low 64 k 64 s b
        return (b, { f with source := s, emptyBlocks := 2 ^ run - 1 + more })
      else if 1 < size then fault "unexpected huffman code"
      else
        let (sign, s) := if size = 0 then (0, s) else bit s
        let (k, s, b) := refineOver last low 64 k run s b
        let b := match zigzag[k]? with
          | some place =>
            if size = 0 || last < k then b
            else b.set! place (if sign = 1 then 2 ^ low else -(2 ^ low))
          | none => b
        refineRuns code last low fuel (k + 1) { f with source := s } b

def readBlock (t : Tables) (sc : Scan) (sh : Share) (f : Filling) (b : Block) :
    Except DecodeFault (Block × Filling) := do
  let codeOf (codes : List (Nat × PrefixCode)) (n : Nat) : Except DecodeFault PrefixCode :=
    match codes.lookup n with
    | some c => .ok c
    | none => fault "use of unset huffman table"
  let (b, f) ←
    if 0 < sc.first then pure (b, f)
    else if sc.high = 0 then do readMean (← codeOf t.means sh.means) sh.place sc.low f b
    else
      let (more, s) := bit f.source
      let mean := (b[0]?).getD 0
      pure (if more = 1 && mean / 2 ^ sc.low % 2 = 0 then b.set! 0 (mean + 2 ^ sc.low) else b,
        { f with source := s })
  if sc.last = 0 then return (b, f)
  else
    let runs ← codeOf t.runs sh.runs
    let first := max 1 sc.first
    if 0 < f.emptyBlocks then
      let (s, b) := if sc.high = 0 then (f.source, b)
        else (refineOver sc.last sc.low 64 first 64 f.source b).2
      return (b, { f with source := s, emptyBlocks := f.emptyBlocks - 1 })
    else if sc.high = 0 then readRuns runs sc.last sc.low 64 first f b
    else refineRuns runs sc.last sc.low 64 first f b

/-- The blocks of each unit of a scan: the share of the component and the place of the block. -/
def unitBlocks (f : Frame) (sc : Scan) (unit : Nat) : List (Share × Nat) :=
  match sc.shares with
  | [sh] =>
    let wide := f.ownWide sh.component
    [(sh, unit / wide * f.blocksWide sh.component + unit % wide)]
  | shares =>
    let row := unit / f.unitsWide
    let column := unit % f.unitsWide
    shares.flatMap fun sh =>
      let c := sh.component
      (List.range (c.across * c.down)).map fun i =>
        (sh, (row * c.down + i / c.across) * f.blocksWide c + column * c.across + i % c.across)

def unitCount (f : Frame) (sc : Scan) : Nat :=
  match sc.shares with
  | [sh] => f.ownWide sh.component * f.ownHigh sh.component
  | _ => f.unitsWide * f.unitsHigh

def readUnit (fr : Frame) (t : Tables) (sc : Scan) (unit : Nat) (f : Filling) :
    Except DecodeFault Filling :=
  (unitBlocks fr sc unit).foldlM (fun f (sh, place) => do
    let block := (((f.blocks[sh.place]?).getD #[])[place]?).getD #[]
    let (block, f) ← readBlock t sc sh f block
    return { f with blocks := f.blocks.modify sh.place fun bs => bs.set! place block }) f

/-- Reads the units of a scan from pieces of data, each of which starts afresh. -/
def readUnits (fr : Frame) (t : Tables) (sc : Scan) (pieces : Array Octets)
    (blocks : Array (Array Block)) : Except DecodeFault (Array (Array Block)) := do
  let fresh (n : Nat) (blocks : Array (Array Block)) : Filling :=
    ⟨.ofOctets ((pieces[n]?).getD #[]), (fr.components.map fun _ => 0).toArray, 0, blocks⟩
  let filled ← (List.range (unitCount fr sc)).foldlM (fun f unit =>
    let f := if unit ≠ 0 && t.restart ≠ 0 && unit % t.restart = 0 then
        fresh (unit / t.restart) f.blocks
      else f
    readUnit fr t sc unit f) (fresh 0 blocks)
  return filled.blocks

/-- Cuts the data of a scan into its pieces, up to the next segment: an octet of ones stands for
itself before a zero, and before the number of a fresh start it ends a piece. -/
def scanData (o : Octets) : (fuel pos : Nat) → (pieces : Array Octets) → (piece : Octets) →
    Except DecodeFault (Array Octets × Nat)
  | 0, _, _, _ => .error .truncated
  | fuel + 1, pos, pieces, piece => do
    let b ← o.octet pos
    if b ≠ 0xFF then scanData o fuel (pos + 1) pieces (piece.push (UInt8.ofNat b))
    else
      let kind ← o.octet (pos + 1)
      if kind = 0 then scanData o fuel (pos + 2) pieces (piece.push 0xFF)
      else if kind = 0xFF then scanData o fuel (pos + 1) pieces piece
      else if 0xD0 ≤ kind && kind ≤ 0xD7 then scanData o fuel (pos + 2) (pieces.push piece) #[]
      else return (pieces.push piece, pos)

structure State where
  frame : Option Frame
  hints : ColorHints
  tables : Tables
  blocks : Array (Array Block)

def emptyBlocks (f : Frame) : Array (Array Block) :=
  (f.components.map fun c =>
    Array.replicate (f.blocksWide c * f.blocksHigh c) (Array.replicate 64 (0 : Int))).toArray

def segments (o : Octets) : (fuel pos : Nat) → State → Except DecodeFault State
  | 0, _, _ => .error .truncated
  | fuel + 1, pos, st => do
    let lead ← o.octet pos
    let kind ← o.octet (pos + 1)
    if lead ≠ 0xFF then fault "expected a marker"
    else if kind = 0xFF then segments o fuel (pos + 1) st
    else if kind = 0xD9 then return st
    else
      let size ← o.big16 (pos + 2)
      if size < 2 then fault "invalid segment length"
      else
        let data ← o.slice (pos + 4) (size - 2)
        let next := pos + 2 + size
        match kind with
        | 0xDB =>
          segments o fuel next { st with tables := ← readQuantities (data.size + 1) 0 data st.tables }
        | 0xC4 =>
          segments o fuel next { st with tables := ← readCodes (data.size + 1) 0 data st.tables }
        | 0xDD =>
          let restart ← data.big16 0
          segments o fuel next { st with tables := { st.tables with restart := restart } }
        | 0xC0 | 0xC1 | 0xC2 =>
          if st.frame.isSome then fault "more than one frame"
          else
            let f ← readFrame (kind = 0xC2) data
            segments o fuel next { st with frame := some f, blocks := emptyBlocks f }
        | 0xDA =>
          match st.frame with
          | none => fault "scan encountered before frame"
          | some f =>
            let sc ← readScan f data
            let (pieces, next) ← scanData o (o.size + 1) next #[] #[]
            segments o fuel next { st with blocks := ← readUnits f st.tables sc pieces st.blocks }
        | _ =>
          if 0xC3 ≤ kind && kind ≤ 0xCF then fault "unsupported coding process"
          else segments o fuel next { st with hints := ← st.hints.add kind data }

def componentSamples (quantities : Array Nat) (blocks : Array Block) : Array (Array Nat) :=
  blocks.map fun b =>
    let scaled := (Array.range 64).foldl (fun out k =>
      let place := (zigzag[k]?).getD 0
      out.set! place (Float.ofInt ((b[place]?).getD 0 * (quantities[k]?).getD 1)))
      (Array.replicate 64 0.0)
    (samples scaled).map fun x => octet (x + 128.0)

def decode (o : Octets) : Except DecodeFault Picture := do
  let st ← segments o (o.size + 1) 2 ⟨none, ⟨false, none⟩, ⟨[], [], [], 0⟩, #[]⟩
  match st.frame with
  | none => fault "no frame"
  | some f =>
    let coding ← st.hints.coding (f.components.map (·.id))
    let components ← (f.components.zip st.blocks.toList).mapM fun (c, blocks) =>
      match st.tables.quantities.lookup c.quantities with
      | none => fault "use of unset quantization table"
      | some quantities => .ok (c, componentSamples quantities blocks)
    let sample (x y : Nat) (component : Component × Array (Array Nat)) : Nat :=
      let (c, blocks) := component
      let x := x * c.across / f.maxAcross
      let y := y * c.down / f.maxDown
      let block := (blocks[y / 8 * f.blocksWide c + x / 8]?).getD #[]
      (block[y % 8 * 8 + x % 8]?).getD 0
    return ⟨f.color, .ofFn f.width f.height fun x y _ _ =>
      (coding.resolve (components.map (sample x y))).map UInt16.ofNat⟩

end ImageWorker.Jpeg
