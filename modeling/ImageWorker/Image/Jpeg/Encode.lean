import ImageWorker.Image.Jpeg.Frequency
import ImageWorker.Image.Jpeg.Tables
import ImageWorker.Image.Octets
import ImageWorker.Image.Picture

/-!
# Writing JPEG files

A picture is written as brightness and two color differences in one scan, every component on the
full grid, with quantities of quality ninety. JPEG has no opacity, so it is lost.
-/

namespace ImageWorker.Jpeg

/-- Some bits: a number and how many there are. -/
abbrev Bits := Nat × Nat

def codewords (c : PrefixCode) : List (Nat × Bits) :=
  let lengths := c.counts.zipIdx.flatMap fun (count, i) => List.replicate count (i + 1)
  let step (state : List Bits × Nat × Nat) (length : Nat) : List Bits × Nat × Nat :=
    let (done, code, last) := state
    let code := code * 2 ^ (length - last)
    ((code, length) :: done, code + 1, length)
  c.symbols.toList.zip (lengths.foldl step ([], 0, 0)).1.reverse

/-- The size of a number in bits, without its sign. -/
def sizeOf (n : Int) : Nat := if n = 0 then 0 else n.natAbs.log2 + 1

def numberBits (n : Int) : Bits :=
  let size := sizeOf n
  ((if n < 0 then n + 2 ^ size - 1 else n).toNat, size)

/-- The bits of the frequencies after the mean; `zeros` of them were zero just before. -/
def runBits (code : List (Nat × Bits)) : List Int → (zeros : Nat) → List Bits
  | [], zeros => if zeros = 0 then [] else [(code.lookup 0).getD (0, 0)]
  | n :: rest, zeros =>
    if n = 0 then runBits code rest (zeros + 1)
    else
      List.replicate (zeros / 16) ((code.lookup 0xF0).getD (0, 0)) ++
        (code.lookup (zeros % 16 * 16 + sizeOf n)).getD (0, 0) :: numberBits n ::
          runBits code rest 0

/-- A component of the picture with its tables. -/
structure Plane where
  sample : Nat → Nat → Float
  quantities : Array Nat
  means : List (Nat × Bits)
  runs : List (Nat × Bits)

/-- The frequencies of a block, divided and in the order in which they are written. -/
def blockNumbers (p : Plane) (column row : Nat) : List Int :=
  let fs := frequencies ((Array.range 64).map fun i =>
    p.sample (8 * column + i % 8) (8 * row + i / 8) - 128.0)
  (List.range 64).map fun k =>
    whole ((fs[(zigzag[k]?).getD 0]?).getD 0.0 / Float.ofNat ((p.quantities[k]?).getD 1))

/-- The bits of a block after one with a given mean, and its own mean. -/
def blockBits (p : Plane) (numbers : List Int) (last : Int) : List Bits × Int :=
  match numbers with
  | [] => ([], last)
  | mean :: rest =>
    let difference := mean - last
    ((p.means.lookup (sizeOf difference)).getD (0, 0) :: numberBits difference ::
      runBits p.runs rest 0, mean)

/-- Bits as octets, the highest first, filled up with ones; an octet of ones is followed by a
zero. -/
def packed : List Bits → (held n : Nat) → Bytes
  | [], held, n => if n = 0 then [] else escaped [UInt8.ofNat ((held + 1) * 2 ^ (8 - n) - 1)]
  | (code, size) :: rest, held, n =>
    let held := held * 2 ^ size + code
    let n := n + size
    let whole := n / 8
    escaped ((List.range whole).map fun i => UInt8.ofNat (held / 2 ^ (n - 8 * (i + 1)))) ++
      packed rest (held % 2 ^ (n % 8)) (n % 8)
where
  /-- Puts a zero behind each octet of ones. -/
  escaped (bs : Bytes) : Bytes := bs.flatMap fun b => if b = 0xFF then [b, 0] else [b]

def segment (kind : UInt8) (data : Bytes) : Bytes :=
  [0xFF, kind] ++ Bytes.big16 (data.length + 2) ++ data

def codeData (number : UInt8) (c : PrefixCode) : Bytes :=
  number :: (c.counts.map UInt8.ofNat ++ c.symbols.toList.map UInt8.ofNat)

/-- The brightness and the color differences of a pixel. -/
def partsOf : Pixel → List Float
  | [r, g, b] =>
    let r := Float.ofNat r.toNat
    let g := Float.ofNat g.toNat
    let b := Float.ofNat b.toNat
    [0.299 * r + 0.587 * g + 0.114 * b, 128.0 - 0.168736 * r - 0.331264 * g + 0.5 * b,
      128.0 + 0.5 * r - 0.418688 * g - 0.081312 * b]
  | _ => []

/-- Writes a picture of red, green and blue. -/
def encode (p : Picture) : Bytes :=
  let parts := p.raster.map partsOf
  let sample (c x y : Nat) : Float :=
    (((parts.get? (min x (p.width - 1)) (min y (p.height - 1))).getD [])[c]?).getD 0.0
  let color (c : Nat) : Plane := ⟨sample c, colorQuantities, codewords colorMeans, codewords colorRuns⟩
  let planes : List Plane :=
    [⟨sample 0, brightnessQuantities, codewords brightnessMeans, codewords brightnessRuns⟩,
      color 1, color 2]
  let wide := (p.width + 7) / 8
  let high := (p.height + 7) / 8
  let step (state : List (List Bits) × List Int) (unit : Nat) : List (List Bits) × List Int :=
    let blocks := (planes.zip state.2).map fun (plane, last) =>
      blockBits plane (blockNumbers plane (unit % wide) (unit / wide)) last
    ((blocks.flatMap (·.1)) :: state.1, blocks.map (·.2))
  let coded := ((List.range (wide * high)).foldl step ([], [0, 0, 0])).1.reverse.flatten
  [0xFF, 0xD8] ++ segment 0xE0 (Bytes.ofText "JFIF" ++ [0, 1, 2, 0, 0, 1, 0, 1, 0, 0]) ++
    segment 0xDB (0 :: brightnessQuantities.toList.map UInt8.ofNat) ++
    segment 0xDB (1 :: colorQuantities.toList.map UInt8.ofNat) ++
    segment 0xC0 ([8] ++ Bytes.big16 p.height ++ Bytes.big16 p.width ++
      [3, 1, 0x11, 0, 2, 0x11, 1, 3, 0x11, 1]) ++
    segment 0xC4 (codeData 0x00 brightnessMeans) ++ segment 0xC4 (codeData 0x10 brightnessRuns) ++
    segment 0xC4 (codeData 0x01 colorMeans) ++ segment 0xC4 (codeData 0x11 colorRuns) ++
    segment 0xDA [3, 1, 0x00, 2, 0x11, 3, 0x11, 0, 63, 0] ++ packed coded 0 0 ++ [0xFF, 0xD9]

end ImageWorker.Jpeg
