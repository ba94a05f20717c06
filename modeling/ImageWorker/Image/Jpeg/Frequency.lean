/-!
# Blocks and their frequencies

A block of eight by eight samples is the sum of sixty-four cosine waves; both directions of the
transform work on rows of eight numbers, in double precision.
-/

namespace ImageWorker.Jpeg

/-- The circle constant in double precision. -/
def pi : Float := 3.141592653589793

/-- The wave of frequency `u` at place `x`, scaled so that the transform keeps lengths. -/
def wave (u x : Nat) : Float :=
  (if u = 0 then Float.sqrt 0.125 else 0.5) *
    Float.cos (Float.ofNat ((2 * x + 1) * u) * pi / 16.0)

/-- The waves by frequency and place. -/
def waves : Array Float := (Array.range 64).map fun i => wave (i / 8) (i % 8)

/-- The sum of eight products. -/
def dot (f g : Nat → Float) : Float := (List.range 8).foldl (fun s i => s + f i * g i) 0.0

/-- A number of a block of sixty-four, row by row. -/
def entry (b : Array Float) (row column : Nat) : Float := (b[8 * row + column]?).getD 0.0

def frequencies (block : Array Float) : Array Float :=
  let rows := (Array.range 64).map fun i =>
    dot (fun x => entry block (i / 8) x) (fun x => entry waves (i % 8) x)
  (Array.range 64).map fun i => dot (fun y => entry rows y (i % 8)) (fun y => entry waves (i / 8) y)

def samples (block : Array Float) : Array Float :=
  let rows := (Array.range 64).map fun i =>
    dot (fun u => entry block (i / 8) u) (fun u => entry waves u (i % 8))
  (Array.range 64).map fun i => dot (fun v => entry rows v (i % 8)) (fun v => entry waves v (i / 8))

/-- The octet nearest to a number. -/
def octet (x : Float) : Nat := (if x < 0 then 0 else if 255 < x then 255 else x.round).toUInt8.toNat

/-- The whole number nearest to a number. -/
def whole (x : Float) : Int := x.round.toInt64.toInt

end ImageWorker.Jpeg
