import ImageWorker.Image.Gif.Palette

/-!
# Learned palettes

A picture with more than 256 colors gets a palette that is learned from its pixels. A chain of 256
neurons, each a point among the colors, starts on the gray axis; every pixel pulls the neuron that
wins it and, less and less, the neighbours of that neuron. Neurons that win too often are held
back, so that all of them are used. In the end each pixel takes the color of a near neuron.
-/

namespace ImageWorker.Gif.Learned

def netSize : Nat := 256

/-- A point among the colors. -/
structure Point where
  red : Float
  green : Float
  blue : Float
  opacity : Float
  deriving Inhabited

/-- A neuron, how often it wins, and what it is held back by. -/
structure Neuron where
  place : Point
  frequency : Float
  bias : Float
  deriving Inhabited

/-- The share of a single win in a frequency. -/
def beta : Float := 1.0 / 1024.0

/-- The share of a single win in a bias. -/
def betaGamma : Float := beta * 1024.0

def startNet : Array Neuron :=
  (Array.range netSize).map fun i =>
    let gray := Float.ofNat i * 256.0 / Float.ofNat netSize
    ⟨⟨gray, gray, gray, if i < 16 then Float.ofNat i * 16.0 else 255.0⟩, 1.0 / Float.ofNat netSize, 0.0⟩

/-- The best neurons so far, with and without regard to their bias. -/
structure Contest where
  distance : Float
  nearest : Nat
  biasedDistance : Float
  winner : Nat

/-- A number beyond every distance. -/
def farAway : Float := 1.7976931348623157e308

/-- One neuron competes for a color and loses some of its frequency. -/
def compete (p : Point) (state : Array Neuron × Contest) (i : Nat) : Array Neuron × Contest :=
  let (net, c) := state
  match net[i]? with
  | none => (net, c)
  | some n =>
    let limit := c.biasedDistance + n.bias
    let part := (n.place.blue - p.blue).abs + (n.place.red - p.red).abs
    let c :=
      if part < c.distance || part < limit then
        let whole := part + (n.place.green - p.green).abs + (n.place.opacity - p.opacity).abs
        let c := if whole < c.distance then { c with distance := whole, nearest := i } else c
        let biased := whole - n.bias
        if biased < c.biasedDistance then { c with biasedDistance := biased, winner := i } else c
      else c
    let frequency := n.frequency - beta * n.frequency
    (net.modify i fun n => { n with frequency := frequency, bias := n.bias + betaGamma * frequency }, c)

/-- Finds the winner for a color; the nearest neuron is held back a little more. -/
def contest (p : Point) (net : Array Neuron) : Array Neuron × Nat :=
  let (net, c) := (List.range net.size).foldl (compete p) (net, ⟨farAway, 0, farAway, 0⟩)
  (net.modify c.nearest fun n =>
    { n with frequency := n.frequency + beta, bias := n.bias - betaGamma }, c.winner)

def pull (strength : Float) (p : Point) (n : Neuron) : Neuron :=
  { n with place :=
    { red := n.place.red - strength * (n.place.red - p.red)
      green := n.place.green - strength * (n.place.green - p.green)
      blue := n.place.blue - strength * (n.place.blue - p.blue)
      opacity := n.place.opacity - strength * (n.place.opacity - p.opacity) } }

/-- Pulls the neighbours of a neuron, the nearer ones more. -/
def pullNeighbours (strength : Float) (radius i : Nat) (p : Point) (net : Array Neuron) :
    Array Neuron :=
  let low : Int := max ((i : Int) - radius) 0
  let high := min (i + radius) netSize
  let square := Float.ofNat radius * Float.ofNat radius
  (List.range radius).foldl (fun net q =>
    let up := i + 1 + q
    let down : Int := (i : Int) - 1 - q
    let share := strength * (square - Float.ofNat q * Float.ofNat q) / square
    let net := if up < high then net.modify up (pull share p) else net
    if low < down then net.modify down.toNat (pull share p) else net) net

/-- How strongly and how widely pixels pull; both shrink as learning goes on. -/
structure Pace where
  alpha : Nat
  biasRadius : Nat

/-- How many neighbours on either side are pulled. -/
def Pace.radius (p : Pace) : Nat := if p.biasRadius / 64 ≤ 1 then 0 else p.biasRadius / 64

/-- The pace after another stretch of learning. -/
def Pace.slower (p : Pace) : Pace := ⟨p.alpha - p.alpha / 30, p.biasRadius - p.biasRadius / 30⟩

/-- The step from pixel to pixel: a prime near 500 that does not divide their number. -/
def stepFor (count : Nat) : Nat := ([499, 491, 478, 503].find? fun p => count % p ≠ 0).getD 503

/-- Learns from the pixels that are left, `done` being how many were learned from. -/
def learn (pixels : Array Point) (step stretch : Nat) :
    (left done pos : Nat) → Pace → Array Neuron → Array Neuron
  | 0, _, _, _, net => net
  | left + 1, done, pos, pace, net =>
    match pixels[pos]? with
    | none => net
    | some p =>
      let (net, winner) := contest p net
      let strength := Float.ofNat pace.alpha / 1024.0
      let net := net.modify winner (pull strength p)
      let net :=
        if pace.radius = 0 then net else pullNeighbours strength pace.radius winner p net
      let done := done + 1
      let pace := if done % stretch = 0 then pace.slower else pace
      learn pixels step stretch left done ((pos + step) % pixels.size) pace net

def colorOf (n : Neuron) : Color :=
  let part (x : Float) : Nat := (if x < 0 then 0 else if 255 < x then 255 else x.round).toUInt8.toNat
  ⟨part n.place.red, part n.place.green, part n.place.blue, part n.place.opacity⟩

/-- Takes the first color with the least green out of a list, and puts the first color into its
place. -/
def leastGreen (c : Color) (rest : List Color) : Color × List Color :=
  let best := rest.foldl (fun b d => if d.green < b.green then d else b) c
  if best.green < c.green then
    match rest.findIdx? fun d => d.green = best.green with
    | some i => (best, rest.set i c)
    | none => (c, rest)
  else (c, rest)

/-- Orders colors by green, by exchange of the least with the first one. -/
def byGreen : (fuel : Nat) → List Color → List Color
  | 0, cs => cs
  | _, [] => []
  | fuel + 1, c :: rest =>
    let (best, rest) := leastGreen c rest
    best :: byGreen fuel rest

/-- For each green the place in the ordered palette where a search begins: the middle of the
colors with that green, or the first with more. -/
def guesses (palette : Array Color) (green : Nat) : Nat :=
  let first := (palette.findIdx? fun c => green ≤ c.green).getD (palette.size - 1)
  let after := palette.findIdx? fun c => green < c.green
  if palette.any fun c => c.green = green then
    match after with
    | some after => (first + after) / 2
    | none => (first + (palette.size - 1)) / 2
  else first

def squared (a b : Nat) : Nat := (max a b - min a b) * (max a b - min a b)

/-- Goes on along places of the palette until green alone is farther than the best color. -/
def search (palette : Array Color) (c : Color) : List Nat → (best : Option Nat) → (place : Nat) →
    Option Nat × Nat
  | [], best, place => (best, place)
  | i :: rest, best, place =>
    match palette[i]? with
    | none => (best, place)
    | some p =>
      let green := squared p.green c.green
      if best.any (· < green) then (best, place)
      else
        let whole := green + squared p.red c.red + squared p.blue c.blue +
          squared p.opacity c.opacity
        if best.all (whole < ·) then search palette c rest (some whole) i
        else search palette c rest best place

/-- The place of a near color. -/
def indexOf (palette : Array Color) (starts : Array Nat) (c : Color) : Nat :=
  let start := (starts[c.green]?).getD 0
  let (best, place) :=
    search palette c ((List.range (palette.size - start)).map (start + ·)) none start
  (search palette c (List.range start).reverse best place).2

/-- The learned palette of some pixels. -/
def palette (colors : List Color) : Indexed :=
  let points := (colors.map fun c =>
    ⟨Float.ofNat c.red, Float.ofNat c.green, Float.ofNat c.blue, Float.ofNat c.opacity⟩).toArray
  let count := points.size
  let stretch := max (count / 128) 1
  let net := learn points (stepFor count) stretch count 0 0 ⟨1024, netSize / 8 * 64⟩ startNet
  let ordered := (byGreen netSize (net.toList.map colorOf)).toArray
  let starts := (Array.range 256).map (guesses ordered)
  { palette := ordered.toList
    indices := colors.map (indexOf ordered starts)
    transparent := (colors.find? fun c => c.opacity = 0).map (indexOf ordered starts) }

end ImageWorker.Gif.Learned
