import ImageWorker.Image.Picture

/-!
# Exact palettes

A palette has 256 colors at most. When a picture has no more, its palette is exact: the colors in
order, and each pixel is written as the place of its color. A pixel is opaque or transparent in
full, and all transparent ones take the color of the first of them.
-/

namespace ImageWorker.Gif

structure Color where
  red : Nat
  green : Nat
  blue : Nat
  opacity : Nat
  deriving DecidableEq, Repr

namespace Color

/-- The color of a pixel of four octets; any opacity but none at all becomes full. -/
def ofPixel : Pixel → Color
  | [r, g, b, a] => ⟨r.toNat, g.toNat, b.toNat, if a = 0 then 0 else 255⟩
  | _ => ⟨0, 0, 0, 0⟩

/-- The number by which colors are ordered: red, green, blue and opacity. -/
def rank (c : Color) : Nat := ((c.red * 256 + c.green) * 256 + c.blue) * 256 + c.opacity

end Color

/-- Gives every transparent pixel the color of the first one. -/
def mergeTransparent (colors : List Color) : List Color :=
  match colors.find? fun c => c.opacity = 0 with
  | none => colors
  | some shared => colors.map fun c => if c.opacity = 0 then shared else c

/-- Puts a number into an ascending list unless it is there. -/
def insertNew (n : Nat) : List Nat → List Nat
  | [] => [n]
  | m :: ms => if n < m then n :: m :: ms else if n = m then m :: ms else m :: insertNew n ms

/-- The different ranks in ascending order, or nothing when there are more than 256. -/
def distinctRanks (colors : List Color) : Option (List Nat) :=
  colors.foldlM (fun ranks c =>
    let ranks := insertNew c.rank ranks
    if 256 < ranks.length then none else some ranks) []

def Color.ofRank (n : Nat) : Color :=
  ⟨n / 16777216, n / 65536 % 256, n / 256 % 256, n % 256⟩

/-- A palette, and the place of the color that stands for each pixel. -/
structure Indexed where
  palette : List Color
  indices : List Nat
  transparent : Option Nat
  deriving Repr

/-- The exact palette of some pixels, if there is one. -/
def exactPalette? (colors : List Color) : Option Indexed :=
  (distinctRanks colors).map fun ranks =>
    let palette := ranks.map Color.ofRank
    { palette := palette
      indices := colors.map fun c => ranks.idxOf c.rank
      transparent := (colors.find? fun c => c.opacity = 0).map fun c => ranks.idxOf c.rank }

end ImageWorker.Gif
