import ImageWorker.Message.Transformation

/-!
# How large a scaled picture is

To cover a box, both sides are scaled by the larger of the two ratios, and the result is cut down
to the box around its centre. Ratios and products are kept to 53 binary digits, ties going to the
even neighbour, and a side is rounded to a whole number of pixels, halves going up.
-/

namespace ImageWorker

/-- The positive rational number `num / den`. -/
structure Ratio where
  num : Nat
  den : Nat
  deriving DecidableEq, Repr

namespace Ratio

def le (a b : Ratio) : Bool := a.num * b.den ≤ b.num * a.den

def max (a b : Ratio) : Ratio := if a.le b then b else a

/-- The whole number nearest to a quotient; a tie goes to the even one. -/
def divideEven (n d : Nat) : Nat :=
  let q := n / d
  let r := n % d
  if d < 2 * r || (2 * r = d && q % 2 = 1) then q + 1 else q

/-- The nearest number with 53 binary digits. -/
def rounded (a : Ratio) : Ratio :=
  -- With this shift the quotient has 54 or 55 digits.
  let up := 54 + a.den.log2 - a.num.log2
  let down := a.num.log2 - (54 + a.den.log2)
  let num := a.num * 2 ^ up
  let den := a.den * 2 ^ down
  let spare := (num / den).log2 - 52
  ⟨divideEven num (den * 2 ^ spare) * 2 ^ (spare + down), 2 ^ up⟩

/-- The quotient of two whole numbers, to 53 digits. -/
def ofNat (n d : Nat) : Ratio := rounded ⟨n, d⟩

/-- A whole number scaled by a ratio, to 53 digits. -/
def scale (a : Ratio) (n : Nat) : Ratio := rounded ⟨n * a.num, a.den⟩

/-- The nearest whole number; a half goes up. -/
def round (a : Ratio) : Nat := (2 * a.num + a.den) / (2 * a.den)

end Ratio

namespace Box

/-- The largest side that a picture can be asked to have. -/
def maxSide : Nat := 4294967295

/-- The sides of a picture of `width` by `height` pixels scaled by a ratio; a side that would be
too large is cut to the largest one, and the other scaled to match. -/
def scaled (width height : Nat) (ratio : Ratio) : Box :=
  let w := max (ratio.scale width).round 1
  let h := max (ratio.scale height).round 1
  if maxSide < w then ⟨maxSide, max ((Ratio.ofNat maxSide width).scale height).round 1⟩
  else if maxSide < h then ⟨max ((Ratio.ofNat maxSide height).scale width).round 1, maxSide⟩
  else ⟨w, h⟩

/-- The size that a picture of `width` by `height` pixels is scaled to so that it covers a
box. -/
def covering (box : Box) (width height : Nat) : Box :=
  scaled width height ((Ratio.ofNat box.width width).max (Ratio.ofNat box.height height))

/-- Where the box begins in a covering picture, as a column and a row. -/
def corner (box : Box) (covering : Box) : Nat × Nat :=
  if covering.width * box.height < box.width * covering.height then
    (0, (covering.height - box.height) / 2)
  else ((covering.width - box.width) / 2, 0)

end Box

end ImageWorker
