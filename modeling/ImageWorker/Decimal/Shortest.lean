import ImageWorker.Power

/-!
# The shortest decimal that reads back

A finite double is `m · 2 ^ e`. The decimals that round to it form an interval around it; its
text has the fewest digits of any of them, and among those with so few digits it is the nearest,
a tie going to the even digit. All comparisons are made in whole numbers.
-/

namespace ImageWorker.Decimal

/-- A finite double as a magnitude `significand · 2 ^ exponent`. -/
structure Binary where
  negative : Bool
  significand : Nat
  exponent : Int
  /-- The neighbour below is only half as far away as the one above. -/
  narrowBelow : Bool
  deriving DecidableEq, Repr

/-- The fields of a finite double, read off its 64 bits. -/
def Binary.ofBits (bits : Nat) : Binary :=
  let fraction := bits % 2 ^ 52
  let biased := bits / 2 ^ 52 % 2 ^ 11
  { negative := bits / 2 ^ 63 == 1
    significand := if biased = 0 then fraction else fraction + 2 ^ 52
    exponent := ((if biased = 0 then 1 else biased : Nat) : Int) - 1075
    narrowBelow := fraction == 0 && decide (1 < biased) }

/-- The decimals that round to one double: the value is `value / unit`, the ends of the interval
are `lower / unit` and `upper / unit`, and `closed` says whether the ends belong to it. -/
structure Interval where
  lower : Nat
  value : Nat
  upper : Nat
  unit : Nat
  closed : Bool
  deriving DecidableEq, Repr

/-- The interval around a double that is not zero. -/
def Binary.interval (b : Binary) : Interval :=
  let up := 2 ^ b.exponent.toNat
  { lower := (4 * b.significand - if b.narrowBelow then 1 else 2) * up
    value := 4 * b.significand * up
    upper := (4 * b.significand + 2) * up
    unit := 4 * 2 ^ (-b.exponent).toNat
    closed := b.significand % 2 == 0 }

/-- Whether `count · 10 ^ place` lies in the interval. -/
def Interval.holds (i : Interval) (count : Nat) (place : Int) : Bool :=
  let point := count * 10 ^ place.toNat * i.unit
  let scale := 10 ^ (-place).toNat
  if i.closed then i.lower * scale ≤ point && point ≤ i.upper * scale
  else i.lower * scale < point && point < i.upper * scale

/-- The grid point of `place` that stands for the interval: of the two neighbours of the value the
one inside, of two inside the nearer, of two as near the even one. -/
def Interval.pick (i : Interval) (place : Int) : Option Nat :=
  let up := i.unit * 10 ^ place.toNat
  let scaled := i.value * 10 ^ (-place).toNat
  let below := scaled / up
  let rest := scaled % up
  match i.holds below place && below != 0, i.holds (below + 1) place with
  | false, false => none
  | true, false => some below
  | false, true => some (below + 1)
  | true, true =>
    if 2 * rest < up || (2 * rest == up && below % 2 == 0) then some below else some (below + 1)

/-- How many digits the value has before the point; for a value below one, minus the zeros that
follow the point. -/
def Interval.magnitude (i : Interval) : Int :=
  if i.unit ≤ i.value then ((Nat.toDigits 10 (i.value / i.unit)).length : Int)
  else
    let zeros : Option Nat := (List.range 400).find? fun z => i.unit ≤ i.value * 10 ^ (z + 1)
    Int.neg (zeros.getD 0)

/-- Significant digits without zeros at the end, and the place of the point: the decimal is
`0.d₁d₂… · 10 ^ point`. -/
structure Digits where
  digits : List Char
  point : Int
  deriving DecidableEq, Repr

/-- The first grid with a point inside the interval, from one digit up. -/
def Interval.shortest (i : Interval) : Digits :=
  let top := i.magnitude
  let grid (n : Nat) : Int := top - (n + 1 : Nat)
  let hit := (List.range 17).findSome? fun n => (i.pick (grid n)).map fun c => (c, grid n)
  match hit with
  | none => ⟨['0'], 1⟩
  | some (count, place) =>
    let all := Nat.toDigits 10 count
    let kept := (all.reverse.dropWhile (· == '0')).reverse
    ⟨kept, place + all.length⟩

/-- The shortest digits of a finite double that is not zero. -/
def Binary.shortest (b : Binary) : Digits := b.interval.shortest

end ImageWorker.Decimal
