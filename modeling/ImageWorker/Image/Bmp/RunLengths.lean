import ImageWorker.Image.Octets

/-!
# Run lengths of bitmaps

The pixels of a palette can be written as orders to a pen that begins in the lower left corner: to
draw so many pixels of one place in the palette, to draw places that are listed, or to move on. What
the pen passes over stays empty.
-/

namespace ImageWorker.Bmp

/-- How many bits a place in the palette takes in an order. -/
inductive PlaceSize where
  | four
  | eight
  deriving DecidableEq, Repr

def PlaceSize.places (size : PlaceSize) (o : Octets) : List UInt8 :=
  match size with
  | four => o.toList.flatMap fun (b : UInt8) => [b >>> 4, b &&& 15]
  | eight => o.toList

/-- How many octets hold so many places, filled up to an even number. -/
def PlaceSize.octets (size : PlaceSize) (count : Nat) : Nat :=
  let filled := match size with
    | four => (count + 1) / 2
    | eight => count
  filled + filled % 2

inductive PenOrder where
  /-- Draw places over and over until there are so many pixels. -/
  | repeated (count : Nat) (places : List UInt8)
  /-- Draw these places. -/
  | listed (places : List UInt8)
  /-- Go to the beginning of the next row. -/
  | nextRow
  | stop
  /-- Go on by columns and rows. -/
  | move (columns rows : Nat)
  deriving DecidableEq, Repr

def PenOrder.read (size : PlaceSize) (o : Octets) (pos : Nat) :
    Except DecodeFault (PenOrder × Nat) := do
  let count ← o.octet pos
  let next ← o.octet (pos + 1)
  if 0 < count then return (.repeated count (size.places #[UInt8.ofNat next]), pos + 2)
  else
    match next with
    | 0 => return (.nextRow, pos + 2)
    | 1 => return (.stop, pos + 2)
    | 2 => return (.move (← o.octet (pos + 2)) (← o.octet (pos + 3)), pos + 4)
    | count =>
      let held ← o.slice (pos + 2) (size.octets count)
      return (.listed ((size.places held).take count), pos + 2 + size.octets count)

/-- The pen: where it stands, and what it has drawn in the rows from the lowest up. -/
structure Pen where
  width : Nat
  height : Nat
  column : Nat
  row : Nat
  drawn : Array (Option UInt8)

namespace Pen

def start (width height : Nat) : Pen := ⟨width, height, 0, 0, Array.replicate (width * height) none⟩

/-- Draws places as far as the row goes. -/
def draw (p : Pen) (places : List UInt8) : Pen :=
  let fit := places.take (p.width - p.column)
  let first := p.row * p.width + p.column
  { p with
    column := p.column + fit.length
    drawn := (fit.zipIdx first).foldl (fun drawn (place, i) => drawn.set! i (some place)) p.drawn }

/-- So many places, taken over and over from a list. -/
def cycled (places : List UInt8) (count : Nat) : List UInt8 :=
  (List.range count).filterMap fun i => places[i % places.length]?

/-- Carries out an order, and says whether the pen goes on. A repetition that does not fit the row
goes to the next one, and a list that does not fit it is the last order. -/
def obey (p : Pen) : PenOrder → Except DecodeFault (Pen × Bool)
  | .repeated count places =>
    let q := p.draw (cycled places count)
    .ok (if p.width < p.column + count then { q with column := 0, row := q.row + 1 } else q, true)
  | .listed places => .ok (p.draw places, decide (p.column + places.length ≤ p.width))
  | .nextRow => .ok ({ p with column := 0, row := p.row + 1 }, true)
  | .stop => .ok (p, false)
  | .move columns rows =>
    if p.height ≤ p.row + rows || p.width < p.column + columns then
      .error (.malformed "Bmp" "Corrupt RLE data")
    else .ok ({ p with column := p.column + columns, row := p.row + rows }, true)

/-- Carries out the orders from a position on. Above the last row nothing is read. -/
def follow (size : PlaceSize) (o : Octets) : (fuel pos : Nat) → Pen → Except DecodeFault Pen
  | 0, _, _ => .error .truncated
  | fuel + 1, pos, p =>
    if p.height ≤ p.row then .ok p
    else do
      let (order, pos) ← PenOrder.read size o pos
      let (p, more) ← p.obey order
      if more then follow size o fuel pos p else return p

/-- What the pen has drawn in a column of a row. -/
def at? (p : Pen) (column row : Nat) : Option UInt8 := (p.drawn[row * p.width + column]?).join

end Pen

end ImageWorker.Bmp
