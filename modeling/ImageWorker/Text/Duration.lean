import ImageWorker.Power

/-!
# Lengths of time

A length of time is a whole number of nanoseconds. It is shown in the largest unit of which it
holds at least one, with the exact decimal fraction.
-/

namespace ImageWorker

structure Duration where
  nanos : Nat
  deriving DecidableEq, Repr

namespace Duration

def ofSeconds (n : Nat) : Duration := ⟨n * 1000000000⟩

def ofMillis (n : Nat) : Duration := ⟨n * 1000000⟩

def seconds (d : Duration) : Nat := d.nanos / 1000000000

def millis (d : Duration) : Nat := d.nanos / 1000000

/-- A number of units with its fraction, which has `places` digits before zeros are cut off. -/
def inUnits (nanos places : Nat) (unit : String) : String :=
  let scale := 10 ^ places
  let digits := Nat.toDigits 10 (nanos % scale)
  let padded := List.replicate (places - digits.length) '0' ++ digits
  let kept := (padded.reverse.dropWhile (· == '0')).reverse
  let fraction := if kept.isEmpty then "" else "." ++ String.ofList kept
  toString (nanos / scale) ++ fraction ++ unit

def text (d : Duration) : String :=
  if 1000000000 ≤ d.nanos then inUnits d.nanos 9 "s"
  else if 1000000 ≤ d.nanos then inUnits d.nanos 6 "ms"
  else if 1000 ≤ d.nanos then inUnits d.nanos 3 "µs"
  else toString d.nanos ++ "ns"

end Duration

end ImageWorker
