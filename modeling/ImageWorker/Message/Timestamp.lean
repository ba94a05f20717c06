import ImageWorker.Power

/-!
# Points in time

A job may say when it was created, as a date and a time of day with an offset from UTC (RFC 3339).
A leap second is the second before it with a full second more of nanoseconds.
-/

namespace ImageWorker

structure Timestamp where
  /-- Seconds since the start of 1970, UTC. -/
  seconds : Int
  nanos : Nat
  deriving DecidableEq, Repr

namespace Timestamp

/-- The value of a decimal digit. -/
def digit? (c : Char) : Option Nat := if c.isDigit then some (c.toNat - 48) else none

/-- A fixed number of decimal digits. -/
def number? : Nat → List Char → Option (Nat × List Char)
  | 0, s => some (0, s)
  | n + 1, s =>
    match number? n s with
    | some (v, c :: r) => (digit? c).map fun d => (v * 10 + d, r)
    | _ => none

def char? (c : Char) : List Char → Option (List Char)
  | [] => none
  | d :: r => if c == d then some r else none

def isLeap (year : Nat) : Bool := year % 4 == 0 && (year % 100 != 0 || year % 400 == 0)

def daysInMonth (year month : Nat) : Nat :=
  if month == 2 then if isLeap year then 29 else 28
  else if month == 4 || month == 6 || month == 9 || month == 11 then 30
  else 31

/-- How many days lie between the start of 1970 and a date. -/
def dayNumber (year month day : Nat) : Int :=
  let before : Int := year - 1
  let leapDays := before.fdiv 4 - before.fdiv 100 + before.fdiv 400
  let months := (List.range (month - 1)).foldl (fun n m => n + daysInMonth year (m + 1)) 0
  before * 365 + leapDays + months + (day - 1 : Nat) - 719162

def date? (s : List Char) : Option (Int × List Char) := do
  let (year, s) ← number? 4 s
  let s ← char? '-' s
  let (month, s) ← number? 2 s
  let s ← char? '-' s
  let (day, s) ← number? 2 s
  guard (1 ≤ month ∧ month ≤ 12 ∧ 1 ≤ day ∧ day ≤ daysInMonth year month)
  return (dayNumber year month day, s)

/-- The fraction of a second as nanoseconds; digits beyond the ninth are dropped. -/
def fraction? (s : List Char) : Option (Nat × List Char) :=
  match s with
  | '.' :: r =>
    let ds := (r.takeWhile Char.isDigit).take 9
    if ds.isEmpty then none
    else
      let v := ds.foldl (fun n c => n * 10 + (c.toNat - 48)) 0
      some (v * 10 ^ (9 - ds.length), r.dropWhile Char.isDigit)
  | s => some (0, s)

def timeOfDay? (s : List Char) : Option (Int × Nat × List Char) := do
  let (hour, s) ← number? 2 s
  let s ← char? ':' s
  let (minute, s) ← number? 2 s
  let s ← char? ':' s
  let (second, s) ← number? 2 s
  let (nanos, s) ← fraction? s
  guard (hour ≤ 23 ∧ minute ≤ 59 ∧ second ≤ 60)
  let base : Nat := hour * 3600 + minute * 60
  if second == 60 then return ((base + 59 : Nat), nanos + 1000000000, s)
  else return ((base + second : Nat), nanos, s)

/-- Hours and minutes of an offset, in seconds; it is less than a day. -/
def offsetValue? (s : List Char) : Option (Int × List Char) := do
  let (hours, s) ← number? 2 s
  let s ← char? ':' s
  let (minutes, s) ← number? 2 s
  guard (hours ≤ 23 ∧ minutes ≤ 59)
  return ((hours * 3600 + minutes * 60 : Nat), s)

/-- The offset from UTC in seconds. The minus sign U+2212 counts as a hyphen. -/
def offset? (s : List Char) : Option (Int × List Char) :=
  match s with
  | 'Z' :: r => some (0, r)
  | 'z' :: r => some (0, r)
  | '+' :: r => offsetValue? r
  | '-' :: r => (offsetValue? r).map fun (v, s) => (-v, s)
  | '\u2212' :: r => (offsetValue? r).map fun (v, s) => (-v, s)
  | _ => none

/-- The point in time that a text names; nothing when the text has another form or names no real
date or time. -/
def parse? (text : String) : Option Timestamp := do
  let (day, s) ← date? text.toList
  let s ← match s with
    | 'T' :: r => some r
    | 't' :: r => some r
    | ' ' :: r => some r
    | _ => none
  let (time, nanos, s) ← timeOfDay? s
  let (offset, s) ← offset? s
  guard s.isEmpty
  return ⟨day * 86400 + time - offset, nanos⟩

end Timestamp

end ImageWorker
