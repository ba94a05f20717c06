import ImageWorker.Decimal.Shortest
import ImageWorker.Json.Scanner

/-!
# Numbers in a JSON text

A number without fraction and exponent that fits 64 bits is an integer; any other is a double,
and so is a negative zero. A double is computed from the digits that fit 64 bits, scaled once by a
power of ten, and is refused when that exceeds the largest double. A number whose value does not
matter is only checked for its form, so it has no range.
-/

namespace ImageWorker.Json

inductive Number where
  | integer (n : Int)
  | float (x : Float)

/-- The digits at the front, and the octets after them. -/
def digits (s : Bytes) : List Nat × Bytes :=
  ((s.takeWhile isDigit).map fun b => b.toNat - 0x30, s.dropWhile isDigit)

/-- Appends digits to a number as long as it stays below `2 ^ 64`; also gives the digits that were
not taken. -/
def appendDigits : Nat → List Nat → Nat × List Nat
  | n, [] => (n, [])
  | n, d :: ds => if n * 10 + d < 2 ^ 64 then appendDigits (n * 10 + d) ds else (n, d :: ds)

/-- A number written in decimal digits. -/
def ofDigits (ds : List Nat) : Nat := ds.foldl (fun n d => n * 10 + d) 0

/-- A power of ten as a double; exact up to the twenty-second, else the nearest. -/
@[irreducible] def powerOfTen (e : Nat) : Float := Float.ofScientific 1 false e

/-- `x / 10 ^ e`, dividing by at most `10 ^ 308` at a time. -/
def scaleDown (x : Float) (e : Nat) : Float :=
  if 308 < e then
    if x == 0.0 then x else scaleDown (x / powerOfTen 308) (e - 308)
  else x / powerOfTen e
termination_by e
decreasing_by omega

/-- `n · 10 ^ e` as a double; nothing when that is too large. -/
def scaled (n : Nat) (e : Int) : Option Float :=
  let x := n.toUInt64.toFloat
  if e < 0 then some (scaleDown x (-e).toNat)
  else if 308 < e then if n == 0 then some 0.0 else none
  else
    let y := x * powerOfTen e.toNat
    if y.isInf then none else some y

def signed (negative : Bool) (n : Nat) (e : Int) (rest : Bytes) : Except Error (Number × Bytes) :=
  match scaled n e with
  | none => .error .numberOutOfRange
  | some x => .ok (.float (if negative then -x else x), rest)

def exponent (negative : Bool) (n : Nat) (e : Int) (s : Bytes) : Except Error (Number × Bytes) :=
  let (down, s) := match s with
    | 0x2B :: r => (false, r)
    | 0x2D :: r => (true, r)
    | s => (false, s)
  match digits s with
  | ([], []) => .error .endInValue
  | ([], _ :: _) => .error .invalidNumber
  | (ds, rest) => signed negative n (if down then e - ofDigits ds else e + ofDigits ds) rest

def fraction (negative : Bool) (n : Nat) (e : Int) (s : Bytes) : Except Error (Number × Bytes) :=
  match digits s with
  | ([], []) => .error .endInValue
  | ([], _ :: _) => .error .invalidNumber
  | (ds, rest) =>
    let (m, dropped) := appendDigits n ds
    let e' := e - (ds.length - dropped.length : Nat)
    match rest with
    | 0x65 :: r => exponent negative m e' r
    | 0x45 :: r => exponent negative m e' r
    | _ => signed negative m e' rest

def number (negative : Bool) (s : Bytes) : Except Error (Number × Bytes) :=
  match digits s with
  | ([], []) => .error .endInValue
  | ([], _ :: _) => .error .invalidNumber
  | (0 :: _ :: _, _) => .error .invalidNumber
  | (ds, rest) =>
    let (n, dropped) := appendDigits 0 ds
    match rest with
    | 0x2E :: r => fraction negative n dropped.length r
    | 0x65 :: r => exponent negative n dropped.length r
    | 0x45 :: r => exponent negative n dropped.length r
    | _ =>
      if dropped.isEmpty && !negative then .ok (.integer n, rest)
      else if dropped.isEmpty && decide (0 < n) && decide (n ≤ 2 ^ 63) then .ok (.integer (-n), rest)
      else signed negative n dropped.length rest

/-- The octets after the exponent of a number whose value does not matter. -/
def skipExponent (s : Bytes) : Except Error Bytes :=
  let s := match s with
    | 0x2B :: r => r
    | 0x2D :: r => r
    | s => s
  match digits s with
  | ([], _) => .error .invalidNumber
  | (_, rest) => .ok rest

/-- The octets after a number whose value does not matter, from after its sign. -/
def skipNumber (s : Bytes) : Except Error Bytes :=
  match digits s with
  | ([], _) => .error .invalidNumber
  | (0 :: _ :: _, _) => .error .invalidNumber
  | (_, rest) =>
    match rest with
    | 0x2E :: r =>
      match digits r with
      | ([], _) => .error .invalidNumber
      | (_, rest) =>
        match rest with
        | 0x65 :: r => skipExponent r
        | 0x45 :: r => skipExponent r
        | _ => .ok rest
    | 0x65 :: r => skipExponent r
    | 0x45 :: r => skipExponent r
    | _ => .ok rest

/-- A double as a message shows it: positional from a hundred-thousandth up to below `10 ^ 16`,
always with a fraction, otherwise with a signed exponent. -/
def floatText (x : Float) : String :=
  let b := Decimal.Binary.ofBits x.toBits.toNat
  let sign := if b.negative then "-" else ""
  if b.significand == 0 then sign ++ "0.0"
  else
    let d := b.shortest
    let count : Int := d.digits.length
    let zeros (n : Int) := List.replicate n.toNat '0'
    let body : List Char :=
      if 0 < d.point && d.point ≤ 16 then
        if count ≤ d.point then d.digits ++ zeros (d.point - count) ++ ['.', '0']
        else d.digits.take d.point.toNat ++ ['.'] ++ d.digits.drop d.point.toNat
      else if -5 < d.point && d.point ≤ 0 then ['0', '.'] ++ zeros (-d.point) ++ d.digits
      else
        let e := d.point - 1
        let mantissa := if count == 1 then d.digits else d.digits.take 1 ++ ['.'] ++ d.digits.drop 1
        mantissa ++ ['e', if e < 0 then '-' else '+'] ++ (toString e.natAbs).toList
    sign ++ String.ofList body

def Number.found : Number → Found
  | .integer n => .integer n
  | .float x => .float (floatText x)

end ImageWorker.Json
