/-!
# Prefix codes

A canonical prefix code is given by how many codewords there are of each length and by the symbols
in the order of their codewords. The codewords of one length follow each other as binary numbers,
and each length goes on where the one before it ended.
-/

namespace ImageWorker

structure PrefixCode where
  /-- How many codewords there are of length one, two, and so on. -/
  counts : List Nat
  symbols : Array Nat
  deriving Repr

namespace PrefixCode

/-- How many codewords of the next lengths can be formed at most when `room` of the present length
are free; nothing when there are more codewords than that. -/
def free? : (room : Nat) → List Nat → Option Nat
  | room, [] => some room
  | room, count :: rest => if 2 * room < count then none else free? (2 * room - count) rest

/-- The code in which each symbol has a codeword of a given length, or none for length zero. -/
def ofLengths? (maxLength : Nat) (lengths : List Nat) : Option PrefixCode :=
  let sizes := (List.range maxLength).map (· + 1)
  let counts := sizes.map fun n => lengths.count n
  match free? 1 counts with
  | none => none
  | some _ =>
    let symbols := sizes.flatMap fun n =>
      (lengths.zipIdx.filter (·.1 == n)).map (·.2)
    some ⟨counts, symbols.toArray⟩

variable {σ : Type}

/-- Reads a codeword bit by bit; `first` is the first codeword of the present length. -/
def decodeFrom (bit : σ → Option (Nat × σ)) (symbols : Array Nat) :
    List Nat → (code first index : Nat) → σ → Option (Nat × σ)
  | [], _, _, _, _ => none
  | count :: rest, code, first, index, s =>
    match bit s with
    | none => none
    | some (b, s) =>
      let code := code + b
      if code < first + count then (symbols[index + (code - first)]?).map (·, s)
      else decodeFrom bit symbols rest (2 * code) (2 * (first + count)) (index + count) s

def decode (c : PrefixCode) (bit : σ → Option (Nat × σ)) (s : σ) : Option (Nat × σ) :=
  decodeFrom bit c.symbols c.counts 0 0 0 s

end PrefixCode

end ImageWorker
