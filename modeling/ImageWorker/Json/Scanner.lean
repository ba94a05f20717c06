import ImageWorker.Text.Bytes
import ImageWorker.Json.Error

/-!
# Reading the small parts of a JSON text

A scanner takes the octets that are left and gives a value and the octets after it. This module
holds the parts below values: blanks, words, and strings with their escapes. A string is read
either with its content (escapes resolved, the octets checked to be UTF-8) or only over its
content, which then may hold any octets and any unpaired surrogate.
-/

namespace ImageWorker.Json

/-- Reads a value off the front of the octets that are left. -/
abbrev Scanner (α : Type) := Bytes → Except Error (α × Bytes)

/-- Space, tab, line feed and carriage return separate tokens. -/
def isSpace (b : UInt8) : Bool := b == 0x20 || b == 0x09 || b == 0x0A || b == 0x0D

def skipSpace (s : Bytes) : Bytes := s.dropWhile isSpace

def isDigit (b : UInt8) : Bool := 0x30 ≤ b && b ≤ 0x39

/-- The value of a hexadecimal digit of either case. -/
def hexValue? (b : UInt8) : Option Nat :=
  if 0x30 ≤ b && b ≤ 0x39 then some (b.toNat - 0x30)
  else if 0x41 ≤ b && b ≤ 0x46 then some (b.toNat - 0x37)
  else if 0x61 ≤ b && b ≤ 0x66 then some (b.toNat - 0x57)
  else none

/-- Four hexadecimal digits as a number. -/
def hexValue4? (a b c d : UInt8) : Option Nat :=
  match hexValue? a, hexValue? b, hexValue? c, hexValue? d with
  | some a, some b, some c, some d => some (((a * 16 + b) * 16 + c) * 16 + d)
  | _, _, _, _ => none

/-- The rest of a word such as null, after its first letter. -/
def word : Bytes → Scanner Unit
  | [], s => .ok ((), s)
  | _ :: _, [] => .error .endInValue
  | w :: ws, b :: s => if b == w then word ws s else .error .expectedWord

def shortEscape? (b : UInt8) : Option UInt8 :=
  if b == 0x22 then some 0x22
  else if b == 0x5C then some 0x5C
  else if b == 0x2F then some 0x2F
  else if b == 0x62 then some 0x08
  else if b == 0x66 then some 0x0C
  else if b == 0x6E then some 0x0A
  else if b == 0x72 then some 0x0D
  else if b == 0x74 then some 0x09
  else none

/-- A UTF-16 unit that opens a surrogate pair. -/
def isHighSurrogate (n : Nat) : Bool := 0xD800 ≤ n && n ≤ 0xDBFF

/-- A UTF-16 unit that closes a surrogate pair. -/
def isLowSurrogate (n : Nat) : Bool := 0xDC00 ≤ n && n ≤ 0xDFFF

def codePoint (n : Nat) : Bytes := String.utf8EncodeChar (Char.ofNat n)

/-- The octets of a string after its opening quote, with the escapes resolved. -/
def stringOctets : Scanner Bytes
  | [] => .error .endInString
  | 0x22 :: s => .ok ([], s)
  | 0x5C :: 0x75 :: a :: b :: c :: d :: s =>
    match hexValue4? a b c d with
    | none => .error .invalidEscape
    | some n =>
      if isLowSurrogate n then .error .loneSurrogate
      else if isHighSurrogate n then
        match s with
        | [] => .error .endInString
        | 0x5C :: [] => .error .endInString
        | 0x5C :: 0x75 :: a' :: b' :: c' :: d' :: s' =>
          match hexValue4? a' b' c' d' with
          | none => .error .invalidEscape
          | some m =>
            if isLowSurrogate m then
              match stringOctets s' with
              | .ok (cs, t) => .ok (codePoint (0x10000 + (n - 0xD800) * 0x400 + (m - 0xDC00)) ++ cs, t)
              | .error e => .error e
            else .error .loneSurrogate
        | 0x5C :: 0x75 :: _ => .error .endInString
        | _ => .error .unfinishedSurrogatePair
      else
        match stringOctets s with
        | .ok (cs, t) => .ok (codePoint n ++ cs, t)
        | .error e => .error e
  | 0x5C :: 0x75 :: _ => .error .endInString
  | 0x5C :: [] => .error .endInString
  | 0x5C :: e :: s =>
    match shortEscape? e with
    | none => .error .invalidEscape
    | some b =>
      match stringOctets s with
      | .ok (cs, t) => .ok (b :: cs, t)
      | .error e => .error e
  | b :: s =>
    if b < 0x20 then .error .controlCharacter
    else
      match stringOctets s with
      | .ok (cs, t) => .ok (b :: cs, t)
      | .error e => .error e

def string : Scanner String := fun s =>
  match stringOctets s with
  | .error e => .error e
  | .ok (octets, rest) =>
    match octets.text? with
    | some text => .ok (text, rest)
    | none => .error .notUnicode

/-- The octets after a string whose content does not matter, from after its opening quote. -/
def skipString : Bytes → Except Error Bytes
  | [] => .error .endInString
  | 0x22 :: s => .ok s
  | 0x5C :: 0x75 :: a :: b :: c :: d :: s =>
    match hexValue4? a b c d with
    | none => .error .invalidEscape
    | some _ => skipString s
  | 0x5C :: 0x75 :: _ => .error .endInString
  | 0x5C :: [] => .error .endInString
  | 0x5C :: e :: s =>
    match shortEscape? e with
    | none => .error .invalidEscape
    | some _ => skipString s
  | b :: s => if b < 0x20 then .error .controlCharacter else skipString s

/-- The colon between a member's name and its value. -/
def colon (s : Bytes) : Except Error Bytes :=
  match skipSpace s with
  | [] => .error .endInObject
  | b :: r => if b == 0x3A then .ok r else .error .expectedColon

end ImageWorker.Json
