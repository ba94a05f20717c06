import ImageWorker.Json.Skip

/-!
# Values with a JSON form

A codec says how the values of a type are written and how they are read back. This module has the
codecs of texts, optional texts, bounded integers and named variants, and the two entry points:
writing a value, and reading a whole text that holds one value and nothing after it.
-/

namespace ImageWorker.Json

/-- How the values of a type are written in JSON and read back. -/
structure Codec (α : Type) where
  /-- How an error names the expected value. -/
  expected : String
  read : Scanner α
  write : α → Bytes
  /-- The value that a missing member stands for, if it may be missing. -/
  absent : Option α

/-- The error for a value of the wrong type; the value is read far enough to name it. -/
def wrongType {α : Type} (expected : String) (s : Bytes) : Except Error α :=
  let found (f : Found) : Except Error α := .error (.wrongType f expected)
  match s with
  | [] => .error .endInValue
  | b :: r =>
    if b == 0x6E then
      match word [0x75, 0x6C, 0x6C] r with
      | .ok _ => found .null
      | .error e => .error e
    else if b == 0x74 then
      match word [0x72, 0x75, 0x65] r with
      | .ok _ => found (.bool true)
      | .error e => .error e
    else if b == 0x66 then
      match word [0x61, 0x6C, 0x73, 0x65] r with
      | .ok _ => found (.bool false)
      | .error e => .error e
    else if b == 0x2D then
      match number true r with
      | .ok (n, _) => found n.found
      | .error e => .error e
    else if isDigit b then
      match number false (b :: r) with
      | .ok (n, _) => found n.found
      | .error e => .error e
    else if b == 0x22 then
      match string r with
      | .ok (text, _) => found (.text text)
      | .error e => .error e
    else if b == 0x5B then found .list
    else if b == 0x7B then found .object
    else .error .expectedValue

def readText (expected : String) : Scanner String := fun s =>
  match skipSpace s with
  | [] => .error .endInValue
  | b :: r => if b == 0x22 then string r else wrongType expected (b :: r)

/-- One octet inside a written string. -/
def escaped (b : UInt8) : Bytes :=
  if b == 0x22 then [0x5C, 0x22]
  else if b == 0x5C then [0x5C, 0x5C]
  else if b == 0x08 then [0x5C, 0x62]
  else if b == 0x0C then [0x5C, 0x66]
  else if b == 0x0A then [0x5C, 0x6E]
  else if b == 0x0D then [0x5C, 0x72]
  else if b == 0x09 then [0x5C, 0x74]
  else if b < 0x20 then
    let digit (n : UInt8) : UInt8 := if n < 10 then 0x30 + n else 0x57 + n
    [0x5C, 0x75, 0x30, 0x30, digit (b / 16), digit (b % 16)]
  else [b]

def writeText (s : String) : Bytes := 0x22 :: ((Bytes.ofText s).flatMap escaped ++ [0x22])

def Codec.text : Codec String := ⟨"a string", readText "a string", writeText, none⟩

/-- A text that may be missing and then has a value of its own. -/
def Codec.textOr (absent : String) : Codec String :=
  ⟨"a string", readText "a string", writeText, some absent⟩

/-- Reads null as no value and anything else through another scanner. -/
def readOptional {α : Type} (read : Scanner α) : Scanner (Option α) := fun s =>
  match skipSpace s with
  | 0x6E :: r =>
    match word [0x75, 0x6C, 0x6C] r with
    | .ok (_, rest) => .ok (none, rest)
    | .error e => .error e
  | s =>
    match read s with
    | .ok (v, rest) => .ok (some v, rest)
    | .error e => .error e

def writeNull : Bytes := [0x6E, 0x75, 0x6C, 0x6C]

/-- A text that may be null or missing. -/
def Codec.optionalText : Codec (Option String) where
  expected := "a string"
  read := readOptional (readText "a string")
  write
    | none => writeNull
    | some s => writeText s
  absent := some none

def readInteger (low high : Int) (expected : String) : Scanner Int := fun s =>
  match skipSpace s with
  | [] => .error .endInValue
  | b :: r =>
    let accept : Number × Bytes → Except Error (Int × Bytes)
      | (.float x, _) => .error (.wrongType (.float (floatText x)) expected)
      | (.integer n, rest) =>
        if low ≤ n ∧ n ≤ high then .ok (n, rest) else .error (.wrongInteger n expected)
    if b == 0x2D then
      match number true r with
      | .ok found => accept found
      | .error e => .error e
    else if isDigit b then
      match number false (b :: r) with
      | .ok found => accept found
      | .error e => .error e
    else wrongType expected (b :: r)

/-- An integer in decimal digits. -/
def writeInteger (n : Int) : Bytes := Bytes.ofText (toString n)

/-- A signed 64-bit integer. -/
def Codec.int64 : Codec Int :=
  ⟨"i64", readInteger (-2 ^ 63) (2 ^ 63 - 1) "i64", writeInteger, none⟩

/-- An unsigned 32-bit integer. -/
def Codec.nat32 : Codec Nat where
  expected := "u32"
  read s := (readInteger 0 (2 ^ 32 - 1) "u32" s).map fun (n, rest) => (n.toNat, rest)
  write n := writeInteger n
  absent := none

def variant {α : Type} (all : List (String × α)) (name : String) : Except Error α :=
  match all.find? (·.1 == name) with
  | some (_, v) => .ok v
  | none => .error (.unknownVariant name (all.map (·.1)))

/-- Reads a variant's name, or an object that maps the name to null. -/
def readVariant {α : Type} (all : List (String × α)) : Scanner α := fun s => do
  match skipSpace s with
  | [] => throw .endInValue
  | b :: r =>
    if b == 0x22 then
      let (name, rest) ← string r
      return (← variant all name, rest)
    else if b == 0x7B then
      let (name, rest) ← readText "variant identifier" r
      let v ← variant all name
      let rest ← colon rest
      match skipSpace rest with
      | [] => throw .endInValue
      | 0x6E :: rest =>
        let (_, rest) ← word [0x75, 0x6C, 0x6C] rest
        match skipSpace rest with
        | [] => throw .endInObject
        | 0x7D :: rest => return (v, rest)
        | _ => throw .expectedValue
      | rest => wrongType "unit" rest
    else throw .expectedValue

/-- One of a few named values; `name` gives the name of each, `all` lists them in order. -/
def Codec.variants {α : Type} (all : List α) (name : α → String) : Codec α where
  expected := "a variant"
  read := readVariant (all.map fun v => (name v, v))
  write v := writeText (name v)
  absent := none

/-- Reads a text that holds one value and nothing but blanks after it. -/
def Codec.decode {α : Type} (c : Codec α) (s : Bytes) : Except Error α :=
  match c.read s with
  | .error e => .error e
  | .ok (v, rest) => if (skipSpace rest).isEmpty then .ok v else .error .trailingCharacters

def Codec.encode {α : Type} (c : Codec α) (v : α) : Bytes := c.write v

/-- The same form for a type that carries the same information. -/
def Codec.map {α β : Type} (c : Codec α) (f : α → β) (g : β → α) : Codec β where
  expected := c.expected
  read s :=
    match c.read s with
    | .ok (v, rest) => .ok (f v, rest)
    | .error e => .error e
  write v := c.write (g v)
  absent := c.absent.map f

end ImageWorker.Json
