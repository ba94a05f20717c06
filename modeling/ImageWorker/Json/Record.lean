import ImageWorker.Json.Codec

/-!
# Records

A record is written as an object with its fields in declaration order. It is read from an object
in any order, where an unknown member is passed over, a repeated one is an error as soon as its
name is met and missing ones are looked for at the closing brace; or from a list of the values in
declaration order, whose end may leave out fields that may be missing.
-/

namespace ImageWorker.Json

/-- The fields of a record with their codecs; the record is the tuple of its fields. -/
inductive Fields : Type → Type 1 where
  | nil : Fields Unit
  | cons {α β : Type} (name : String) (codec : Codec α) (rest : Fields β) : Fields (α × β)

namespace Fields

def size : {ρ : Type} → Fields ρ → Nat
  | _, nil => 0
  | _, cons _ _ rest => rest.size + 1

/-- The names in declaration order. -/
def names : {ρ : Type} → Fields ρ → List String
  | _, nil => []
  | _, cons name _ rest => name :: rest.names

/-- A record of which some fields have not been met yet. -/
def Draft : {ρ : Type} → Fields ρ → Type
  | _, nil => Unit
  | _, @cons α _ _ _ rest => Option α × rest.Draft

/-- The record of which no field has been met. -/
def blank : {ρ : Type} → (fs : Fields ρ) → fs.Draft
  | _, nil => ()
  | _, cons _ _ rest => (none, rest.blank)

/-- Reads the value of the member `key`, from after its name. -/
def readMember : {ρ : Type} → (fs : Fields ρ) → (key : String) → fs.Draft → Scanner fs.Draft
  | _, nil, _, d => fun s =>
    match colon s with
    | .error e => .error e
    | .ok s =>
      match skipAny s with
      | .error e => .error e
      | .ok s => .ok (d, s)
  | _, cons name codec rest, key, d => fun s =>
    if key = name then
      if d.1.isSome then .error (.duplicateField name)
      else
        match colon s with
        | .error e => .error e
        | .ok s =>
          match codec.read s with
          | .error e => .error e
          | .ok (v, s) => .ok ((some v, d.2), s)
    else
      match rest.readMember key d.2 s with
      | .error e => .error e
      | .ok (d', s) => .ok ((d.1, d'), s)

/-- The record, once the closing brace is met. -/
def complete : {ρ : Type} → (fs : Fields ρ) → fs.Draft → Except Error ρ
  | _, nil, _ => .ok ()
  | _, cons name codec rest, d =>
    match d.1.or codec.absent with
    | none => .error (.missingField name)
    | some v =>
      match rest.complete d.2 with
      | .error e => .error e
      | .ok vs => .ok (v, vs)

/-- What comes next in a record. -/
inductive Turn where
  /-- Another item, which starts here. -/
  | item (s : Bytes)
  /-- The closing bracket, and the octets after it. -/
  | closed (s : Bytes)

/-- The next member, from after the opening quote of its name, or the closing brace. -/
def nextMember (first : Bool) (s : Bytes) : Except Error Turn :=
  match skipSpace s with
  | [] => .error .endInObject
  | b :: r =>
    if b == 0x7D then .ok (.closed r)
    else if first then
      if b == 0x22 then .ok (.item r) else .error .keyNotString
    else if b == 0x2C then
      match skipSpace r with
      | [] => .error .endInValue
      | b' :: r' =>
        if b' == 0x22 then .ok (.item r')
        else if b' == 0x7D then .error .trailingComma
        else .error .keyNotString
    else .error .expectedObjectSeparator

/-- Reads the members up to the closing brace. Each takes at least one octet, so the number of
octets bounds the steps. -/
def readMembers {ρ : Type} (fs : Fields ρ) : Nat → Bool → fs.Draft → Scanner fs.Draft
  | 0, _, _, _ => .error .endInObject
  | fuel + 1, first, d, s =>
    match nextMember first s with
    | .error e => .error e
    | .ok (.closed rest) => .ok (d, rest)
    | .ok (.item r) =>
      match string r with
      | .error e => .error e
      | .ok (key, r) =>
        match fs.readMember key d r with
        | .error e => .error e
        | .ok (d, r) => readMembers fs fuel false d r

def nextElement (first : Bool) (s : Bytes) : Except Error Turn :=
  match skipSpace s with
  | [] => .error .endInList
  | b :: r =>
    if b == 0x5D then .ok (.closed r)
    else if first then .ok (.item (b :: r))
    else if b == 0x2C then
      match skipSpace r with
      | [] => .error .endInValue
      | b' :: r' => if b' == 0x5D then .error .trailingComma else .ok (.item (b' :: r'))
    else .error .expectedListSeparator

/-- Reads the fields as elements of a list; the closing bracket is left. -/
def readElements (expected : String) :
    {ρ : Type} → Fields ρ → (index : Nat) → (first : Bool) → Scanner ρ
  | _, nil, _, _ => fun s => .ok ((), s)
  | _, cons _ codec rest, index, first => fun s =>
    match nextElement first s with
    | .error e => .error e
    | .ok (.item r) =>
      match codec.read r with
      | .error e => .error e
      | .ok (v, r) =>
        match readElements expected rest (index + 1) false r with
        | .error e => .error e
        | .ok (vs, r) => .ok ((v, vs), r)
    | .ok (.closed _) =>
      match codec.absent with
      | none => .error (.wrongLength index expected)
      | some v =>
        match readElements expected rest (index + 1) first s with
        | .error e => .error e
        | .ok (vs, r) => .ok ((v, vs), r)

/-- The octets after the closing bracket. -/
def endElements (s : Bytes) : Except Error Bytes :=
  match skipSpace s with
  | [] => .error .endInList
  | b :: r =>
    if b == 0x5D then .ok r
    else if b == 0x2C then
      match skipSpace r with
      | 0x5D :: _ => .error .trailingComma
      | _ => .error .trailingCharacters
    else .error .trailingCharacters

/-- The members from the first value to the closing brace; `lead` stands before each name. -/
def writeMembers : {ρ : Type} → Fields ρ → (lead : Bytes) → ρ → Bytes
  | _, nil, _, _ => [0x7D]
  | _, cons name codec rest, lead, v =>
    lead ++ writeText name ++ [0x3A] ++ codec.write v.1 ++ rest.writeMembers [0x2C] v.2

/-- How an error names the list form. -/
def elementsExpected {ρ : Type} (name : String) (fs : Fields ρ) : String :=
  "struct " ++ name ++ " with " ++ toString fs.size ++
    (if fs.size == 1 then " element" else " elements")

/-- Reads a record from an object or from a list. -/
def read {ρ : Type} (name : String) (fs : Fields ρ) : Scanner ρ := fun s =>
  match skipSpace s with
  | [] => .error .endInValue
  | b :: r =>
    if b == 0x7B then
      match fs.readMembers (r.length + 1) true fs.blank r with
      | .error e => .error e
      | .ok (d, rest) =>
        match fs.complete d with
        | .error e => .error e
        | .ok v => .ok (v, rest)
    else if b == 0x5B then
      match fs.readElements (elementsExpected name fs) 0 true r with
      | .error e => .error e
      | .ok (v, rest) =>
        match endElements rest with
        | .error e => .error e
        | .ok rest => .ok (v, rest)
    else wrongType ("struct " ++ name) (b :: r)

end Fields

def Codec.record {ρ : Type} (name : String) (fs : Fields ρ) : Codec ρ where
  expected := "struct " ++ name
  read := fs.read name
  write v := 0x7B :: fs.writeMembers [] v
  absent := none

end ImageWorker.Json
