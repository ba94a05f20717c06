import ImageWorker.Json.Record

/-!
# Values of any shape

A reader for JSON texts of which no shape is expected. Strings have to be Unicode and numbers in
range, and lists and objects may be nested to a fixed depth.
-/

namespace ImageWorker.Json

/-- A JSON value. A number that is no 64-bit integer is known by its text only. -/
inductive Value where
  | null
  | bool (b : Bool)
  | integer (n : Int)
  | float (shown : String)
  | text (s : String)
  | list (items : List Value)
  | object (members : List (String × Value))

namespace Value

/-- How deep lists and objects may be nested. -/
def maxDepth : Nat := 127

def ofNumber : Number → Value
  | .integer n => .integer n
  | .float x => .float (floatText x)

/-- Reads a value that is neither a list nor an object. -/
def readScalar (b : UInt8) (r : Bytes) : Except Error (Value × Bytes) :=
  if b == 0x6E then (word [0x75, 0x6C, 0x6C] r).map fun (_, s) => (null, s)
  else if b == 0x74 then (word [0x72, 0x75, 0x65] r).map fun (_, s) => (bool true, s)
  else if b == 0x66 then (word [0x61, 0x6C, 0x73, 0x65] r).map fun (_, s) => (bool false, s)
  else if b == 0x2D then (number true r).map fun (n, s) => (ofNumber n, s)
  else if isDigit b then (number false (b :: r)).map fun (n, s) => (ofNumber n, s)
  else if b == 0x22 then (string r).map fun (t, s) => (text t, s)
  else .error .expectedValue

/-- Reads items with a reader for each of them; `fuel` bounds their number. -/
def readItems (item : Scanner Value) : Nat → Bool → Scanner (List Value)
  | 0, _, _ => .error .endInList
  | fuel + 1, first, s =>
    match Fields.nextElement first s with
    | .error e => .error e
    | .ok (.closed rest) => .ok ([], rest)
    | .ok (.item r) =>
      match item r with
      | .error e => .error e
      | .ok (v, r) => (readItems item fuel false r).map fun (vs, rest) => (v :: vs, rest)

/-- Reads members with a reader for each value; `fuel` bounds their number. -/
def readMembers (item : Scanner Value) : Nat → Bool → Scanner (List (String × Value))
  | 0, _, _ => .error .endInObject
  | fuel + 1, first, s =>
    match Fields.nextMember first s with
    | .error e => .error e
    | .ok (.closed rest) => .ok ([], rest)
    | .ok (.item r) =>
      match string r with
      | .error e => .error e
      | .ok (name, r) =>
        match colon r with
        | .error e => .error e
        | .ok r =>
          match item r with
          | .error e => .error e
          | .ok (v, r) =>
            (readMembers item fuel false r).map fun (vs, rest) => ((name, v) :: vs, rest)

/-- Reads a value with lists and objects nested at most `depth` deep. -/
def readWithin : Nat → Scanner Value
  | depth, s =>
    match skipSpace s with
    | [] => .error .endInValue
    | b :: r =>
      match Frame.ofOpening? b with
      | none => readScalar b r
      | some frame =>
        match depth with
        | 0 => .error .tooDeep
        | depth + 1 =>
          match frame with
          | .list =>
            (readItems (readWithin depth) (r.length + 1) true r).map fun (vs, s) => (list vs, s)
          | .object =>
            (readMembers (readWithin depth) (r.length + 1) true r).map fun (ms, s) => (object ms, s)

/-- The value of a whole text. -/
def parse (s : Bytes) : Except Error Value :=
  match readWithin maxDepth s with
  | .error e => .error e
  | .ok (v, rest) => if (skipSpace rest).isEmpty then .ok v else .error .trailingCharacters

end Value

end ImageWorker.Json
