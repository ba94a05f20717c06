import ImageWorker.Json.Number

/-!
# Passing over a value

The value of an unknown member is not looked at. It still has to be well formed, at any depth; its
strings need not be Unicode and its numbers have no range. The open lists and objects around the
current place are kept as a stack.
-/

namespace ImageWorker.Json

/-- A list or an object that is still open. -/
inductive Frame where
  | list
  | object
  deriving DecidableEq, Repr

def Frame.close : Frame → UInt8
  | .list => 0x5D
  | .object => 0x7D

/-- What is missing when the text ends inside a frame. -/
def Frame.unfinished : Frame → Error
  | .list => .endInList
  | .object => .endInObject

/-- What is missing when a value in a frame is followed by something else. -/
def Frame.separator : Frame → Error
  | .list => .expectedListSeparator
  | .object => .expectedObjectSeparator

/-- The octets from the next value of a frame on: in an object its name and the colon are passed
over first. -/
def Frame.nextValue (frame : Frame) (s : Bytes) : Except Error Bytes :=
  match frame with
  | .list => .ok s
  | .object =>
    match skipSpace s with
    | [] => .error .endInObject
    | b :: r =>
      if b == 0x22 then
        match skipString r with
        | .ok r => colon r
        | .error e => .error e
      else .error .keyNotString

/-- The octets after a value that is neither a list nor an object. -/
def skipScalar (b : UInt8) (r : Bytes) : Except Error Bytes :=
  if b == 0x6E then (word [0x75, 0x6C, 0x6C] r).map (·.2)
  else if b == 0x74 then (word [0x72, 0x75, 0x65] r).map (·.2)
  else if b == 0x66 then (word [0x61, 0x6C, 0x73, 0x65] r).map (·.2)
  else if b == 0x2D then skipNumber r
  else if isDigit b then skipNumber (b :: r)
  else if b == 0x22 then skipString r
  else .error .expectedValue

def Frame.ofOpening? (b : UInt8) : Option Frame :=
  if b == 0x5B then some .list else if b == 0x7B then some .object else none

mutual

/-- Passes over a value and over the rest of the frames around it. Each step takes at least one
octet, so the number of octets bounds the steps. -/
def skipValue : Nat → List Frame → Bytes → Except Error Bytes
  | 0, _, _ => .error .endInValue
  | fuel + 1, frames, s =>
    match skipSpace s with
    | [] => .error .endInValue
    | b :: r =>
      match Frame.ofOpening? b with
      | some frame =>
        match skipSpace r with
        | [] => .error frame.unfinished
        | b' :: r' =>
          if b' == frame.close then skipAfter fuel frames r'
          else
            match frame.nextValue (b' :: r') with
            | .ok r => skipValue fuel (frame :: frames) r
            | .error e => .error e
      | none =>
        match skipScalar b r with
        | .ok r => skipAfter fuel frames r
        | .error e => .error e

/-- Passes over what follows a value in the frames around it. -/
def skipAfter : Nat → List Frame → Bytes → Except Error Bytes
  | _, [], s => .ok s
  | 0, frame :: _, _ => .error frame.unfinished
  | fuel + 1, frame :: frames, s =>
    match skipSpace s with
    | [] => .error frame.unfinished
    | b :: r =>
      if b == 0x2C then
        match frame.nextValue r with
        | .ok r => skipValue fuel (frame :: frames) r
        | .error e => .error e
      else if b == frame.close then skipAfter fuel frames r
      else .error frame.separator

end

def skipAny (s : Bytes) : Except Error Bytes := skipValue (s.length + 1) [] s

end ImageWorker.Json
