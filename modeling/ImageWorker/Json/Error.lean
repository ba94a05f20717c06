import ImageWorker.Text.Quoted

/-!
# Why a JSON text is refused

Either the text breaks the grammar, or it is well formed so far and does not have the shape that
the reader expects. The wording of each cause is in one place.
-/

namespace ImageWorker.Json

/-- What stood where something else was expected. -/
inductive Found where
  | null
  | bool (b : Bool)
  | integer (n : Int)
  /-- A number with a fraction or an exponent, or beyond 64 bits, as it is shown. -/
  | float (shown : String)
  | text (s : String)
  | list
  | object
  deriving DecidableEq, Repr

/-- A cause for refusing a JSON text. -/
inductive Error where
  | endInValue
  | endInList
  | endInString
  | endInObject
  | expectedValue
  | expectedWord
  | expectedColon
  | expectedListSeparator
  | expectedObjectSeparator
  | keyNotString
  | trailingComma
  | trailingCharacters
  | invalidNumber
  | numberOutOfRange
  | invalidEscape
  | unfinishedSurrogatePair
  | loneSurrogate
  | notUnicode
  | controlCharacter
  | tooDeep
  | missingField (name : String)
  | duplicateField (name : String)
  | wrongType (found : Found) (expected : String)
  | wrongInteger (n : Int) (expected : String)
  | wrongLength (n : Nat) (expected : String)
  | unknownVariant (found : String) (known : List String)
  deriving DecidableEq, Repr

def Found.message : Found → String
  | .null => "null"
  | .bool b => "boolean \x60" ++ (if b then "true" else "false") ++ "\x60"
  | .integer n => "integer \x60" ++ toString n ++ "\x60"
  | .float shown => "floating point \x60" ++ shown ++ "\x60"
  | .text s => "string " ++ quoted s
  | .list => "sequence"
  | .object => "map"

/-- A name between grave accents. -/
def ticked (s : String) : String := "\x60" ++ s ++ "\x60"

def Error.message : Error → String
  | .endInValue => "EOF while parsing a value"
  | .endInList => "EOF while parsing a list"
  | .endInString => "EOF while parsing a string"
  | .endInObject => "EOF while parsing an object"
  | .expectedValue => "expected value"
  | .expectedWord => "expected ident"
  | .expectedColon => "expected " ++ ticked ":"
  | .expectedListSeparator => "expected " ++ ticked "," ++ " or " ++ ticked "]"
  | .expectedObjectSeparator => "expected " ++ ticked "," ++ " or " ++ ticked "\x7d"
  | .keyNotString => "key must be a string"
  | .trailingComma => "trailing comma"
  | .trailingCharacters => "trailing characters"
  | .invalidNumber => "invalid number"
  | .numberOutOfRange => "number out of range"
  | .invalidEscape => "invalid escape"
  | .unfinishedSurrogatePair => "unexpected end of hex escape"
  | .loneSurrogate => "lone leading surrogate in hex escape"
  | .notUnicode => "invalid unicode code point"
  | .controlCharacter => "control character (\\u0000-\\u001F) found while parsing a string"
  | .tooDeep => "recursion limit exceeded"
  | .missingField name => "missing field " ++ ticked name
  | .duplicateField name => "duplicate field " ++ ticked name
  | .wrongType found expected => "invalid type: " ++ found.message ++ ", expected " ++ expected
  | .wrongInteger n expected =>
    "invalid value: integer " ++ ticked (toString n) ++ ", expected " ++ expected
  | .wrongLength n expected => "invalid length " ++ toString n ++ ", expected " ++ expected
  | .unknownVariant found known =>
    "unknown variant " ++ ticked found ++ ", expected " ++
      match known with
      | [] => "nothing"
      | [one] => ticked one
      | many => "one of " ++ ", ".intercalate (many.map ticked)

end ImageWorker.Json
