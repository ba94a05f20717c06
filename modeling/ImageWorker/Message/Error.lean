import ImageWorker.Failure.ErrorClass
import ImageWorker.Json.Error

/-!
# Why a message is refused

A message is refused because its body is not a job, or because the transformation it asks for is
unknown, unsupported or has bad parameters. None of these can be mended by another attempt.
-/

namespace ImageWorker

inductive Malformation where
  | json (cause : Json.Error)
  | emptyId
  | emptySourceKey
  | other (reason : String)
  deriving DecidableEq, Repr

def Malformation.message : Malformation → String
  | json cause => "failed to parse job envelope: " ++ cause.message
  | emptyId => "job id is empty"
  | emptySourceKey => "s3RawKey is empty"
  | other reason => reason

/-- The largest side that a resized image may have. -/
def maxOutputDimension : Nat := 10000

inductive ParameterFault where
  | json (cause : Json.Error)
  | notPositive (side : String) (value : Int)
  | tooLarge (side : String) (value : Int)
  | other (reason : String)
  deriving DecidableEq, Repr

def ParameterFault.message : ParameterFault → String
  | json cause => cause.message
  | notPositive side value => side ++ " must be positive, got " ++ toString value
  | tooLarge side value =>
    side ++ " " ++ toString value ++ " exceeds the " ++ toString maxOutputDimension ++
      " pixel limit"
  | other reason => reason

inductive MessageError where
  | malformed (why : Malformation)
  | unknownTransformation (name : String)
  | invalidParameters (transformation : String) (why : ParameterFault)
  | unsupportedRotation (degrees : Int)
  | unsupportedFormat (name : String)
  deriving DecidableEq, Repr

namespace MessageError

def message : MessageError → String
  | malformed why => "Malformed message: " ++ why.message
  | unknownTransformation name => "Unsupported transformation type: " ++ name
  | invalidParameters transformation why =>
    "Invalid " ++ transformation ++ " parameters: " ++ why.message
  | unsupportedRotation degrees =>
    "Unsupported angle: " ++ toString degrees ++ ". Only 0, 90, 180, 270 supported"
  | unsupportedFormat name => "Unsupported format: " ++ name

/-- The same bytes are refused again. -/
def errorClass (_ : MessageError) : ErrorClass := .permanent

end MessageError

end ImageWorker
