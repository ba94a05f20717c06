import ImageWorker.Failure.ErrorClass

/-!
# Why an image cannot be transformed

The source cannot be decoded, it is in a format that is only recognised, or the result cannot be
written in the format it should have. Each depends on the bytes alone.
-/

namespace ImageWorker

inductive MediaError where
  | decode (why : String)
  | unsupportedFormat (format : String)
  | encode (format : String) (why : String)
  deriving DecidableEq, Repr

namespace MediaError

def message : MediaError → String
  | decode why => "Failed to decode image: " ++ why
  | unsupportedFormat format => "Unsupported original format for re-encoding: " ++ format
  | encode format why => "Failed to encode " ++ format ++ " image: " ++ why

/-- The same bytes fail again. -/
def errorClass (_ : MediaError) : ErrorClass := .permanent

end MediaError

end ImageWorker
