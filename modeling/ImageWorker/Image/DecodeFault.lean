/-!
# Why an image cannot be read
-/

namespace ImageWorker

/-- A reason why octets are no image. -/
inductive DecodeFault where
  /-- They begin like no known format. -/
  | unknownFormat
  /-- They end too early. -/
  | truncated
  /-- Their pixels would take too much space. -/
  | tooLarge
  /-- They break a rule of their format. -/
  | malformed (format : String) (what : String)
  deriving DecidableEq, Repr

def DecodeFault.message : DecodeFault → String
  | unknownFormat => "The image format could not be determined"
  | truncated => "unexpected end of file"
  | tooLarge => "Memory limit exceeded"
  | malformed format what => "Format error decoding " ++ format ++ ": " ++ what

end ImageWorker
