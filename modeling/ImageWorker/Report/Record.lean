import ImageWorker.Json.Codec
import ImageWorker.Report.Log

/-!
# Log records

For programs that read the log, a line is one JSON object. Its text is a field like the named
values.
-/

namespace ImageWorker

def writtenObject (members : List (String × Bytes)) : Bytes :=
  0x7B :: ([0x2C].intercalate (members.map fun (name, v) => Json.writeText name ++ 0x3A :: v) ++
    [0x7D])

def LogLine.record (l : LogLine) : Bytes :=
  writtenObject
    [("level", Json.writeText l.level.name),
      ("fields", writtenObject
        (("message", Json.writeText l.text) :: l.fields.map fun (k, v) => (k, Json.writeText v))),
      ("target", Json.writeText l.part.name)]

end ImageWorker
