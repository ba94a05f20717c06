import ImageWorker.Disk.Path
import ImageWorker.Failure.KeyFault
import ImageWorker.Message.Transformation

/-!
# Where results are stored

A result is stored under the last segment of the source key; a conversion replaces the last
extension of that name.
-/

namespace ImageWorker

/-- The first segment of every result's key. -/
def processedFolder : String := "processed"

/-- A file name up to its last dot; nothing when there is no dot or nothing before it. -/
def stem? (name : String) : Option String :=
  match name.toList.reverse.dropWhile (· ≠ '.') with
  | _ :: c :: r => some (String.ofList (c :: r).reverse)
  | _ => none

/-- The last segment of a source key, if there is another before it and it can name a file. -/
def fileNameOf (sourceKey : String) : Except KeyFault String :=
  let parts := segments sourceKey
  if parts.length < 2 then .error (.noDirectory sourceKey)
  else
    let name := parts.getLastD ""
    if name = "" || name = "." || name = ".." then .error (.noFileName sourceKey)
    else .ok name

/-- The key under which the result of a transformation is stored. -/
def destinationKey (sourceKey : String) (t : Transformation) : Except KeyFault String :=
  match fileNameOf sourceKey with
  | .error e => .error e
  | .ok name =>
    match t.targetFormat? with
    | none => .ok (processedFolder ++ "/" ++ name)
    | some format =>
      match stem? name with
      | none => .error (.noExtension sourceKey)
      | some stem => .ok (processedFolder ++ "/" ++ stem ++ "." ++ format.extension)

end ImageWorker
