import ImageWorker.Disk.Path
import ImageWorker.Failure.JobError
import ImageWorker.Flow.Program
import ImageWorker.Report.Note

/-!
# Removing what a job left behind

A cleanup removes the local raw file, the local processed file and the source object, as far as
its mode selects them and their paths are known. No step depends on the one before it, and a local
file that is already gone is no failure.
-/

namespace ImageWorker

/-- One piece of cleanup work. -/
structure CleanupTask where
  mode : CleanupMode
  /-- The object key of the raw upload. -/
  sourceKey : String
  rawPath : Option Path
  processedPath : Option Path
  deriving DecidableEq, Repr

inductive CleanupRequest where
  | removeFile (path : Path)
  | deleteObject (key : String)
  | note (note : Note)
  deriving DecidableEq, Repr

abbrev CleanupRequest.Answer : CleanupRequest → Type
  | removeFile _ => Except IoError Unit
  | deleteObject _ => Except StorageError Unit
  | note _ => Unit

abbrev CleanupProgram := Program CleanupRequest CleanupRequest.Answer

namespace CleanupTask

/-- Removes a local file if there is a path and the mode selects it; gives the number of
failures. -/
def removeLocal (selected : Bool) : Option Path → CleanupProgram Nat
  | none => .done 0
  | some path =>
    if selected then
      .ask (.removeFile path) fun
        | .ok () => .done 0
        | .error e =>
          if e.kind = .notFound then .done 0
          else
            .ask (.note (.log (.warn .cleanup
              ("Failed to remove " ++ path.text ++ ": " ++ e.message) []))) fun _ => .done 1
    else .done 0

/-- Deletes the source object if the mode selects it; gives the number of failures. -/
def deleteSource (t : CleanupTask) : CleanupProgram Nat :=
  if t.mode.removesSource then
    .ask (.deleteObject t.sourceKey) fun
      | .ok () => .done 0
      | .error e =>
        .ask (.note (.log (.warn .cleanup
          ("Failed to delete source object " ++ t.sourceKey ++ ": " ++ e.message) [])))
          fun _ => .done 1
  else .done 0

/-- Takes every step of a task and gives the number of failed ones. -/
def perform (t : CleanupTask) : CleanupProgram Nat := do
  let raw ← removeLocal t.mode.removesRaw t.rawPath
  let processed ← removeLocal t.mode.removesProcessed t.processedPath
  let source ← t.deleteSource
  return raw + processed + source

/-- How a scheduled task ends. -/
inductive Ending where
  | finished (failures : Nat)
  | timedOut (limit : Duration)
  deriving DecidableEq, Repr

def endNotes (t : CleanupTask) (ending : Ending) : List Note :=
  let about := [("mode", t.mode.name), ("key", t.sourceKey)]
  match ending with
  | .finished 0 => [.count (.cleanup t.mode.name true)]
  | .finished failures =>
    [.log (.info .cleanup "Cleanup finished with failures" (about ++ [("failures", toString failures)])),
      .count (.cleanup t.mode.name false)]
  | .timedOut limit =>
    [.log (.warn .cleanup ("Cleanup timed out after " ++ limit.text) about),
      .count (.cleanup t.mode.name false)]

end CleanupTask

end ImageWorker
