import ImageWorker.Disk.FileTree
import ImageWorker.Flow.Clock
import ImageWorker.Job.Pipeline
import ImageWorker.Rehearsal.Script
import ImageWorker.Storage.ObjectMap

/-!
# The scene of a rehearsal

A rehearsal runs jobs and cleanups without a network: the object store is a map, the disk a file
tree, the clock moves when somebody waits, and scripts say which calls are slow or fail. The scene
also keeps what was called when, and the notes.
-/

namespace ImageWorker

inductive Call where
  | download (key : String)
  | upload (key : String) (contentType : String) (content : Bytes)
  | delete (key : String)
  | announce (event : StatusEvent)
  | transform (content : Bytes) (transformation : Transformation)
  | schedule (task : CleanupTask)
  deriving DecidableEq, Repr

/-- What a scripted transformation gives. -/
structure ImageCue where
  /-- The bytes of the result; the input when there are none. -/
  content : Option Bytes
  format : TargetFormat
  width : Nat
  height : Nat
  deriving DecidableEq, Repr

/-- Without a script the result is the input, as a PNG image of one pixel. -/
def ImageCue.standard : ImageCue := ⟨none, .png, 1, 1⟩

/-- How far a scheduled cleanup has come. -/
inductive CleanupPhase where
  /-- It has not run yet. -/
  | scheduled
  /-- It waits for the store to delete an object, and is given up at its deadline. -/
  | deleting (key : String) (endsAt deadline : Nat) (fault : Option StorageError)
      (next : Except StorageError Unit → CleanupProgram Nat)

structure ScheduledCleanup where
  task : CleanupTask
  phase : CleanupPhase

/-- Everything that jobs and cleanups meet. -/
structure Scene where
  clock : Clock
  files : FileTree
  objects : ObjectMap
  downloads : Script StorageError
  uploads : Script StorageError
  deletes : Script StorageError
  announcements : Script QueueError
  /-- What transformations give, or nothing for real ones. -/
  images : Option (List (Except TransformFailure ImageCue))
  /-- The calls so far, each with its moment. -/
  calls : List (Nat × Call)
  notes : List Note
  /-- How many cleanups count as pending. -/
  pending : Nat
  /-- Whether a scheduled cleanup counts as pending. -/
  countsCleanups : Bool
  /-- Whether cleanups that jobs schedule are carried out. -/
  runsCleanups : Bool
  /-- How many milliseconds a cleanup may take. -/
  cleanupLimit : Nat
  cleanups : List ScheduledCleanup

namespace Scene

def called (s : Scene) (c : Call) : Scene := { s with calls := s.calls ++ [(s.clock.now, c)] }

def noted (s : Scene) (n : Note) : Scene := { s with notes := s.notes ++ [n] }

def removeFile (s : Scene) (path : Path) : Except IoError Unit × Scene :=
  match s.files.removeFile path with
  | .ok files => (.ok (), { s with files := files })
  | .error e => (.error e, s)

def beginDelete (s : Scene) (key : String) : Cue StorageError × Scene :=
  let (cue, deletes) := s.deletes.next
  (cue, { s.called (.delete key) with deletes := deletes })

def endDelete (s : Scene) (key : String) (fault : Option StorageError) :
    Except StorageError Unit × Scene :=
  match fault with
  | some e => (.error e, s)
  | none => (.ok (), { s with objects := s.objects.erase key })

end Scene

end ImageWorker
