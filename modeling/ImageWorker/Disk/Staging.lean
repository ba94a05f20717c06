import ImageWorker.Disk.FileTree
import ImageWorker.Failure.JobError

/-!
# The staging area

Downloaded and transformed bytes are kept in local files below two directories while a job runs.
An object key becomes the path below such a directory, and a key that would lead anywhere else is
refused.
-/

namespace ImageWorker

/-- The directories for downloaded and for transformed bytes. -/
structure StagingArea where
  rawRoot : Path
  processedRoot : Path
  deriving DecidableEq, Repr

namespace StagingArea

def isNormal : Component → Bool
  | .normal _ => true
  | _ => false

/-- Whether a key stays below the directory it is joined to. -/
def isSafe (key : String) : Bool := key ≠ "" && (Path.mk key).components.all isNormal

def resolve (root : Path) (key : String) : Except KeyFault Path :=
  if isSafe key then .ok (root.join key) else .error (.unsafePath key)

/-- Where the bytes of a source object are kept. -/
def rawPath (a : StagingArea) (key : String) : Except KeyFault Path := resolve a.rawRoot key

def processedPath (a : StagingArea) (key : String) : Except KeyFault Path :=
  resolve a.processedRoot key

/-- Writes the file of a key, if the key has one. -/
def save (place : Except KeyFault Path) (t : FileTree) (content : Bytes) :
    Except JobError Path × FileTree :=
  match place with
  | .error why => (.error (.invalidKey why), t)
  | .ok path =>
    match t.saveFile path content with
    | (.ok (), t) => (.ok path, t)
    | (.error e, t) => (.error (.io e), t)

def saveRaw (a : StagingArea) (key : String) : FileTree → Bytes → Except JobError Path × FileTree :=
  save (a.rawPath key)

def saveProcessed (a : StagingArea) (key : String) :
    FileTree → Bytes → Except JobError Path × FileTree :=
  save (a.processedPath key)

def makeRoots (a : StagingArea) (t : FileTree) : Except IoError Unit × FileTree :=
  match t.makeDirectories a.rawRoot with
  | (.error e, t) => (.error e, t)
  | (.ok (), t) => t.makeDirectories a.processedRoot

end StagingArea

end ImageWorker
