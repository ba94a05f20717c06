import ImageWorker.Disk.Path
import ImageWorker.Failure.IoError
import ImageWorker.Keyed
import ImageWorker.Text.Bytes

/-!
# The local file tree

A finite tree of directories and files without links. A path is followed name by name: each name
on the way has to be a directory, and what a trailing slash or dot does depends on the operation.
Operations either give a new tree or the error of the system call; none changes anything else.
-/

namespace ImageWorker

/-- What stands at a place in the tree. -/
inductive Entry where
  | directory
  | file (content : Bytes)
  deriving DecidableEq, Repr

/-- The names from the top of the tree down to a place. -/
abbrev Place := List String

/-- The places that hold something; the top itself is a directory and is not listed. -/
structure FileTree where
  entries : List (Place × Entry)
  deriving Repr

namespace FileTree

/-- Nothing but the top. -/
def empty : FileTree := ⟨[]⟩

def get? (t : FileTree) (p : Place) : Option Entry :=
  if p = [] then some .directory else (t.entries.find? (·.1 == p)).map (·.2)

def erase (t : FileTree) (p : Place) : FileTree := ⟨t.entries.filter (·.1 != p)⟩

def set (t : FileTree) (p : Place) (e : Entry) : FileTree := ⟨(p, e) :: (t.erase p).entries⟩

theorem get?_erase (t : FileTree) {p : Place} (below : p ≠ []) (q : Place) :
    (t.erase p).get? q = if q = p then none else t.get? q := by
  split
  next same =>
    rw [same, get?, if_neg below, erase, find?_without_self]
    rfl
  next distinct => rw [get?, erase, find?_without_other _ distinct, get?]

theorem get?_set (t : FileTree) {p : Place} (below : p ≠ []) (q : Place) (e : Entry) :
    (t.set p e).get? q = if q = p then some e else t.get? q := by
  split
  next same => simp [get?, set, same, below]
  next distinct =>
    have skipped : (t.set p e).get? q = (t.erase p).get? q := by
      simp [get?, set, Ne.symm distinct]
    rw [skipped, get?_erase t below, if_neg distinct]

/-- Longest name in bytes. -/
def maxNameLength : Nat := 255

/-- Length in bytes from which a path is too long. -/
def maxPathLength : Nat := 4096

/-- The failure for a path with a zero character in it. -/
def zeroInPath : IoError :=
  .described .invalidInput "file name contained an unexpected NUL byte"

/-- The names in a path as they are followed: only empty ones are left out. -/
def steps (p : Path) : List String := (segments p.text).filter (· ≠ "")

def endsInSlash (p : Path) : Bool := p.text.toList.getLast? == some '/'

/-- A path that no system call can take. -/
def refused? (p : Path) : Option IoError :=
  if p.text.toList.any (· == '\x00') then some zeroInPath
  else if p.text = "" then some .missing
  else if maxPathLength ≤ p.text.utf8ByteSize then some .nameTooLong
  else none

/-- Goes down one name from a place that must be a directory. -/
def step (t : FileTree) (here : Place) (name : String) : Except IoError Place :=
  match t.get? here with
  | none => .error .missing
  | some (.file _) => .error .notDirectory
  | some .directory =>
    if name = "." then .ok here
    else if name = ".." then .ok here.dropLast
    else if maxNameLength < name.utf8ByteSize then .error .nameTooLong
    else
      match t.get? (here ++ [name]) with
      | none => .error .missing
      | some _ => .ok (here ++ [name])

def walk (t : FileTree) : Place → List String → Except IoError Place
  | here, [] => .ok here
  | here, name :: names =>
    match t.step here name with
    | .error e => .error e
    | .ok next => t.walk next names

/-- Where the last name of a path stands or would stand. -/
inductive Target where
  /-- The path ends in a dot name or is the top, and exists. -/
  | dots
  /-- A proper name in an existing directory. -/
  | named (place : Place)

def locate (t : FileTree) (p : Path) : Except IoError Target :=
  match refused? p with
  | some e => .error e
  | none =>
    match (steps p).getLast? with
    | none => .ok .dots
    | some last =>
      match t.walk [] (steps p).dropLast with
      | .error e => .error e
      | .ok parent =>
        match t.get? parent with
        | some .directory =>
          if last = "." || last = ".." then .ok .dots
          else if maxNameLength < last.utf8ByteSize then .error .nameTooLong
          else .ok (.named (parent ++ [last]))
        | some (.file _) => .error .notDirectory
        | none => .error .missing

def isDirectory (t : FileTree) (p : Path) : Bool :=
  match refused? p with
  | some _ => false
  | none =>
    match t.walk [] (steps p) with
    | .ok place => t.get? place == some .directory
    | .error _ => false

def makeDirectory (t : FileTree) (p : Path) : Except IoError FileTree :=
  match t.locate p with
  | .error e => .error e
  | .ok .dots => .error .fileExists
  | .ok (.named place) =>
    match t.get? place with
    | some _ => .error .fileExists
    | none => .ok (t.set place .directory)

/-- Makes a directory and those above it that are missing. The second result is the tree that is
left, also after a failure. The number of components bounds the recursion. -/
def makeDirectoriesWithin : Nat → FileTree → Path → Except IoError Unit × FileTree
  | 0, t, _ => (.error (.plain .uncategorized), t)
  | fuel + 1, t, p =>
    if p.text = "" then (.ok (), t)
    else
      match t.makeDirectory p with
      | .ok t => (.ok (), t)
      | .error e =>
        if e.kind = .notFound then
          match p.parent? with
          | none => (.error (.described .uncategorized "failed to create whole tree"), t)
          | some parent =>
            match makeDirectoriesWithin fuel t parent with
            | (.error e, t) => (.error e, t)
            | (.ok (), t) =>
              match t.makeDirectory p with
              | .ok t => (.ok (), t)
              | .error e => if t.isDirectory p then (.ok (), t) else (.error e, t)
        else if t.isDirectory p then (.ok (), t)
        else (.error e, t)

/-- Makes a directory and those above it that are missing. -/
def makeDirectories (t : FileTree) (p : Path) : Except IoError Unit × FileTree :=
  makeDirectoriesWithin (p.components.length + 1) t p

/-- Creates or overwrites a file. -/
def writeFile (t : FileTree) (p : Path) (content : Bytes) : Except IoError FileTree :=
  match t.locate p with
  | .error e => .error e
  | .ok .dots =>
    match t.walk [] (steps p) with
    | .error e => .error e
    | .ok _ => .error .isDirectory
  | .ok (.named place) =>
    if endsInSlash p then .error .isDirectory
    else
      match t.get? place with
      | some .directory => .error .isDirectory
      | _ => .ok (t.set place (.file content))

def removeFile (t : FileTree) (p : Path) : Except IoError FileTree :=
  match t.locate p with
  | .error e => .error e
  | .ok .dots => .error .isDirectory
  | .ok (.named place) =>
    match t.get? place with
    | none => .error .missing
    | some .directory => .error .isDirectory
    | some (.file _) => if endsInSlash p then .error .notDirectory else .ok (t.erase place)

/-- Makes the directories above a file that are missing and writes the file. -/
def saveFile (t : FileTree) (p : Path) (content : Bytes) : Except IoError Unit × FileTree :=
  let (made, t) := match p.parent? with
    | some parent => t.makeDirectories parent
    | none => (.ok (), t)
  match made with
  | .error e => (.error e, t)
  | .ok () =>
    match t.writeFile p content with
    | .ok t => (.ok (), t)
    | .error e => (.error e, t)

end FileTree

end ImageWorker
