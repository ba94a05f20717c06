import ImageWorker.Disk.FileTree

/-!
# The files of a rehearsal

A rehearsal begins with some directories and files below one directory, and what is left there at
its end is listed by name.
-/

namespace ImageWorker.FileTree

/-- A directory with the given directories and files below it. -/
def furnished (home : String) (directories : List String) (files : List (String × Bytes)) :
    FileTree :=
  let t : FileTree := empty.set [home] .directory
  let t := directories.foldl (fun t name => (t.makeDirectories ((Path.mk home).join name)).2) t
  files.foldl (fun t (name, content) => (t.saveFile ((Path.mk home).join name) content).2) t

/-- The name of a place; that of a directory ends in a slash. -/
def placeName (place : Place) (e : Entry) : String :=
  "/".intercalate place ++ match e with
    | .directory => "/"
    | .file _ => ""

/-- What stands below a directory, by name. -/
def listing (t : FileTree) (home : String) : List (String × Entry) :=
  t.entries.filterMap fun (place, e) =>
    match place with
    | first :: name :: names =>
      if first = home then some (placeName (name :: names) e, e) else none
    | _ => none

end ImageWorker.FileTree
