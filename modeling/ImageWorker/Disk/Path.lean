/-!
# Local paths

A path keeps the text it was written with. Its components leave out repeated and trailing slashes
and every dot but a leading one, and two paths with the same components are the same path.
-/

namespace ImageWorker

structure Path where
  text : String
  deriving DecidableEq, Repr

inductive Component where
  | root
  | current
  | parent
  | normal (name : String)
  deriving DecidableEq, Repr

/-- The parts of a text between slashes; there is always one more than there are slashes. -/
def splitSlashes : List Char → List (List Char)
  | [] => [[]]
  | c :: r =>
    if c = '/' then [] :: splitSlashes r
    else
      match splitSlashes r with
      | [] => [[c]]
      | part :: parts => (c :: part) :: parts

def segments (s : String) : List String := (splitSlashes s.toList).map String.ofList

namespace Path

/-- The component that a segment stands for when it is not the first; an empty segment and a dot
stand for none. -/
def innerComponent? (s : String) : Option Component :=
  if s = "" || s = "." then none
  else if s = ".." then some .parent
  else some (.normal s)

def innerComponents (parts : List String) : List Component := parts.filterMap innerComponent?

def components (p : Path) : List Component :=
  match segments p.text with
  | [] => []
  | first :: rest =>
    if first = "" then
      if rest.isEmpty then [] else .root :: innerComponents rest
    else if first = "." then .current :: innerComponents rest
    else innerComponents (first :: rest)

def same (p q : Path) : Bool := p.components == q.components

/-- A path below another one; the second text must not begin with a slash. -/
def join (p : Path) (relative : String) : Path :=
  if p.text = "" || p.text.toList.getLast? = some '/' then ⟨p.text ++ relative⟩
  else ⟨p.text ++ "/" ++ relative⟩

def componentText : Component → String
  | .root => ""
  | .current => "."
  | .parent => ".."
  | .normal name => name

def ofComponents (cs : List Component) : Path :=
  if cs = [.root] then ⟨"/"⟩ else ⟨"/".intercalate (cs.map componentText)⟩

/-- The path without its last component; there is none above the root and above nothing. -/
def parent? (p : Path) : Option Path :=
  match p.components.getLast? with
  | none => none
  | some .root => none
  | some _ => some (ofComponents p.components.dropLast)

end Path

end ImageWorker
