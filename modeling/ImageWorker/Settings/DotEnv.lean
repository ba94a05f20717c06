import ImageWorker.Settings.Environment
import ImageWorker.Text.Blank
import ImageWorker.Text.Bytes

/-!
# Settings files

A settings file has lines of the form `NAME=value`. A value may be quoted, and a quote may run over
several lines; `$NAME` stands for the value of another variable. The environment wins over the file.
Reading stops at the first line that makes no sense, and the settings before it hold.
-/

namespace ImageWorker

/-- Where reading stands in a line. -/
inductive LineState where
  | plain
  /-- After a blank, where a comment may begin. -/
  | blank
  | escaped
  | singleQuoted
  | singleEscaped
  | doubleQuoted
  | doubleEscaped
  deriving DecidableEq, Repr

namespace LineState

def outside (c : Char) : LineState :=
  if c = '\\' then escaped
  else if c = '"' then doubleQuoted
  else if c = '\x27' then singleQuoted
  else plain

def next (c : Char) : LineState → LineState
  | plain => if isBlank c && c ≠ '\n' && c ≠ '\r' then blank else outside c
  | blank => outside c
  | escaped => plain
  | singleQuoted =>
    if c = '\\' then singleEscaped else if c = '\x27' then plain else singleQuoted
  | singleEscaped => singleQuoted
  | doubleQuoted => if c = '\\' then doubleEscaped else if c = '"' then plain else doubleQuoted
  | doubleEscaped => doubleQuoted

end LineState

/-- Reads a line up to its end or to a comment; the state is that at the end. -/
def scanLine : LineState → List Char → List Char × Option LineState
  | s, [] => ([], some s)
  | s, c :: r =>
    if s = .blank ∧ c = '#' then ([], none)
    else
      let (kept, s) := scanLine (s.next c) r
      (c :: kept, s)

/-- The lines of a file, each with its line break. -/
def brokenLines : Bytes → List Bytes
  | [] => []
  | b :: r =>
    if b = 10 then [b] :: brokenLines r
    else
      match brokenLines r with
      | [] => [[b]]
      | line :: lines => (b :: line) :: lines

/-- The texts of lines up to the first one that is not UTF-8. -/
def readableLines : List Bytes → List (List Char)
  | [] => []
  | line :: lines =>
    match line.text? with
    | none => []
    | some s => s.toList :: readableLines lines

/-- Joins each line that ends inside a quote, or right after an escape or a blank, with the next
one. A last line that ends like that is left out. -/
def joinedLines : LineState → (before : List Char) → List (List Char) → List (List Char)
  | _, _, [] => []
  | s, before, line :: lines =>
    if ((before ++ line).dropWhile isBlank).head? = some '#' then
      [] :: joinedLines .plain [] lines
    else
      match scanLine s line with
      | (kept, none) => (before ++ kept) :: joinedLines .plain [] lines
      | (_, some .plain) => (before ++ line) :: joinedLines .plain [] lines
      | (_, some s) => joinedLines s (before ++ line) lines

def startsName (c : Char) : Bool := c.isAlpha || c = '_'

def continuesName (c : Char) : Bool := c.isAlphanum || c = '_' || c = '.'

/-- A name and what follows after blanks. -/
def takeName (cs : List Char) : Option (String × List Char) :=
  if cs.head?.any startsName then
    some (String.ofList (cs.takeWhile continuesName),
      (cs.dropWhile continuesName).dropWhile isBlank)
  else none

/-- What follows an equals sign and blanks. -/
def afterEquals : List Char → Option (List Char)
  | '=' :: r => some (r.dropWhile isBlank)
  | _ => none

/-- The name that a line sets, and its value as it is written. The word `export` may stand before
the name, and may itself be the name. -/
def assignment (cs : List Char) : Option (String × List Char) := do
  let (name, rest) ← takeName cs
  match afterEquals rest with
  | some value => return (name, value)
  | none =>
    if name = "export" then
      let (name, rest) ← takeName rest
      return (name, ← afterEquals rest)
    else none

/-- Where reading stands in a value. -/
inductive ValueState where
  | plain
  | singleQuoted
  | doubleQuoted
  | escaped (quoted : Bool)
  /-- In the name of a variable. -/
  | naming (name : List Char) (quoted : Bool)
  /-- In the name of a variable that stands in braces. -/
  | bracing (name : List Char) (quoted : Bool)
  /-- After the value. -/
  | ended
  deriving DecidableEq, Repr

def ValueState.resume (quoted : Bool) : ValueState := if quoted then doubleQuoted else plain

/-- The character that an escape stands for. -/
def unescaped? (c : Char) : Option Char :=
  if c = 'n' then some '\n'
  else if c = '\\' || c = '\x27' || c = '"' || c = '$' || c = ' ' then some c
  else none

/-- The value of a variable; nothing counts as the empty text. -/
def valueOf (env : Environment) (name : List Char) : List Char :=
  ((env (String.ofList name)).getD "").toList

def readValue (env : Environment) : ValueState → List Char → Option (List Char)
  | .plain, [] | .escaped false, [] | .ended, [] => some []
  | .naming name false, [] => some (valueOf env name)
  | .singleQuoted, [] | .doubleQuoted, [] | .escaped true, [] | .naming _ true, []
  | .bracing _ _, [] => none
  | .plain, c :: r =>
    if c = '$' then readValue env (.naming [] false) r
    else if c = '\x27' then readValue env .singleQuoted r
    else if c = '"' then readValue env .doubleQuoted r
    else if c = '\\' then readValue env (.escaped false) r
    else if c = ' ' || c = '\t' then readValue env .ended r
    else (readValue env .plain r).map (c :: ·)
  | .singleQuoted, c :: r =>
    if c = '\x27' then readValue env .plain r else (readValue env .singleQuoted r).map (c :: ·)
  | .doubleQuoted, c :: r =>
    if c = '$' then readValue env (.naming [] true) r
    else if c = '"' then readValue env .plain r
    else if c = '\\' then readValue env (.escaped true) r
    else (readValue env .doubleQuoted r).map (c :: ·)
  | .escaped quoted, c :: r =>
    match unescaped? c with
    | none => none
    | some c => (readValue env (.resume quoted) r).map (c :: ·)
  | .naming name quoted, c :: r =>
    if c.isAlphanum then readValue env (.naming (name ++ [c]) quoted) r
    else if c = '\x7b' && name.isEmpty then readValue env (.bracing [] quoted) r
    else if c = '$' then
      (readValue env (.naming [] quoted) r).map (valueOf env name ++ ·)
    else (readValue env (.resume quoted) r).map (valueOf env name ++ c :: ·)
  | .bracing name quoted, c :: r =>
    if c = '\x7d' then (readValue env (.resume quoted) r).map (valueOf env name ++ ·)
    else readValue env (.bracing (name ++ [c]) quoted) r
  | .ended, c :: r =>
    if c = ' ' || c = '\t' then readValue env .ended r
    else if c = '#' then some []
    else none

inductive SettingLine where
  | nothing
  | setting (name value : String)
  | malformed
  deriving DecidableEq, Repr

def SettingLine.read (env : Environment) (line : List Char) : SettingLine :=
  match trimBlanks line with
  | [] | '#' :: _ => nothing
  | cs =>
    match assignment cs with
    | none => malformed
    | some (name, []) | some (name, '#' :: _) => setting name ""
    | some (name, value) =>
      match readValue env .plain value with
      | none => malformed
      | some value => setting name (String.ofList value)

namespace Environment

/-- The environment in which a variable that has no text has one. -/
def withDefault (env : Environment) (name value : String) : Environment :=
  fun other => if other = name then some ((env other).getD value) else env other

def withLines : Environment → List (List Char) → Environment
  | env, [] => env
  | env, line :: lines =>
    match SettingLine.read env line with
    | .nothing => withLines env lines
    | .setting name value => withLines (env.withDefault name value) lines
    | .malformed => env

/-- The environment after a settings file; a byte order mark at its beginning is passed over. -/
def withFile (env : Environment) (content : Bytes) : Environment :=
  let content := if [0xEF, 0xBB, 0xBF].isPrefixOf content then content.drop 3 else content
  env.withLines (joinedLines .plain [] (readableLines (brokenLines content)))

end Environment

end ImageWorker
