import VoiceLink.Storage.OsError
import VoiceLink.Storage.Path

/-!
# File trees

A file tree says for each location whether a directory is there, or a file and its content.
Locations count from the root, which is always a directory. `find?` is the view of a tree that all
operations are described by; the order of the entries behind it means nothing.

Nothing keeps a tree from having a file below nothing. Operations never make such a file, and a walk
never finds one: it goes down step by step, and every step but the last must lead to a directory.
-/

namespace VoiceLink

/-! ## Trees -/

/-- The names from the root down to an entry. -/
abbrev Location := List String

/-- What can be at a location. -/
inductive Entry where
  | directory
  | file (content : List UInt8)
  deriving DecidableEq, Repr

/-- Directories and files by location. -/
structure FileTree where
  entries : List (Location × Entry)
  deriving DecidableEq, Repr

namespace FileTree

def empty : FileTree := { entries := [] }

def find? (t : FileTree) (l : Location) : Option Entry :=
  if l = [] then some .directory else t.entries.lookup l

/-- The tree with an entry put at a location, in place of any other. -/
def put (t : FileTree) (l : Location) (e : Entry) : FileTree :=
  { entries := (l, e) :: t.entries.filter fun x => x.1 ≠ l }

/-- The tree without what is at a location. -/
def erase (t : FileTree) (l : Location) : FileTree :=
  { entries := t.entries.filter fun x => x.1 ≠ l }

/-- The tree without what is at a location or below it. -/
def eraseAll (t : FileTree) (l : Location) : FileTree :=
  { entries := t.entries.filter fun x => !l.isPrefixOf x.1 }

def isDirectory (t : FileTree) (l : Location) : Bool := t.find? l = some .directory

/-! ## Walking

Paths are resolved as the system does: names are followed one after the other, a point stays and two
points go up, from the root to the root. -/

/-- One step of a walk, which starts in a directory. -/
def step (t : FileTree) (l : Location) (name : String) : Except OsError Location :=
  match t.find? l with
  | none => .error .notFound
  | some (.file _) => .error .notDirectory
  | some .directory =>
    if name = "." then .ok l
    else if name = ".." then .ok l.dropLast
    else if Path.maxNameBytes < name.utf8ByteSize then .error .nameTooLong
    else .ok (l ++ [name])

/-- Walk along some steps. Everything but the end must be a directory; at the end there may be
nothing. -/
def walk (t : FileTree) : Location → List String → Except OsError Location
  | l, [] => .ok l
  | l, name :: names => do
    let l ← t.step l name
    t.walk l names

/-! ## Operations

Limits on the length of a path are checked before it is walked, and those on a name when its turn
comes. An error that comes of the path is reported before one that comes of what is there. -/

/-- Make a directory where a walk ends. -/
def makeDirectory (t : FileTree) (start : Location) (steps : List String) :
    Except OsError FileTree := do
  let l ← t.walk start steps
  match t.find? l with
  | some _ => .error .alreadyExists
  | none => .ok (t.put l .directory)

def read (t : FileTree) (cwd : Location) (path : String) : Except OsError (List UInt8) :=
  if Path.hasZeroByte path then .error .zeroByte
  else if path = "" then .error .notFound
  else if Path.maxPathBytes < path.utf8ByteSize then .error .nameTooLong
  else do
    let start := if Path.isAbsolute path then [] else cwd
    let l ← t.walk start (Path.steps path)
    match t.find? l with
    | none => .error .notFound
    | some .directory => .error .isDirectory
    | some (.file content) =>
      -- a slash behind it asks for a directory
      if Path.endsWithSlash path then .error .notDirectory else .ok content

/-- Where a file is to be put under a path. The directory must be there, and the last step must be a
name that no directory has. -/
def target (t : FileTree) (cwd : Location) (path : String) : Except OsError Location :=
  if Path.hasZeroByte path then .error .invalidArgument
  else if path = "" then .error .notFound
  else if Path.maxPathBytes < path.utf8ByteSize then .error .nameTooLong
  else do
    let start := if Path.isAbsolute path then [] else cwd
    let steps := Path.steps path
    let directory ← t.walk start steps.dropLast
    match steps.getLast? with
    | none => .error .busy
    | some name =>
      let l ← t.step directory name
      -- points name directories that are in use
      if name = "." ∨ name = ".." then .error .busy
      else if Path.endsWithSlash path then .error .notDirectory
      else if t.isDirectory l then .error .isDirectory
      else .ok l

/-! ## Setting up and looking through -/

/-- The tree with an entry put at a location and directories above it where there was nothing. -/
def plant (t : FileTree) (l : Location) (e : Entry) : FileTree :=
  let above := (List.range l.length).map fun n => l.take n
  let t := above.foldl (fun t l => if (t.find? l).isSome then t else t.put l .directory) t
  t.put l e

/-- The entries below a location, by their names from there on. -/
def below (t : FileTree) (l : Location) : List (Location × Entry) :=
  t.entries.filterMap fun x =>
    if l.isPrefixOf x.1 ∧ x.1 ≠ l then some (x.1.drop l.length, x.2) else none

end FileTree

end VoiceLink
