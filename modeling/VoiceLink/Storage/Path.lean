/-!
# Paths

A path is a text of names divided by slashes. Its steps are the names as they are walked; a lone
point stays, two points go up. Its components are what is left when the points that change nothing
are taken out, and where a path is taken apart (its parent, its last name) that is done by them.
-/

namespace VoiceLink.Path

/-! ## Steps and components

Slashes that follow one another count as one, and one at the end is not a step. Whether a path
begins or ends with a slash is asked of the text itself. -/

def split : List Char → List (List Char)
  | [] => [[]]
  | c :: rest =>
    if c = '/' then [] :: split rest
    else match split rest with
      | [] => [[c]]
      | piece :: pieces => (c :: piece) :: pieces

/-- The steps of a path: its names, without the empty ones. -/
def steps (path : String) : List String :=
  ((split path.toList).filter fun piece => !piece.isEmpty).map String.ofList

def isAbsolute (path : String) : Bool := path.toList.head? = some '/'

def endsWithSlash (path : String) : Bool := path.toList.getLast? = some '/'

/-- The names of a path without the points that change nothing; one in front stays. -/
def components (path : String) : List String :=
  match steps path with
  | [] => []
  | first :: rest =>
    let rest := rest.filter (· ≠ ".")
    if first = "." ∧ isAbsolute path then rest else first :: rest

/-- The components of the directory that holds what a path names; none for the empty path and the
root. -/
def parent? (path : String) : Option (List String) :=
  match components path with
  | [] => none
  | names => some names.dropLast

/-! ## Joining, and limits -/

/-- A path below a directory. An absolute one stands for itself. -/
def join (directory path : String) : String :=
  if isAbsolute path ∨ directory = "" then path
  else if endsWithSlash directory then directory ++ path
  else directory ++ "/" ++ path

/-- Whether a text contains the character that no name may contain. -/
def hasZeroByte (path : String) : Bool := path.toList.contains '\x00'

def maxNameBytes : Nat := 255

def maxPathBytes : Nat := 4095

end VoiceLink.Path
