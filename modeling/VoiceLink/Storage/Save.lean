import VoiceLink.Storage.Disk

/-!
# Saving a file in one move

A file is put together under a temporary name beside its destination and moved into place when it is
complete. Whatever goes wrong, the temporary file is removed and the destination keeps what it had.

The directory of the destination is made if it is missing, and the temporary file goes into that
very directory, so moving it never has to copy. The content is asked for after the temporary file is
there: if it cannot be made, there is a file to remove but nothing to undo.
-/

namespace VoiceLink

/-! ## Errors -/

/-- Why a file was not saved. -/
inductive SaveError (ε : Type) where
  /-- The temporary file could not be made or filled. -/
  | io (error : OsError)
  /-- The content could not be made. -/
  | content (error : ε)
  /-- The finished file could not be moved into place. -/
  | persist (error : OsError)
  deriving DecidableEq, Repr

namespace Disk

/-! ## Temporary files

A temporary name is taken only where it is free, and it is never the last name of the destination,
so that destination and temporary file are two files in any directory. -/

/-- The steps of the directory beside a path: its parent, or the working directory. -/
def beside (path : String) : List String :=
  match Path.parent? path with
  | none => ["."]
  | some [] => ["."]
  | some steps => steps

/-- Whether the directory beside a path is counted from the root. -/
def besideAbsolute (path : String) : Bool :=
  Path.isAbsolute path && (Path.parent? path).isSome

def temporaryName (i : Nat) : String := ".tmp" ++ Numeral.text i

/-- A temporary name that is free in a directory and not `own`: the first of them, among two more
than there are entries. -/
def freeName (t : FileTree) (directory : Location) (own : Option String) : String :=
  let taken (i : Nat) : Bool :=
    own = some (temporaryName i) || (t.find? (directory ++ [temporaryName i])).isSome
  temporaryName (((List.range (t.entries.length + 2)).find? fun i => !taken i).getD 0)

/-- Make an empty temporary file beside a path, under a name that is not the last of the path. -/
def createTemporary (d : Disk) (path : String) : Except OsError Location × Disk :=
  match d.tree.walk (d.start (besideAbsolute path)) (beside path) with
  | .error e => (.error e, d)
  | .ok directory =>
    let location := directory ++ [freeName d.tree directory (Path.components path).getLast?]
    match d.attempt fun t =>
      if t.isDirectory directory then .ok (t.put location (.file [])) else .error .notDirectory with
    | (.ok (), d) => (.ok location, d)
    | (.error e, d) => (.error e, d)

/-- Remove a temporary file. -/
def removeTemporary (d : Disk) (location : Location) : Disk :=
  { d with tree := d.tree.erase location, past := d.tree :: d.past }

/-! ## Filling and moving

A file is filled a buffer at a time, and each time is an attempt of its own: the device may fail
with some of the content written. The move takes the destination's place in one attempt. -/

def bufferBytes : Nat := 8192

/-- The lengths that a file goes through while it is written: a buffer more each time, and the whole
in the end. -/
def lengthsTo (total : Nat) : List Nat :=
  (List.range (total / bufferBytes)).map (fun i => (i + 1) * bufferBytes) ++ [total]

/-- Write a file up to some lengths, one after the other. -/
def fillTo (d : Disk) (location : Location) (content : List UInt8) :
    List Nat → Except OsError Unit × Disk
  | [] => (.ok (), d)
  | length :: lengths =>
    match d.attempt fun t => .ok (t.put location (.file (content.take length))) with
    | (.ok (), d) => d.fillTo location content lengths
    | (.error e, d) => (.error e, d)

def fill (d : Disk) (location : Location) (content : List UInt8) : Except OsError Unit × Disk :=
  d.fillTo location content (lengthsTo content.length)

/-- Make sure that a file has reached the device. -/
def sync (d : Disk) : Except OsError Unit × Disk := d.attempt .ok

/-- Move a temporary file to the place a path names. -/
def moveInto (d : Disk) (location : Location) (path : String) : Except OsError Unit × Disk :=
  d.attempt fun t => do
    -- the destination is looked up when the file is moved, not before
    let place ← t.target d.cwd path
    match t.find? location with
    | none => .error .notFound
    | some entry => .ok ((t.erase location).put place entry)

/-- Fill a temporary file and move it to the place a path names. -/
def complete {ε : Type} (d : Disk) (location : Location) (path : String) (content : List UInt8)
    (synced : Bool) : Except (SaveError ε) Unit × Disk :=
  match d.fill location content with
  | (.error e, d) => (.error (.io e), d)
  | (.ok (), d) =>
    match if synced then d.sync else (.ok (), d) with
    | (.error e, d) => (.error (.io e), d)
    | (.ok (), d) =>
      match d.moveInto location path with
      | (.error e, d) => (.error (.persist e), d)
      | (.ok (), d) => (.ok (), d)

/-! ## The whole

The one operation that is used from outside. Of what it does on the way nothing is left behind but
directories that it had to make. -/

/-- Save what `content` makes under a path. With `synced` the device has the content before the
move. -/
def save {ε : Type} (d : Disk) (path : String) (content : Except ε (List UInt8)) (synced : Bool) :
    Except (SaveError ε) Unit × Disk :=
  match d.makeDirectories (besideAbsolute path) (beside path).reverse with
  | (.error e, d) => (.error (.io e), d)
  | (.ok (), d) =>
    match d.createTemporary path with
    | (.error e, d) => (.error (.io e), d)
    | (.ok location, d) =>
      match content with
      | .error e => (.error (.content e), d.removeTemporary location)
      | .ok bytes =>
        match d.complete location path bytes synced with
        | (.error e, d) => (.error e, d.removeTemporary location)
        | (.ok (), d) => (.ok (), d)

end Disk

end VoiceLink
