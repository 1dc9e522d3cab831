import VoiceLink.Storage.Tree

/-!
# The disk

A disk is a file tree on which operations are carried out one after the other. Each may fail because
the tree does not allow it or because the device fails; the device's failures are a parameter. The
trees before every operation are kept, so that what another reader could have seen in between can be
talked about.

All changes go through `Disk.attempt`, which asks the device first. An operation of a program that
takes several steps on the system is several attempts here, and any of them may be the one that
fails.
-/

namespace VoiceLink

/-- A file tree, the working directory, the trees there were before each operation so far (the
latest first), and the failure the device has in store for each operation, counted from zero. -/
structure Disk where
  tree : FileTree
  cwd : Location
  past : List FileTree := []
  faults : Nat → Option OsError := fun _ => none

namespace Disk

/-- Carry out one change of the tree. -/
def attempt (d : Disk) (change : FileTree → Except OsError FileTree) : Except OsError Unit × Disk :=
  let after (t : FileTree) : Disk := { d with tree := t, past := d.tree :: d.past }
  match d.faults d.past.length with
  | some e => (.error e, after d.tree)
  | none =>
    match change d.tree with
    | .ok t => (.ok (), after t)
    | .error e => (.error e, after d.tree)

/-- Where a walk starts. -/
def start (d : Disk) (absolute : Bool) : Location := if absolute then [] else d.cwd

def isDirectoryAt (d : Disk) (absolute : Bool) (steps : List String) : Bool :=
  match d.tree.walk (d.start absolute) steps with
  | .ok l => d.tree.isDirectory l
  | .error _ => false

/-! ## Making directories

Directories that are missing are made from the bottom up: a directory is tried first, and only if
there was nothing to put it into are those above it made. Where it cannot be made because something
is there, it is enough that this is a directory. -/

def makeDirectory (d : Disk) (absolute : Bool) (steps : List String) :
    Except OsError Unit × Disk :=
  if steps.any Path.hasZeroByte then (.error .zeroByte, d)
  else d.attempt fun t => t.makeDirectory (d.start absolute) steps

/-- Make a directory unless it is there. -/
def makeOrKeep (d : Disk) (absolute : Bool) (steps : List String) : Except OsError Unit × Disk :=
  match d.makeDirectory absolute steps with
  | (.ok (), d) => (.ok (), d)
  | (.error e, d) => if d.isDirectoryAt absolute steps then (.ok (), d) else (.error e, d)

/-- Make a directory and all that are missing above it; the steps are counted from the end. -/
def makeDirectories (d : Disk) (absolute : Bool) : (reversed : List String) →
    Except OsError Unit × Disk
  | [] => (.ok (), d)
  | name :: above =>
    let steps := above.reverse ++ [name]
    match d.makeDirectory absolute steps with
    -- there is nothing to put it into, so that comes first
    | (.error .notFound, d) =>
      match d.makeDirectories absolute above with
      -- somebody may have made it meanwhile
      | (.ok (), d) => d.makeOrKeep absolute steps
      | (.error e, d) => (.error e, d)
    | (.ok (), d) => (.ok (), d)
    | (.error e, d) => if d.isDirectoryAt absolute steps then (.ok (), d) else (.error e, d)

def read (d : Disk) (path : String) : Except OsError (List UInt8) := d.tree.read d.cwd path

end Disk

end VoiceLink
