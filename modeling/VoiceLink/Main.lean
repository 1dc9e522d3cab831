import VoiceLink.CommandLine.Run

/-!
# The program

Reads what a run may need from the system, carries it out, and prints and writes what it leaves
behind. Nothing is decided here: the files that are read are those that a run could ask for, and
those that are written are the ones whose content has changed.
-/

open VoiceLink

/-- The bytes of a file, if it can be read. -/
def readFile? (path : String) : IO (Option (List UInt8)) := do
  try
    let content ← IO.FS.readBinFile path
    return some content.toList
  catch _ => return none

def locationOf (cwd : Location) (path : String) : Location :=
  let steps := (Path.components path).filter (· ≠ ".")
  if Path.isAbsolute path then steps else cwd ++ steps

/-- The files a run may read: the settings file under each name it can have, and the recording. -/
def filesFor (o : Options) : List String :=
  let extensions := SettingsNotation.all.flatMap SettingsNotation.extensions
  let settings := match o.config with
    | some name => name :: extensions.map fun extension => name ++ "." ++ extension
    | none => []
  settings ++ o.audio.toList

/-- The tree of some files, with the directories above them. -/
def treeOf (cwd : Location) : List String → FileTree → IO FileTree
  | [], t => return t
  | path :: paths, t => do
    match ← readFile? path with
    | none => treeOf cwd paths t
    | some content =>
      treeOf cwd paths (t.plant (locationOf cwd path) (.file content))

def environment : IO (List (String × String)) := do
  let content := (← readFile? "/proc/self/environ").getD []
  let text := (String.fromUTF8? (ByteArray.mk content.toArray)).getD ""
  return (text.splitOn "\x00").filterMap fun entry =>
    match entry.splitOn "=" with
    | name :: value :: rest => some (name, "=".intercalate (value :: rest))
    | _ => none

/-- A random identifier in five groups of hexadecimal digits. -/
def drawIdentifier : IO String := do
  let digits (count : Nat) : IO String := do
    let mut s := ""
    for _ in [0:count] do
      s := s.push (Numeral.hexChar (← IO.rand 0 15))
    return s
  let variant := Numeral.hexChar (← IO.rand 8 11)
  return (← digits 8) ++ "-" ++ (← digits 4) ++ "-4" ++ (← digits 3) ++ "-"
    ++ String.singleton variant ++ (← digits 3) ++ "-" ++ (← digits 12)

/-- Write the files that a run has made or changed. -/
def writeChanges (before after : FileTree) : IO Unit := do
  for (l, entry) in after.entries.reverse do
    let path := "/" ++ "/".intercalate l
    match entry with
    | .directory => if before.find? l = none then IO.FS.createDirAll path
    | .file content =>
      if before.find? l ≠ some (.file content) then
        IO.FS.writeBinFile path (ByteArray.mk content.toArray)

/-- Run the program with the arguments of its command line. -/
def main (arguments : List String) : IO UInt32 := do
  let cwd := Path.components (← IO.currentDir).toString
  let root := FileTree.empty.plant cwd .directory
  let tree ← match Options.parse arguments with
    | .ok o => treeOf cwd (filesFor o) root
    | .error _ => pure root
  let surroundings : Surroundings :=
    { disk := { tree, cwd }, environment := ← environment, network := .offline, codec := .silent
      drawn := ← drawIdentifier }
  let outcome := runCommandLine arguments surroundings
  for entry in outcome.log do
    IO.println (entry.level.name ++ " " ++ entry.text)
  IO.print outcome.output
  IO.eprint outcome.complaint
  writeChanges tree outcome.disk.tree
  return UInt32.ofNat outcome.exitCode
