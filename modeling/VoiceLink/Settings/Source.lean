import VoiceLink.Json.Reader
import VoiceLink.Settings.Client
import VoiceLink.Settings.Description
import VoiceLink.Settings.Ini
import VoiceLink.Settings.Json5
import VoiceLink.Settings.JsonDatum
import VoiceLink.Settings.Ron
import VoiceLink.Settings.Toml.Document
import VoiceLink.Settings.Yaml.Document
import VoiceLink.Storage.Disk

/-!
# Sources of settings

Settings come from a file, found by its name and read in the notation of its extension, and from the
environment, whose variables lie over the file.

Where there is no file to read, nothing is read: without a name the environment lies over the
defaults. A name that leads nowhere is an error, and so is a file in a notation that nobody knows.
-/

namespace VoiceLink

/-! ### Notations -/

/-- The notations a settings file may have. -/
inductive SettingsNotation where
  | toml
  | json
  | yaml
  | ini
  | ron
  | json5
  deriving DecidableEq, Repr

/-- Why a settings file could not be read in its notation. -/
inductive NotationError where
  | toml (error : TomlError)
  | json (error : JsonError)
  | yaml (error : YamlError)
  | ini (error : IniError)
  | ron (error : RonError)
  | json5 (error : Json5Error)

def NotationError.message : NotationError → String
  | toml e => e.message
  | json e => e.message
  | yaml e => e.message
  | ini e => e.message
  | ron e => e.message
  | json5 e => e.message

namespace SettingsNotation

/-- All notations, in the order in which files are looked for. -/
def all : List SettingsNotation := [toml, json, yaml, ini, ron, json5]

/-- The extensions of files in a notation. -/
def extensions : SettingsNotation → List String
  | toml => ["toml"]
  | json => ["json"]
  | yaml => ["yaml", "yml"]
  | ini => ["ini"]
  | ron => ["ron"]
  | json5 => ["json5"]

/-- The notation an extension stands for. -/
def ofExtension? (extension : String) : Option SettingsNotation :=
  all.find? fun n => extension ∈ n.extensions

/-- Whether files in a notation have to hold a table. In others, another value says nothing. -/
def requiresTable (n : SettingsNotation) : Bool := n = json5

def parse (text : String) : SettingsNotation → Except NotationError Datum
  | toml => (Toml.parse text).mapError .toml
  | json => ((Json.parse text).map Json.datum).mapError .json
  | yaml => (Yaml.parse text).mapError .yaml
  | ini => (Ini.parse text).mapError .ini
  | ron => (Ron.parse text).mapError .ron
  | json5 => (Json5.parse text).mapError .json5

end SettingsNotation

/-! ### Files

A name may be that of a file with its ending, or a name that is continued by one. In the second case
all endings are tried, and where several such files stand side by side one of them is taken. Here it
is the one that comes first in `SettingsNotation.all`, TOML before all others; that order is a
choice of this library, and nobody is promised it. A name leads to one file for certain if only one
ending continues it. -/

/-- Why settings could not be loaded. -/
inductive LoadError where
  /-- The extension of a file stands for no notation. -/
  | unknownNotation (path : String)
  | fileNotFound (name : String)
  | storage (error : OsError)
  | notText
  | parse (error : NotationError) (file : String)
  /-- A file holds another value than a table. -/
  | noTable (found : String) (file : String)
  | content (fault : SettingsFault)

namespace LoadError

def context : LoadError → String
  | content _ => "Failed to deserialize configuration"
  | _ => "Failed to build configuration"

def cause : LoadError → String
  | unknownNotation path =>
    "configuration file \"" ++ path ++ "\" is not of a registered file format"
  | fileNotFound name => "configuration file \"" ++ name ++ "\" not found"
  | storage e => e.message
  | notText => "stream did not contain valid UTF-8"
  | parse e file => e.message ++ " in " ++ file
  | noTable found file =>
    "invalid type: " ++ found ++ ", expected a map in " ++ file ++ " in " ++ file
  | content fault => fault.message

def message (e : LoadError) : String := e.context ++ ": " ++ e.cause

end LoadError

namespace SettingsFile

/-- The extension of a file name: what follows its last point, if that is not also its first
character. -/
def extension? (name : String) : Option String :=
  let reversed := name.toList.reverse
  let last := reversed.takeWhile (· ≠ '.')
  match reversed.dropWhile (· ≠ '.') with
  | [] => none
  | [_] => none
  | _ => some (String.ofList last.reverse)

/-- The last step of a path, if it is a name. -/
def fileName? (path : String) : Option String :=
  match (Path.components path).getLast? with
  | some name => if name = ".." ∨ name = "." then none else some name
  | none => none

def start (d : Disk) (path : String) : Location := d.start (Path.isAbsolute path)

def isFile (d : Disk) (start : Location) (steps : List String) : Bool :=
  match d.tree.walk start steps with
  | .error _ => false
  | .ok l =>
    match d.tree.find? l with
    | some (.file _) => true
    | _ => false

/-- The steps to a location, seen from a directory. -/
def relative : (base target : List String) → List String
  | b :: base, t :: target =>
    if b = t then relative base target
    else List.replicate (base.length + 1) ".." ++ t :: target
  | base, target => List.replicate base.length ".." ++ target

/-- How messages name a file: its path from the working directory. -/
def shownName (d : Disk) (absolute : Bool) (steps : List String) : String :=
  let steps := steps.filter (· ≠ ".")
  "/".intercalate (if absolute then relative d.cwd steps else steps)

/-- A file with settings: the steps to it, and its notation. -/
structure Found where
  steps : List String
  notation_ : SettingsNotation
  deriving DecidableEq, Repr

/-- Find the file a name stands for: the file of that name, or the first whose name continues it by
an ending. -/
def find (d : Disk) (name : String) : Except LoadError Found :=
  let begin_ := start d name
  let steps := Path.steps name
  -- a file of that very name goes before all others, even in a notation that nobody knows
  if isFile d begin_ steps ∧ ¬ Path.endsWithSlash name then
    match SettingsNotation.ofExtension? (((fileName? name).bind extension?).getD "") with
    | some notation_ => .ok { steps, notation_ }
    | none => .error (.unknownNotation (Path.join ("/" ++ "/".intercalate d.cwd) name))
  else
    let candidates := match fileName? name with
      | none => []
      | some last =>
        SettingsNotation.all.flatMap fun (n : SettingsNotation) =>
          n.extensions.map fun extension =>
            Found.mk ((Path.components name).dropLast ++ [last ++ "." ++ extension]) n
    match candidates.find? fun f => isFile d begin_ f.steps with
    | some f => .ok f
    | none => .error (.fileNotFound name)

def text (d : Disk) (start : Location) (steps : List String) : Except LoadError String :=
  match d.tree.walk start steps with
  | .error e => .error (.storage e)
  | .ok l =>
    match d.tree.find? l with
    | some (.file content) =>
      match String.fromUTF8? (ByteArray.mk content.toArray) with
      | some s => .ok s
      | none => .error .notText
    | some .directory => .error (.storage .isDirectory)
    | none => .error (.storage .notFound)

/-- What a file says. Only a table says anything. -/
def read (d : Disk) (name : String) : Except LoadError SettingLayer := do
  let found ← find d name
  let shown := shownName d (Path.isAbsolute name) found.steps
  let text ← text d (start d name) found.steps
  match found.notation_.parse text with
  | .ok (.table ms) => return Datum.membersFrom (.file shown) ms
  | .ok datum =>
    if found.notation_.requiresTable then throw (.noTable datum.description shown) else return []
  | .error e => throw (.parse e shown)

end SettingsFile

/-! ### The environment

A variable counts if its name begins with a fixed lead, in whatever case, and the rest of the name
is a key in which two underscores stand for a point. All values are texts, and it is left to the
conversions what they mean. -/

namespace SettingsEnvironment

def lead : List Char := "voice_client__".toList

def points : List Char → List Char
  | '_' :: '_' :: cs => '.' :: points cs
  | c :: cs => c :: points cs
  | [] => []

/-- The key a variable sets, if it sets any. Case does not matter. -/
def key? (name : String) : Option String :=
  let name := (LowerCase.text name).toList
  if lead.isPrefixOf name then some (String.ofList (points (name.drop lead.length))) else none

def layer (assignments : List (String × String)) : SettingLayer :=
  assignments.filterMap fun (name, value) =>
    (key? name).map fun key => (key, .scalar (some .environment) (.text value))

end SettingsEnvironment

/-- Load the settings from a file, if one is named, with the environment laid over it. -/
def ClientSettings.load (d : Disk) (path : Option String) (environment : List (String × String)) :
    Except LoadError ClientSettings := do
  let file ← match path with
    | some name => SettingsFile.read d name
    | none => pure []
  let merged := mergeLayers [file, SettingsEnvironment.layer environment]
  (ClientSettings.ofSetting merged).mapError .content

end VoiceLink
