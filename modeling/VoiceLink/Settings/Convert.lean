import VoiceLink.Message.Audio
import VoiceLink.Settings.Description
import VoiceLink.Settings.Merge
import VoiceLink.Text.LowerCase

/-!
# Reading typed values out of settings

Conversions are lenient: numbers, truth values and texts stand in for each other where their meaning
is clear, and whole numbers are cut to the width of the field. What cannot be converted is reported
with the key it was found under and the source it came from.

There has to be leniency, since everything in the environment is a text. It makes no difference
where a value comes from: a text in a file is as good a number as one in a variable.
-/

namespace VoiceLink

/-! ## Faults

A fault is found at a value and reported for a key, which is built from the inside out: every
section adds its own step in front (`SettingsFault.under`). -/

/-- Where in a table or a sequence a setting stands. -/
inductive SettingStep where
  | member (name : String)
  | item (index : Nat)
  deriving DecidableEq, Repr

namespace SettingStep

/-- The text of the steps to a setting: names joined by points, indices in brackets. -/
def path : List SettingStep → String
  | [] => ""
  | .item i :: rest => "[" ++ Numeral.text i ++ "]" ++ path rest
  | .member name :: rest =>
    match rest with
    | .member _ :: _ => name ++ "." ++ path rest
    | _ => name ++ path rest

end SettingStep

/-- Why settings could not be read. -/
inductive SettingsFault where
  /-- A field holds another kind of value. -/
  | field (found expected : String) (steps : List SettingStep) (origin : Option Origin)
  /-- A section holds a single value. -/
  | section_ (found expected : String)
  /-- A word outside a closed set. -/
  | unknownWord (set word : String)
  /-- Neither a word nor a table with one. -/
  | noWord (set : String)
  deriving DecidableEq, Repr

namespace SettingsFault

/-- The fault, found one step further out. -/
def under (step : SettingStep) : SettingsFault → SettingsFault
  | .field found expected steps origin => .field found expected (step :: steps) origin
  | other => other

def message : SettingsFault → String
  | .field found expected steps origin =>
    "invalid type: " ++ found ++ ", expected " ++ expected
      ++ (if steps.isEmpty then "" else " for key `" ++ SettingStep.path steps ++ "`")
      ++ ((origin.map fun o => " in " ++ o.text).getD "")
  | .section_ found expected => "invalid type: " ++ found ++ ", expected " ++ expected
  | .unknownWord set word => "enum " ++ set ++ " does not have variant constructor " ++ word
  | .noWord set =>
    "value of enum " ++ set ++ " should be represented by either string or table with exactly one key"

end SettingsFault

/-! ## Conversions -/

/-- A reader of settings. -/
abbrev Conversion (α : Type) := Setting → Except SettingsFault α

namespace Setting

def refuse {α : Type} (origin : Option Origin) (found expected : String) : Except SettingsFault α :=
  .error (.field found expected [] origin)

/-- The lower-case words for yes. -/
def yesWords : List String := ["true", "on", "yes"]

/-- The lower-case words for no. -/
def noWords : List String := ["false", "off", "no"]

def toBool : Conversion Bool
  | .scalar _ (.boolean b) => .ok b
  | .scalar _ (.integer n) => .ok (n ≠ 0)
  | .scalar _ (.real x) => .ok (x != 0)
  | .scalar o (.text s) =>
    let word := LowerCase.text s
    if word = "1" ∨ word ∈ yesWords then .ok true
    else if word = "0" ∨ word ∈ noWords then .ok false
    else refuse o (Scalar.text word).description "a boolean"
  | .scalar o .unit => refuse o Scalar.unit.description "a boolean"
  | .sequence o _ => refuse o "sequence" "a boolean"
  | .table o _ => refuse o "map" "a boolean"

/-- The whole number of 64 bits that a text of decimal digits stands for; a plus sign may lead. -/
def wordOfText? (s : String) : Option UInt64 :=
  let digits := match s.toList with
    | '+' :: rest => rest
    | cs => cs
  if digits.isEmpty ∨ ¬ digits.all Char.isDigit then none
  else
    let n := Numeral.ofDigits digits
    if n < UInt64.size then some (.ofNat n) else none

/-- A whole number of 64 bits without sign. Numbers with a fraction are rounded, halves away from
zero, and kept within range. -/
def toUInt64 : Conversion UInt64
  | .scalar _ (.boolean b) => .ok (if b then 1 else 0)
  | .scalar o (.integer n) =>
    if 0 ≤ n then .ok (.ofNat n.toNat)
    else refuse o (Scalar.integer n).fieldDescription "an unsigned 64 bit or less integer"
  | .scalar _ (.real x) => .ok x.round.toUInt64
  | .scalar o (.text s) =>
    let word := LowerCase.text s
    if word ∈ yesWords then .ok 1
    else if word ∈ noWords then .ok 0
    else
      match wordOfText? s with
      | some n => .ok n
      | none => refuse o (Scalar.text s).description "an integer"
  | .scalar o .unit => refuse o Scalar.unit.description "an integer"
  | .sequence o _ => refuse o "sequence" "an integer"
  | .table o _ => refuse o "map" "an integer"

def toUInt32 : Conversion UInt32 := fun s => do return (← s.toUInt64).toUInt32

def toUInt16 : Conversion UInt16 := fun s => do return (← s.toUInt64).toUInt16

def toText : Conversion String
  | .scalar _ (.text s) => .ok s
  | .scalar _ (.boolean b) => .ok (if b then "true" else "false")
  | .scalar _ (.integer n) => .ok (Numeral.signedText n)
  | .scalar _ (.real x) => .ok (Shortest.text Shortest.plainLayout x)
  | .scalar o .unit => refuse o Scalar.unit.description "a string"
  | .sequence o _ => refuse o "sequence" "a string"
  | .table o _ => refuse o "map" "a string"

/-- A value that may be given as nothing. -/
def toOption {α : Type} (conversion : Conversion α) : Conversion (Option α)
  | .scalar _ .unit => .ok none
  | s => do return some (← conversion s)

/-- A listening mode: its word, or a table whose only key is its word. -/
def toListenMode : Conversion ListenMode :=
  let ofWord (word : String) : Except SettingsFault ListenMode :=
    match ListenMode.table.lookup word with
    | some mode => .ok mode
    | none => .error (.unknownWord "ListenMode" word)
  fun
    | .scalar _ (.text s) => ofWord s
    | .table _ [(key, _)] => ofWord key
    | _ => .error (.noWord "ListenMode")

end Setting

/-! ## Sections -/

/-- A section of the settings: fields by name, or by position. -/
inductive SettingsSection where
  | named (members : List (String × Setting))
  | listed (items : List Setting)

namespace SettingsSection

/-- A section from its setting; `expected` describes it in messages. -/
def ofSetting (expected : String) : Conversion SettingsSection
  | .table _ ms => .ok (.named ms)
  | .sequence _ xs => .ok (.listed xs)
  | .scalar _ v => .error (.section_ v.description expected)

/-- The field with a name and a position, or a default where it is missing. -/
def field {α : Type} (s : SettingsSection) (index : Nat) (name : String) (conversion : Conversion α)
    (default : α) : Except SettingsFault α :=
  let found : Option (SettingStep × Setting) := match s with
    | named ms => (ms.lookup name).map fun v => (.member name, v)
    | listed xs => xs[index]?.map fun v => (.item index, v)
  match found with
  | none => .ok default
  | some (step, v) => (conversion v).mapError (.under step)

end SettingsSection

end VoiceLink
