import VoiceLink.Text.Numeral
import VoiceLink.Text.Place
import VoiceLink.Text.Quoted

/-!
# What can be wrong with a TOML text

A fault has a cause, the keys on the way to the value it was found in, and an offset into the text
in bytes, from which the message derives a line and a column.

The offset may be missing at first. Values are made of tokens after the tokens have been read, and a
fault that is only noticed then is given the offset of the value (`TomlFault.orAt`), which keeps the
one that a fault already has.
-/

namespace VoiceLink

/-- Why a TOML text was refused. -/
inductive TomlCause where
  | endOfText
  | characterInString (c : Char)
  | escape (c : Char)
  | hexEscape (c : Char)
  | escapeValue (code : Nat)
  | newlineInString
  | character (c : Char)
  | openString
  | multilineKey
  | wanted (expected found : String)
  | number
  | date
  /-- The parts of a date are out of range or out of order. -/
  | dateText
  | repeatedTable (name : String)
  | tableAsArray
  | dottedKey
  | bareText
  | repeatedKey (key : String)
  deriving DecidableEq, Repr

def TomlCause.message : TomlCause → String
  | endOfText => "unexpected eof encountered"
  | characterInString c => "invalid character in string: `" ++ Quoted.character c ++ "`"
  | escape c => "invalid escape character in string: `" ++ Quoted.character c ++ "`"
  | hexEscape c => "invalid hex escape character in string: `" ++ Quoted.character c ++ "`"
  | escapeValue n => "invalid escape value: `" ++ Numeral.text n ++ "`"
  | newlineInString => "newline in string found"
  | character c => "unexpected character found: `" ++ Quoted.character c ++ "`"
  | openString => "unterminated string"
  | multilineKey => "multiline strings are not allowed for key"
  | wanted expected found => "expected " ++ expected ++ ", found " ++ found
  | number => "invalid number"
  | date => "invalid date"
  | dateText => "failed to parse datetime"
  | repeatedTable name => "redefinition of table `" ++ name ++ "`"
  | tableAsArray => "table redefined as array"
  | dottedKey => "dotted key attempted to extend non-table type"
  | bareText => "invalid TOML value, did you mean to use a quoted string?"
  | repeatedKey key => "duplicate key: `" ++ key ++ "`"

/-- A fault on its way out: the offset may still be open. -/
structure TomlFault where
  cause : TomlCause
  offset : Option Nat
  keys : List String := []
  deriving DecidableEq, Repr

namespace TomlFault

/-- A fault at an offset. -/
def at_ (cause : TomlCause) (offset : Nat) : TomlFault := { cause, offset := some offset }

def under (f : TomlFault) (key : String) : TomlFault := { f with keys := key :: f.keys }

/-- The fault, at an offset unless it has one. -/
def orAt (f : TomlFault) (offset : Nat) : TomlFault :=
  { f with offset := some (f.offset.getD offset) }

end TomlFault

/-- A refused TOML text. -/
structure TomlError where
  cause : TomlCause
  keys : List String
  place : TextPlace
  deriving DecidableEq, Repr

/-- The wording of an error; columns count from one. -/
def TomlError.message (e : TomlError) : String :=
  let key := if e.keys.isEmpty then "" else " for key `" ++ ".".intercalate e.keys ++ "`"
  e.cause.message ++ key ++ " at line " ++ Numeral.text e.place.line ++ " column "
    ++ Numeral.text (e.place.column + 1)

end VoiceLink
