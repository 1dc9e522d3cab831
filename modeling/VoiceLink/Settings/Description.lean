import VoiceLink.Settings.Value
import VoiceLink.Text.Numeral
import VoiceLink.Text.Quoted
import VoiceLink.Text.Shortest

/-!
# Descriptions of values

How messages describe the value that stands where another kind of value is wanted. There are two
forms of most: one for the value of a field, which gives the width of whole numbers, and one for
values that stand for a section or a key.
-/

namespace VoiceLink

/-- A number with its fraction, as messages show it: positional, always with a point. -/
def Shortest.pointLayout : Shortest.Layout := { least := -400, most := 400, wholePoint := true }

namespace Scalar

def description : Scalar → String
  | unit => "unit value"
  | boolean b => "boolean `" ++ (if b then "true" else "false") ++ "`"
  | integer n => "integer `" ++ Numeral.signedText n ++ "`"
  | real x => "floating point `" ++ Shortest.text Shortest.pointLayout x ++ "`"
  | text s => "string " ++ Quoted.text s

/-- How a single value is described where the value of a field is wanted: whole numbers have a
width, and numbers with a fraction need no point. -/
def fieldDescription : Scalar → String
  | integer n => "integer 64 bit `" ++ Numeral.signedText n ++ "`"
  | real x => "floating point `" ++ Shortest.text Shortest.plainLayout x ++ "`"
  | other => other.description

end Scalar

/-- How a value is described where a table is wanted. -/
def Datum.description : Datum → String
  | scalar v => v.fieldDescription
  | sequence _ => "sequence"
  | table _ => "map"

end VoiceLink
