import VoiceLink.Json.Value
import VoiceLink.Settings.Value
import VoiceLink.Text.Numeral

/-!
# Settings from JSON

JSON values as values of settings. Of members of one name the last counts, at the place of the
first; whole numbers beyond 63 bits become numbers with a fraction.
-/

namespace VoiceLink

namespace JsonNumber

def scalar : JsonNumber → Scalar
  | int n => if Word.isSigned n then .integer n else .real (Float.ofInt n)
  | real x => .real x

end JsonNumber

namespace Json

mutual

def datum : Json → Datum
  | .null => .unit
  | .bool b => .boolean b
  | .number n => .scalar n.scalar
  | .string s => .text s
  | .array xs => .sequence (data xs)
  | .object ms => .table (entries [] ms)

def data : List Json → List Datum
  | [] => []
  | x :: xs => datum x :: data xs

/-- The members of a table that `seen` and the members behind it make up. -/
def entries (seen : List (String × Datum)) : List (String × Json) → List (String × Datum)
  | [] => seen
  | (key, x) :: ms => entries (insertMember key (datum x) seen) ms

end

end Json

end VoiceLink
