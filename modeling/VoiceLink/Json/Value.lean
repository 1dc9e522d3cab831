import VoiceLink.Text.Numeral
import VoiceLink.Text.Shortest

/-!
# JSON values

A value as it was written: members of an object keep their order and may repeat. Whole numbers of at
most 64 bits are exact, all others are doubles.

Order and repetition matter here. A reader of a message reports a member that stands twice, and of
several faults the one that comes first in the text.
-/

namespace VoiceLink

/-- A JSON number: an exact integer within 64 bits, or a double. -/
inductive JsonNumber where
  | int (value : Int)
  | real (value : Float)
  deriving Inhabited

inductive Json where
  | null
  | bool (value : Bool)
  | number (value : JsonNumber)
  | string (value : String)
  | array (elements : List Json)
  | object (members : List (String × Json))
  deriving Inhabited

namespace Json

def int (n : Int) : Json := .number (.int n)

def nat (n : Nat) : Json := .number (.int n)

end Json

end VoiceLink
