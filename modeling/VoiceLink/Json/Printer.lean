import VoiceLink.Json.Value

/-!
# Writing JSON

Compact texts: no blanks, members in the order they have. In strings the quote, the backslash and
the control characters are escaped and all else stands for itself.

Writing works on lists of characters, so that what `JsonReader` reads off a list can be set against
what is written to one; `Json.text` makes a text of it in the end.
-/

namespace VoiceLink.Json

def escapeChar (c : Char) : List Char :=
  if c = '"' then ['\\', '"']
  else if c = '\\' then ['\\', '\\']
  else if c = '\x08' then ['\\', 'b']
  else if c = '\x0c' then ['\\', 'f']
  else if c = '\n' then ['\\', 'n']
  else if c = '\r' then ['\\', 'r']
  else if c = '\t' then ['\\', 't']
  else if c.toNat < 32 then
    ['\\', 'u', '0', '0', Numeral.hexChar (c.toNat / 16), Numeral.hexChar (c.toNat % 16)]
  else [c]

def quote (s : String) : List Char := '"' :: s.toList.flatMap escapeChar ++ ['"']

def numberChars : JsonNumber → List Char
  | .int (.ofNat n) => Numeral.digits n
  | .int (.negSucc n) => '-' :: Numeral.digits (n + 1)
  | .real x => (Shortest.text Shortest.dataLayout x).toList

mutual

def chars : Json → List Char
  | .null => ['n', 'u', 'l', 'l']
  | .bool true => ['t', 'r', 'u', 'e']
  | .bool false => ['f', 'a', 'l', 's', 'e']
  | .number n => numberChars n
  | .string s => quote s
  | .array xs => '[' :: elementChars true xs ++ [']']
  | .object ms => '\x7b' :: memberChars true ms ++ ['\x7d']

/-- The elements of an array; all but the first stand behind a comma. -/
def elementChars : Bool → List Json → List Char
  | _, [] => []
  | first, x :: xs => (if first then [] else [',']) ++ chars x ++ elementChars false xs

/-- The members of an object; all but the first stand behind a comma. -/
def memberChars : Bool → List (String × Json) → List Char
  | _, [] => []
  | first, (key, x) :: ms =>
    (if first then [] else [',']) ++ quote key ++ ':' :: chars x ++ memberChars false ms

end

def text (v : Json) : String := String.ofList v.chars

end VoiceLink.Json
