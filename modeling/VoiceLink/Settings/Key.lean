import VoiceLink.Settings.Value
import VoiceLink.Text.Numeral

/-!
# Keys of settings

A key leads into a tree of settings: a name, then steps to members and items, written `a.b[2]`.
Every text is a key, as a text outside the notation is a name on its own: no layer can be refused
for what it calls its settings.
-/

namespace VoiceLink

/-- One step into a value: to a member of a table or an item of a sequence. -/
inductive KeyStep where
  | member (name : String)
  /-- Negative positions count from the end. -/
  | item (position : Int)
  deriving DecidableEq, Repr

/-- A name at the top and the steps from there. -/
structure SettingKey where
  root : String
  steps : List KeyStep
  deriving DecidableEq, Repr

namespace SettingKey

def isNameChar (c : Char) : Bool := c.isAlphanum || c = ' ' || c = '_' || c = '-'

def name? (cs : List Char) : Option (String × List Char) :=
  let taken := cs.takeWhile isNameChar
  if taken.isEmpty then none else some (String.ofList taken, cs.dropWhile isNameChar)

def skipBlanks (cs : List Char) : List Char := cs.dropWhile fun c => c = ' ' || c = '\t'

/-- A position in brackets, from behind the opening one. -/
def position? (cs : List Char) : Option (Int × List Char) :=
  -- blanks may stand around a position, and nowhere else in a key
  let cs := skipBlanks cs
  let (negative, cs) := match cs with
    | '-' :: rest => (true, rest)
    | _ => (false, cs)
  let digits := cs.takeWhile Char.isDigit
  let n := Numeral.ofDigits digits
  match skipBlanks (cs.dropWhile Char.isDigit) with
  | ']' :: rest =>
    if digits.isEmpty then none
    else (Word.ofSign? negative n).map fun n => (n, rest)
  | _ => none

/-- The steps behind a name. Each takes a character, so the length of the text bounds them. -/
def steps? : Nat → List Char → Option (List KeyStep)
  | _, [] => some []
  | 0, _ => none
  | fuel + 1, '.' :: cs => do
    let (name, cs) ← name? cs
    return .member name :: (← steps? fuel cs)
  | fuel + 1, '[' :: cs => do
    let (position, cs) ← position? cs
    return .item position :: (← steps? fuel cs)
  | _, _ => none

/-- The key a text is in the notation of keys. -/
def ofChars? (cs : List Char) : Option SettingKey := do
  let (root, rest) ← name? cs
  return { root, steps := ← steps? rest.length rest }

/-- The key a text stands for. A text outside the notation is itself a name. -/
def ofText (s : String) : SettingKey := (ofChars? s.toList).getD { root := s, steps := [] }

end SettingKey

end VoiceLink
