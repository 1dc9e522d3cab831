import VoiceLink.Settings.Value
import VoiceLink.Text.Letter
import VoiceLink.Text.Numeral
import VoiceLink.Text.Quoted

/-!
# Settings in INI notation

Lines assign texts to keys, below headers in brackets. Keys and values lose the blanks around them;
values may be quoted, and a backslash escapes what follows it. A section that is opened again starts
over.

There is hardly a text that is refused. What matters is where the errors that there are are noticed:
the cursor keeps the line and the column of the character that is looked at, and counts them in a
way of its own, by which a line end already belongs to the line it opens.
-/

namespace VoiceLink

/-! ## Errors -/

/-- Why a text in INI notation was refused. -/
inductive IniCause where
  | inlineComment
  | missingKey
  /-- The text ended before one of some characters. -/
  | endOfText (awaited : List (Option Char))
  | escapedBreak (found : Option Char)
  | escapedNumber
  deriving DecidableEq, Repr

/-- How messages show a character that may be missing. -/
def IniCause.awaitedText : Option Char → String
  | none => "None"
  | some c => "Some(" ++ Quoted.single c ++ ")"

def IniCause.message : IniCause → String
  | inlineComment => "doesn't support inline comment"
  | missingKey => "missing key"
  | endOfText awaited =>
    "expecting \"[" ++ ", ".intercalate (awaited.map awaitedText) ++ "]\" but found EOF."
  | escapedBreak found => "expecting \"\\\\n\" but found \"" ++ awaitedText found ++ "\"."
  | escapedNumber => "unknown character in \\xHH form"

/-- A refused text: the cause, the line, counted from zero, and the column, counted from one. -/
structure IniError where
  cause : IniCause
  line : Nat
  column : Nat
  deriving DecidableEq, Repr

def IniError.message (e : IniError) : String :=
  Numeral.text e.line ++ ":" ++ Numeral.text e.column ++ " " ++ e.cause.message

/-! ## The cursor -/

/-- What is left of a text, from the character that is looked at, which stands in a line and column.
A line end stands in the column before the first of the line it opens. -/
structure IniCursor where
  line : Nat
  column : Nat
  rest : List Char

namespace IniCursor

/-- The cursor at what is left after one more character has been taken. -/
def arrive (line column : Nat) (rest : List Char) : IniCursor :=
  match rest with
  | '\n' :: _ => { line := line + 1, column := 0, rest }
  | _ :: _ => { line, column := column + 1, rest }
  | [] => { line, column, rest }

def start (text : List Char) : IniCursor := arrive 0 0 text

def next (c : IniCursor) : IniCursor := arrive c.line c.column (c.rest.drop 1)

def here (c : IniCursor) : Option Char := c.rest.head?

def fail {α : Type} (c : IniCursor) (cause : IniCause) : Except IniError α :=
  .error { cause, line := c.line, column := c.column }

/-- Past the characters of a class, at most `fuel`. -/
def skip (p : Char → Bool) : Nat → IniCursor → IniCursor
  | 0, c => c
  | fuel + 1, c =>
    match c.here with
    | some ch => if p ch then skip p fuel c.next else c
    | none => c

/-- Past blanks and line ends. -/
def skipBlanks (c : IniCursor) : IniCursor := skip Blank.isBlank c.rest.length c

def skipInLine (c : IniCursor) : IniCursor :=
  skip (fun ch => Blank.isBlank ch && ch != '\n' && ch != '\r') c.rest.length c

/-! ## Escapes -/

/-- The digits of a numbered escape. A backslash before a line end may stand in for a digit, which
makes the number no number. -/
def digits (awaited : List (Option Char)) :
    Nat → IniCursor → Except IniError (List Char × IniCursor)
  | 0, c => .ok ([], c)
  | count + 1, c => do
    let c := c.next
    match c.here with
    | none => c.fail (.endOfText awaited)
    | some ch =>
      let c := if ch = '\\' then c.next else c
      if ch = '\\' ∧ c.here ≠ some '\n' then c.fail (.escapedBreak c.here)
      else do
        let (more, c) ← digits awaited count c
        return (ch :: more, c)

/-- The character with a number in hexadecimal digits, if there is one. A plus sign may lead. -/
def numbered? (ds : List Char) : Option Char :=
  let step (n : Option Nat) (c : Char) : Option Nat := do
    return 16 * (← n) + (← Numeral.hexValue? c)
  let ds := if ds.head? = some '+' then ds.drop 1 else ds
  match ds.foldl step (some 0) with
  | some n => if n < 0xD800 ∨ (0xE000 ≤ n ∧ n < 0x110000) then some (Char.ofNat n) else none
  | none => none

/-- What an escape stands for, from the character behind the backslash; the cursor stays at the last
character of the escape. -/
def escape (awaited : List (Option Char)) (c : IniCursor) :
    Except IniError (List Char × IniCursor) :=
  match c.here with
  | none => c.fail (.endOfText awaited)
  | some '0' => .ok (['\x00'], c)
  | some 'a' => .ok (['\x07'], c)
  | some 'b' => .ok (['\x08'], c)
  | some 't' => .ok (['\t'], c)
  | some 'r' => .ok (['\r'], c)
  | some 'n' => .ok (['\n'], c)
  | some '\n' => .ok ([], c)
  | some 'x' => do
    let (ds, c) ← digits awaited 4 c
    match numbered? ds with
    | some ch => return ([ch], c)
    | none => c.fail .escapedNumber
  | some ch => .ok ([ch], c)

/-! ## Keys and values -/

/-- The text up to one of some characters, or to the end if that is among them. -/
def upTo (awaited : List (Option Char)) : Nat → IniCursor → Except IniError (List Char × IniCursor)
  | 0, c => .ok ([], c)
  | fuel + 1, c =>
    if awaited.contains c.here then .ok ([], c)
    else
      match c.here with
      | none => c.fail (.endOfText awaited)
      | some ch => do
        let (taken, c) ← if ch = '\\' then escape awaited c.next else pure ([ch], c)
        let (more, c) ← upTo awaited fuel c.next
        return (taken ++ more, c)

def textUntil (awaited : List (Option Char)) (c : IniCursor) :
    Except IniError (List Char × IniCursor) :=
  upTo awaited (c.rest.length + 1) c

def restOfLine (c : IniCursor) : Except IniError (List Char × IniCursor) :=
  c.textUntil [some '\n', some '\r', none]

/-- A value, from its equals sign or colon. Of a quoted value the quotes do not count. -/
def value (c : IniCursor) : Except IniError (List Char × IniCursor) :=
  let c := c.next.skipInLine
  let quoted (quote : Char) : Except IniError (List Char × IniCursor) := do
    let (inner, c) ← c.next.textUntil [some quote]
    let (outer, c) ← c.next.restOfLine
    return (inner ++ outer, c)
  match c.here with
  | none => .ok ([], c)
  | some '"' => quoted '"'
  | some '\'' => quoted '\''
  | some _ => c.restOfLine

def trimmed (cs : List Char) : String := String.ofList (Blank.trim cs)

/-- The sections of a text, in order, with the assignments in each; the first has no name. `key` is
the key that was read last and has no value yet. -/
def sections : Nat → (key : String) → List (Option String × List (String × String)) → IniCursor →
    Except IniError (List (Option String × List (String × String)))
  | 0, _, done, _ => .ok done
  | fuel + 1, key, done, c => do
    let c := c.skipBlanks
    match c.here with
    | none => return done
    | some ch =>
      if ch = ';' ∨ ch = '#' then
        -- a comment needs a line of its own
        if 1 < c.column then c.fail .inlineComment
        else
          let c := skip (· ≠ '\n') c.rest.length c
          sections fuel key done c.next
      else if ch = '[' then do
        let (name, c) ← c.next.textUntil [some ']']
        sections fuel key (done ++ [(some (trimmed name), [])]) c.next
      else if ch = '=' ∨ ch = ':' then
        if key = "" then c.fail .missingKey
        else do
          let (v, c) ← c.value
          -- the section that was opened last is the last in the list
          let add (s : Option String × List (String × String)) :=
            (s.1, s.2 ++ [(key, trimmed v)])
          sections fuel "" (done.modify (done.length - 1) add) c
      else do
        let (name, c) ← c.textUntil [some '=', some ':']
        sections fuel (trimmed name) done c

end IniCursor

/-! ## Tables -/

namespace Ini

/-- The members of a table with those of a section added: on top for the nameless section, as a
table of their own for any other. -/
def addSection (members : List (String × Datum)) (s : Option String × List (String × String)) :
    List (String × Datum) :=
  let texts := s.2.map fun (key, value) => (key, Datum.text value)
  match s.1 with
  | none => texts.foldl (fun ms (key, v) => insertMember key v ms) members
  | some name =>
    let table := texts.foldl (fun ms (key, v) => insertMember key v ms) []
    insertMember name (.table table) members

def parse (text : String) : Except IniError Datum := do
  let cs := text.toList
  let sections ← IniCursor.sections (cs.length + 1) "" [(none, [])] (.start cs)
  return .table (sections.foldl addSection [])

end Ini

end VoiceLink
