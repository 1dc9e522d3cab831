import VoiceLink.Settings.Yaml.Scalar
import VoiceLink.Settings.Yaml.Tag

/-!
# The tokens of YAML

Indentation becomes tokens that open and close collections. A key in front of a colon is not marked
as one; when the colon is met, the token that marks keys is put in front of what has been read since
the key began.

So the scanner remembers where a key may have begun, one place for every bracket that is open. Such
a candidate lasts to the end of its line at most. A candidate that stands in the column of its
collection has to turn out to be a key, and it is a fault if it cannot.
-/

namespace VoiceLink

/-- The tokens of a YAML text. -/
inductive YamlToken where
  | streamEnd
  | directive
  | documentStart
  | documentEnd
  | blockSequenceStart
  | blockMappingStart
  | blockEnd
  | flowSequenceStart
  | flowSequenceEnd
  | flowMappingStart
  | flowMappingEnd
  | blockEntry
  | flowEntry
  | key
  | value
  | reference (name : String)
  | anchor (name : String)
  | tag (type : YamlTag)
  | scalar (isPlain : Bool) (text : String)
  deriving DecidableEq, Repr

/-! ## The scanner -/

/-- A place where a key may have begun: the token it would be in front of. -/
structure KeyCandidate where
  mark : YamlMark
  index : Nat
  position : Nat
  /-- Whether nothing but a key may stand there. -/
  required : Bool
  deriving Repr

/-- The tokens of a text so far, and what is needed to find the next. -/
structure YamlScanner where
  cursor : YamlCursor
  tokens : List (YamlMark × YamlToken) := []
  /-- Whether a key may begin here. -/
  keyAllowed : Bool := true
  /-- The candidate in each of the open brackets, the innermost first, and outside all of them. -/
  candidates : List (Option KeyCandidate) := [none]
  /-- The columns of the open collections without brackets, the innermost first. -/
  columns : List Nat := []
  /-- The index right behind the last quoted scalar. -/
  adjacent : Nat := 0

abbrev YamlStep := Except YamlFault YamlScanner

namespace YamlScanner

open YamlCursor

/-- How many brackets are open. -/
def depth (s : YamlScanner) : Nat := s.candidates.length - 1

def inFlow (s : YamlScanner) : Bool := 0 < s.depth

/-- The column of the innermost collection without brackets. -/
def column? (s : YamlScanner) : Option Nat := s.columns.head?

def fail (s : YamlScanner) (info : String) : YamlStep := failAt s.cursor.mark info

def push (s : YamlScanner) (mark : YamlMark) (t : YamlToken) : YamlScanner :=
  { s with tokens := s.tokens ++ [(mark, t)] }

def insert (s : YamlScanner) (position : Nat) (mark : YamlMark) (t : YamlToken) : YamlScanner :=
  { s with tokens := s.tokens.insertIdx position (mark, t) }

/-! ### Candidates for keys -/

/-- The innermost candidate. -/
def candidate? (s : YamlScanner) : Option KeyCandidate := s.candidates.head?.join

def setCandidate (s : YamlScanner) (k : Option KeyCandidate) : YamlScanner :=
  { s with candidates := k :: s.candidates.drop 1 }

/-- Drop the innermost candidate, unless it has to be a key. -/
def dropCandidate (s : YamlScanner) : YamlStep :=
  match s.candidate? with
  | some k => if k.required then s.fail "simple key expected" else .ok (s.setCandidate none)
  | none => .ok s

/-- Note that a key may begin here. -/
def noteCandidate (s : YamlScanner) : YamlStep :=
  if s.keyAllowed then do
    let required := s.inFlow && s.column? == some s.cursor.column
    let k : KeyCandidate :=
      { mark := s.cursor.mark, index := s.cursor.index, position := s.tokens.length, required }
    return (← s.dropCandidate).setCandidate (some k)
  else .ok s

def maxKeyLength : Nat := 1024

/-- Drop the candidates that are on an earlier line or too far back. -/
def dropStale (s : YamlScanner) : YamlStep :=
  let isStale (k : KeyCandidate) : Bool :=
    k.mark.line < s.cursor.mark.line || k.index + maxKeyLength < s.cursor.index
  if (s.candidates.filterMap id).any fun k => isStale k && k.required then
    s.fail "simple key expect ':'"
  else
    .ok { s with candidates := s.candidates.map fun k => k.filter fun k => !isStale k }

/-! ### Columns

Inside brackets indentation means nothing, so that columns are neither opened nor closed there. -/

/-- Open a collection in a column, if it is to the right of the innermost one. -/
def openColumn (s : YamlScanner) (column position : Nat) (mark : YamlMark) (t : YamlToken) :
    YamlScanner :=
  let deeper := match s.column? with
    | none => true
    | some n => decide (n < column)
  if !s.inFlow && deeper then
    { s with columns := column :: s.columns }.insert position mark t
  else s

/-- Close the collections in columns for which a test holds. -/
def closeColumns (s : YamlScanner) (closes : Nat → Bool) : YamlScanner :=
  if s.inFlow then s
  else
    let closed := s.columns.takeWhile closes
    { s with
      columns := s.columns.dropWhile closes
      tokens := s.tokens ++ closed.map fun _ => (s.cursor.mark, .blockEnd) }

/-- Past a token of some characters. -/
def take (s : YamlScanner) (count : Nat) (t : YamlToken) : YamlScanner :=
  { s.push s.cursor.mark t with cursor := YamlCursor.skip count s.cursor }

/-- Past blanks, comments and line ends. Tabs only count as blanks where no key may begin. -/
def skipGap : Nat → YamlScanner → YamlScanner
  | 0, s => s
  | fuel + 1, s =>
    let c := s.cursor
    if c.here = ' ' ∨ (c.here = '\t' ∧ (s.inFlow ∨ ¬ s.keyAllowed)) then
      skipGap fuel { s with cursor := c.next }
    else if isBreak c.here then
      skipGap fuel { s with cursor := c.skipBreak, keyAllowed := s.keyAllowed || !s.inFlow }
    else if c.here = '#' then skipGap fuel { s with cursor := c.skipLine }
    else s

/-! ### The kinds of tokens

Every kind has a step of its own, which begins where its token begins. A step says what becomes of
the innermost candidate, whether a key may begin behind it, and puts its tokens at the end. -/

def streamEnd (s : YamlScanner) : YamlStep := do
  let mark := s.cursor.mark
  -- the end of the text also ends its last line
  let mark := if mark.column = 0 then mark else { line := mark.line + 1, column := 0 }
  let s := { s with cursor := { s.cursor with mark } }
  let s ← (s.closeColumns fun _ => true).dropCandidate
  return s.push mark .streamEnd

def directive (s : YamlScanner) : YamlStep := do
  let s ← (s.closeColumns fun _ => true).dropCandidate
  let c ← s.cursor.directive
  return { { s with keyAllowed := false }.push s.cursor.mark .directive with cursor := c }

def border (s : YamlScanner) (t : YamlToken) : YamlStep := do
  let s ← (s.closeColumns fun _ => true).dropCandidate
  return { s with keyAllowed := false }.take 3 t

def openBracket (s : YamlScanner) (t : YamlToken) : YamlStep := do
  let s ← s.noteCandidate
  if 255 ≤ s.depth then s.fail "recursion limit exceeded"
  else return { s with candidates := none :: s.candidates, keyAllowed := true }.take 1 t

def closeBracket (s : YamlScanner) (t : YamlToken) : YamlStep := do
  let s ← s.dropCandidate
  let candidates := if s.inFlow then s.candidates.drop 1 else s.candidates
  return { s with candidates, keyAllowed := false }.take 1 t

def flowEntry (s : YamlScanner) : YamlStep := do
  let s ← s.dropCandidate
  return { s with keyAllowed := true }.take 1 .flowEntry

def blockEntry (s : YamlScanner) : YamlStep :=
  if s.inFlow then s.fail "\"-\" is only valid inside a block"
  else if ¬ s.keyAllowed then
    s.fail "block sequence entries are not allowed in this context"
  else do
    let c := s.cursor
    let s := s.openColumn c.column s.tokens.length c.mark .blockSequenceStart
    let s ← s.dropCandidate
    return { s with keyAllowed := true }.take 1 .blockEntry

def explicitKey (s : YamlScanner) : YamlStep :=
  if !s.inFlow && !s.keyAllowed then s.fail "mapping keys are not allowed in this context"
  else do
    let c := s.cursor
    let s := s.openColumn c.column s.tokens.length c.mark .blockMappingStart
    let s ← s.dropCandidate
    return { s with keyAllowed := !s.inFlow }.take 1 .key

/-- The colon of a value. If a key may have begun, it did, and a mapping may begin with it. -/
def value (s : YamlScanner) : YamlStep :=
  let c := s.cursor
  match s.candidate? with
  | some k =>
    let s := s.insert k.position k.mark .key
    let s := s.openColumn k.mark.column k.position c.mark .blockMappingStart
    let s := s.setCandidate none
    .ok ({ s with keyAllowed := false }.take 1 .value)
  | none =>
    if !s.inFlow && !s.keyAllowed then s.fail "mapping values are not allowed in this context"
    else
      let s := s.openColumn c.column s.tokens.length c.mark .blockMappingStart
      .ok ({ s with keyAllowed := !s.inFlow }.take 1 .value)

/-- A name given to a value, or a reference to one. -/
def name (s : YamlScanner) (make : String → YamlToken) : YamlStep := do
  let s ← s.noteCandidate
  let c := s.cursor
  let chars := c.next.rest.takeWhile isNameChar
  let after := YamlCursor.skip chars.length c.next
  let ends :=
    isGap after.here || ['?', ':', ',', ']', '\x7d', '%', '@', '\x60'].contains after.here
  if chars.isEmpty || !ends then
    s.fail
      "while scanning an anchor or alias, did not find expected alphabetic or numeric character"
  else
    let s := { s with keyAllowed := false }.push c.mark (make (String.ofList chars))
    return { s with cursor := after }

def tag (s : YamlScanner) : YamlStep := do
  let s ← s.noteCandidate
  let (type, c) ← s.cursor.tag
  return { { s with keyAllowed := false }.push s.cursor.mark (.tag type) with cursor := c }

def blockScalar (s : YamlScanner) (literal : Bool) : YamlStep := do
  let s ← s.noteCandidate
  let (mark, text, c) ← YamlCursor.block literal s.column? s.cursor
  let s := { s with keyAllowed := true }.push mark (.scalar false (String.ofList text))
  return { s with cursor := c }

def quotedScalar (s : YamlScanner) (single : Bool) : YamlStep := do
  let s ← s.noteCandidate
  let (text, c) ← YamlCursor.quoted single s.cursor
  let s := { s with keyAllowed := false }.push s.cursor.mark (.scalar false (String.ofList text))
  return { s with cursor := c, adjacent := c.index }

def plainScalar (s : YamlScanner) : YamlStep := do
  let s ← s.noteCandidate
  let indent := match s.column? with
    | some n => n + 1
    | none => 0
  let (text, broken, c) ← YamlCursor.plain s.inFlow indent s.cursor
  let s := { s with keyAllowed := broken }.push s.cursor.mark (.scalar true (String.ofList text))
  return { s with cursor := c }

/-! ### The steps of a scan -/

def token (s : YamlScanner) : YamlStep :=
  let c := s.cursor
  let following := c.ahead 1
  if isEnd c.here then s.streamEnd
  else if c.column = 0 ∧ c.here = '%' then s.directive
  else if c.atRule '-' then s.border .documentStart
  else if c.atRule '.' then s.border .documentEnd
  else
    match c.here with
    | '[' => s.openBracket .flowSequenceStart
    | '\x7b' => s.openBracket .flowMappingStart
    | ']' => s.closeBracket .flowSequenceEnd
    | '\x7d' => s.closeBracket .flowMappingEnd
    | ',' => s.flowEntry
    | '*' => s.name .reference
    | '&' => s.name .anchor
    | '!' => s.tag
    | '\'' => s.quotedScalar true
    | '"' => s.quotedScalar false
    | '-' => if isGap following then s.blockEntry else s.plainScalar
    | '?' =>
      if isGap following then s.explicitKey
      else s.plainScalar
    | ':' =>
      if isGap following || (s.inFlow && (isFlow following || c.index = s.adjacent)) then s.value
      else s.plainScalar
    | ch =>
      if (ch = '|' ∨ ch = '>') ∧ ¬ s.inFlow then s.blockScalar (ch = '|')
      else if ch = '%' ∨ ch = '@' ∨ ch.toNat = 96 then
        s.fail ("unexpected character: " ++ String.ofList [Char.ofNat 96, ch, '\''])
      else s.plainScalar

/-- One step: past the gap, out of the collections that have ended, and past one token. -/
def step (s : YamlScanner) : YamlStep := do
  let s := skipGap (s.cursor.rest.length + 1) s
  let s ← s.dropStale
  let s := s.closeColumns fun n => s.cursor.column < n
  (← s.token).dropStale

def isDone (s : YamlScanner) : Bool :=
  match s.tokens.getLast? with
  | some (_, .streamEnd) => true
  | _ => false

/-- The tokens in front of every place where a key may have begun. -/
def settled (s : YamlScanner) : List (YamlMark × YamlToken) :=
  s.tokens.take (((s.candidates.filterMap id).map (·.position)).foldl min s.tokens.length)

/-- The tokens up to the end of the text or to what is wrong with it. A token is only given out when
it is known whether a key begins with it. -/
def run : Nat → YamlScanner → List (YamlMark × YamlToken) × Option YamlFault
  | 0, s => (s.tokens, none)
  | fuel + 1, s =>
    match s.step with
    | .error f => (s.settled, some f)
    | .ok s => if s.isDone then (s.tokens, none) else run fuel s

end YamlScanner

end VoiceLink
