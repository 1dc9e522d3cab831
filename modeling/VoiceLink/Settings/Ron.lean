import VoiceLink.Settings.Description
import VoiceLink.Text.Numeral
import VoiceLink.Text.Place
import VoiceLink.Text.Real

/-!
# Settings in object notation with names

Values may carry the name of their type in front. In parentheses stand members with bare names, or
items without names; braces hold members whose keys are values, brackets hold items. Numbers may be
written to other bases, texts without escapes, and comments may nest.

Keys are values of any kind, and a mapping sorts its members by them before it is known whether they
can be keys of settings. So the order of all values is needed, and which of several keys that cannot
be is the one complained of depends on it.
-/

namespace VoiceLink

/-! ## Errors -/

inductive RonEscapeFault where
  | unknown
  | digit
  | noBrace
  | noDigits
  | openBrace
  | noCharacter
  deriving DecidableEq, Repr

def RonEscapeFault.message : RonEscapeFault → String
  | unknown => "Unknown escape character"
  | digit => "Non-hex digit found"
  | noBrace => "Missing \x7b"
  | noDigits => "Expected 1-6 digits, got 0 digits"
  | openBrace => "No \x7d at the end"
  | noCharacter => "Not a valid char"

inductive RonCause where
  | endOfText
  | optionEnd
  | option
  | colon
  | comma
  | attributeStart
  | attributeEnd
  | unknownExtension (name : String)
  | identifier
  | character
  | float
  | floatUnderscore
  | string
  | stringEnd
  | escape (fault : RonEscapeFault)
  | openComment
  /-- A byte, as the character of its number. -/
  | unexpectedByte (byte : Char)
  | trailing
  deriving DecidableEq, Repr

def RonCause.message : RonCause → String
  | endOfText => "Unexpected end of RON"
  | optionEnd => "Expected closing \x60)\x60"
  | option => "Expected option"
  | colon => "Expected colon"
  | comma => "Expected comma"
  | attributeStart => "Expected an \x60#![enable(...)]\x60 attribute"
  | attributeEnd => "Expected closing \x60)]\x60 after the enable attribute"
  | unknownExtension name => "No RON extension '" ++ name ++ "'"
  | identifier => "Expected identifier"
  | character => "Expected char"
  | float => "Expected float"
  | floatUnderscore => "Unexpected underscore in float"
  | string => "Expected string"
  | stringEnd => "Expected end of string"
  | escape fault => "Invalid escape sequence '" ++ fault.message ++ "'"
  | openComment => "Unclosed block comment"
  | unexpectedByte byte => "Unexpected byte " ++ Quoted.single byte
  | trailing => "Non-whitespace trailing characters"

/-- Why a text in object notation holds no settings: it has another form, or a key is no text. -/
inductive RonError where
  | refused (cause : RonCause) (place : TextPlace)
  | key (found : String)
  deriving DecidableEq, Repr

/-- The wording of an error; columns count from one. -/
def RonError.message : RonError → String
  | refused cause place =>
    Numeral.text place.line ++ ":" ++ Numeral.text (place.column + 1) ++ ": " ++ cause.message
  | key found => "invalid type: " ++ found ++ ", expected a string"

/-! ### Values

The order goes by the kind first. Within a kind it is the usual one; what is no number comes before
all numbers with a fraction and equals itself, so that it can be found again as a key. -/

/-- A value in object notation. The keys of a mapping are values too, and its members stand in the
order of their keys. -/
inductive RonValue where
  | boolean (value : Bool)
  | character (value : Char)
  | mapping (members : List (RonValue × RonValue))
  | integer (value : Int)
  | real (value : Float)
  | absent
  | present (value : RonValue)
  | text (value : String)
  | sequence (items : List RonValue)
  | unit
  deriving Inhabited

namespace RonValue

def rank : RonValue → Nat
  | boolean _ => 0
  | character _ => 1
  | mapping _ => 2
  | integer _ => 3
  | real _ => 4
  | absent => 5
  | present _ => 6
  | text _ => 7
  | sequence _ => 8
  | unit => 9

/-- The order of numbers with a fraction: what is no number comes first. -/
def orderReals (x y : Float) : Ordering :=
  if x.isNaN then if y.isNaN then .eq else .lt
  else if y.isNaN then .gt
  else if x < y then .lt
  else if y < x then .gt
  else .eq

mutual

def order : RonValue → RonValue → Ordering
  | boolean a, boolean b => compare a b
  | character a, character b => compare a.toNat b.toNat
  | mapping xs, mapping ys => orderMembers xs ys
  | integer a, integer b => compare a b
  | real a, real b => orderReals a b
  | present a, present b => order a b
  | text a, text b => compare a b
  | sequence xs, sequence ys => orderItems xs ys
  | a, b => compare a.rank b.rank

/-- The order of sequences: the first items that differ decide. -/
def orderItems : List RonValue → List RonValue → Ordering
  | [], [] => .eq
  | [], _ :: _ => .lt
  | _ :: _, [] => .gt
  | x :: xs, y :: ys => (order x y).then (orderItems xs ys)

/-- The order of mappings: the first members that differ decide. -/
def orderMembers : List (RonValue × RonValue) → List (RonValue × RonValue) → Ordering
  | [], [] => .eq
  | [], _ :: _ => .lt
  | _ :: _, [] => .gt
  | (k, x) :: xs, (l, y) :: ys => ((order k l).then (order x y)).then (orderMembers xs ys)

end

/-- The members of a mapping with one more. A key that is there already keeps its place, and gets
the new value. -/
def insert (key value : RonValue) : List (RonValue × RonValue) → List (RonValue × RonValue)
  | [] => [(key, value)]
  | (k, x) :: ms =>
    match order key k with
    | .lt => (key, value) :: (k, x) :: ms
    -- equal keys need not look alike: the first one given stays
    | .eq => (k, value) :: ms
    | .gt => (k, x) :: insert key value ms

/-- A whole number of up to 128 bits. Beyond 63 bits it is rounded. -/
def ofInt (n : Int) : RonValue :=
  if Word.isSigned n then .integer n
  else .real (Real.ofDecimal (n < 0) (Numeral.digits n.natAbs) [] 0)

def keyName? : RonValue → Option String
  | text s => some s
  | character c => some (String.singleton c)
  | _ => none

/-- How a value is described where a key is wanted. -/
def description : RonValue → String
  | boolean b => (Scalar.boolean b).description
  | integer n => (Scalar.integer n).description
  | real x => (Scalar.real x).description
  | text s => (Scalar.text s).description
  | character c => (Scalar.text (String.singleton c)).description
  | unit => Scalar.unit.description
  | absent | present _ => "Option value"
  | mapping _ => "map"
  | sequence _ => "sequence"

mutual

def datum : RonValue → Except RonError Datum
  | boolean b => .ok (.boolean b)
  | character c => .ok (.text (String.singleton c))
  | mapping ms => do return .table (← entries [] ms)
  | integer n => .ok (.integer n)
  | real x => .ok (.real x)
  | absent => .ok .unit
  | present x => datum x
  | text s => .ok (.text s)
  | sequence xs => do return .sequence (← data xs)
  | unit => .ok .unit

def data : List RonValue → Except RonError (List Datum)
  | [] => .ok []
  | x :: xs => do
    let d ← datum x
    return d :: (← data xs)

/-- The members of a table that `seen` and the members behind it make up. -/
def entries (seen : List (String × Datum)) :
    List (RonValue × RonValue) → Except RonError (List (String × Datum))
  | [] => .ok seen
  | (key, x) :: ms =>
    match key.keyName? with
    | none => .error (.key key.description)
    | some name => do
      let d ← datum x
      entries (insertMember name d seen) ms

end

end RonValue

/-! ## Reading

Faults stand at the next character or just behind its first byte, depending on whether the character
had been taken when the fault was found. -/

/-- What is left of a text, and where that is. -/
structure RonCursor where
  place : TextPlace
  rest : List Char
  /-- Whether a value may stand for itself where one is optional. -/
  implicit : Bool := false

namespace RonCursor

def start (text : List Char) : RonCursor := { place := { line := 1, column := 0 }, rest := text }

def fail {α : Type} (c : RonCursor) (cause : RonCause) : Except RonError α :=
  .error (.refused cause c.place)

/-- Give up behind the first byte of the next character. -/
def failPast {α : Type} (c : RonCursor) (cause : RonCause) : Except RonError α :=
  let place := match c.rest with
    | [] => c.place
    | '\n' :: _ => c.place.past '\n'
    | _ :: _ => { c.place with column := c.place.column + 1 }
  .error (.refused cause place)

/-- The first byte of a character, as the character of its number. -/
def firstByte (c : Char) : Char :=
  let n := c.toNat
  if n < 0x80 then c
  else if n < 0x800 then Char.ofNat (0xC0 + n / 0x40)
  else if n < 0x10000 then Char.ofNat (0xE0 + n / 0x1000)
  else Char.ofNat (0xF0 + n / 0x40000)

def skip : Nat → RonCursor → RonCursor
  | 0, c => c
  | n + 1, c =>
    match c.rest with
    | [] => c
    | ch :: rest => skip n { c with place := c.place.past ch, rest }

def skipWhile (p : Char → Bool) (c : RonCursor) : RonCursor := c.skip (c.rest.takeWhile p).length

def peek (c : RonCursor) : Except RonError Char :=
  match c.rest with
  | ch :: _ => .ok ch
  | [] => c.fail .endOfText

def past? (c : RonCursor) (text : String) : Option RonCursor :=
  if text.toList.isPrefixOf c.rest then some (c.skip text.length) else none

def pastText (c : RonCursor) (text : String) (cause : RonCause) : Except RonError RonCursor :=
  match c.past? text with
  | some c => .ok c
  | none => c.fail cause

/-! ### Blanks and comments

A slash in front of anything but a comment is a fault wherever space may stand. -/

def isBlank (c : Char) : Bool := c = ' ' || c = '\n' || c = '\t' || c = '\r'

/-- Past the comments that are open, of which there are `depth`. -/
def skipNested : Nat → (depth : Nat) → RonCursor → Except RonError RonCursor
  | _, 0, c => .ok c
  | 0, _, c => .ok c
  | fuel + 1, depth + 1, c =>
    match c.rest with
    | [] => c.fail .openComment
    | '/' :: '*' :: _ => skipNested fuel (depth + 2) (c.skip 2)
    | '*' :: '/' :: _ => skipNested fuel depth (c.skip 2)
    | _ :: _ => skipNested fuel (depth + 1) (c.skip 1)

/-- Past blanks and comments, of which there are fewer than `fuel`. -/
def skipGaps : Nat → RonCursor → Except RonError RonCursor
  | 0, c => .ok c
  | fuel + 1, c =>
    let c := c.skipWhile isBlank
    match c.rest with
    | '/' :: '/' :: _ => skipGaps fuel (c.skipWhile (· ≠ '\n'))
    | '/' :: '*' :: rest => do skipGaps fuel (← skipNested (rest.length + 1) 1 (c.skip 2))
    | ['/'] => (c.skip 1).fail .endOfText
    | '/' :: ch :: _ => (c.skip 1).failPast (.unexpectedByte (firstByte ch))
    | _ => .ok c

def skipSpace (c : RonCursor) : Except RonError RonCursor := skipGaps (c.rest.length + 1) c

/-- Past a comma and the space around it; whether there was one. -/
def comma (c : RonCursor) : Except RonError (Bool × RonCursor) := do
  let c ← c.skipSpace
  match c.past? "," with
  | some c => return (true, ← c.skipSpace)
  | none => return (false, c)

/-! ### Names

Names that are marked by a letter and a sign may hold more characters than bare ones. -/

def startsName (c : Char) : Bool := c.isAlpha || c = '_'

def isNameChar (c : Char) : Bool := c.isAlphanum || c = '_'

/-- The characters of names that are marked as such. -/
def isMarkedChar (c : Char) : Bool := isNameChar c || c = '.' || c = '+' || c = '-'

/-- Past a word, if it is next and does not go on. -/
def pastWord? (c : RonCursor) (word : String) : Option RonCursor :=
  match c.past? word with
  | some c => if c.rest.head?.any isNameChar then none else some c
  | none => none

/-- A name. The letter that marks names also opens texts without escapes, which are none. -/
def name (c : RonCursor) : Except RonError (String × RonCursor) := do
  let ch ← c.peek
  let take (p : Char → Bool) (c : RonCursor) : String × RonCursor :=
    (String.ofList (c.rest.takeWhile p), c.skipWhile p)
  if !startsName ch then c.fail .identifier
  else
    match c.rest with
    | ['r'] => c.fail .endOfText
    | 'r' :: '"' :: _ => c.fail .identifier
    | 'r' :: '#' :: rest =>
      if rest.head?.any isMarkedChar then return take isMarkedChar (c.skip 2)
      else c.fail .identifier
    | _ => return take isNameChar c

/-! ### Numbers

Whether a number has a fraction is decided by how far it would reach either way. A word such as
`inf` is none of these numbers; those are values of their own. -/

def isIntegerChar (c : Char) : Bool := (Numeral.hexValue? c).isSome || c = '_'

def isFloatChar (c : Char) : Bool :=
  c.isDigit || c = '_' || c = 'e' || c = 'E' || c = '.' || c = '+' || c = '-'

/-- The digits of a number to a base; underscores do not count. -/
def digits? (base : Nat) (cs : List Char) : Option Nat :=
  let step (n : Option Nat) (c : Char) : Option Nat := do
    let d ← Numeral.hexValue? c
    if d < base then return base * (← n) + d else none
  (cs.filter (· ≠ '_')).foldl step (some 0)

def base? : List Char → Option Nat
  | '0' :: 'x' :: _ => some 16
  | '0' :: 'b' :: _ => some 2
  | '0' :: 'o' :: _ => some 8
  | _ => none

/-- Whether a whole number fits: into 128 bits, one of which is the sign if one is given. -/
def isWide (isSigned : Bool) (n : Int) : Bool :=
  let limit := if isSigned then Word.wideLimit else 2 * Word.wideLimit
  (-(limit : Int) ≤ n && n < limit)

/-- A whole number; if there is none that fits, the place up to which one was looked for. -/
def integer (c : RonCursor) : Except TextPlace (Int × RonCursor) :=
  let (negative, body) := Real.splitSign c.rest
  let isSigned := body.length < c.rest.length
  let c := if isSigned then c.skip 1 else c
  let base := base? body
  let c := if base.isSome then c.skip 2 else c
  let cs := c.rest.takeWhile isIntegerChar
  let after := c.skip cs.length
  if cs.isEmpty ∨ cs.head? = some '_' then .error c.place
  else
    match digits? (base.getD 10) cs with
    | none => .error after.place
    | some n =>
      let x : Int := if negative then -(n : Int) else n
      if isWide isSigned x then .ok (x, after) else .error after.place

/-- A number with a fraction. Underscores may not divide its digits. -/
def float (c : RonCursor) : Except RonError (RonValue × RonCursor) :=
  let cs := c.rest.takeWhile isFloatChar
  if cs.contains '_' then (c.skip (cs.takeWhile (· ≠ '_')).length).fail .floatUnderscore
  else
    match Real.ofChars? cs with
    | some x => .ok (.real x, c.skip cs.length)
    | none => c.fail .float

/-- Whether a number reads further as one with a fraction than as a whole one. -/
def looksReal (c : RonCursor) : Bool :=
  let (_, body) := Real.splitSign c.rest
  (body.takeWhile isIntegerChar).length < (body.takeWhile isFloatChar).length

/-- A number. What turns out not to be a whole one is read once more, as one with a fraction, while
places go on from where the first reading ended. -/
def number (c : RonCursor) : Except RonError (RonValue × RonCursor) :=
  if c.looksReal then c.float
  else
    match c.integer with
    | .ok (n, c) => .ok (.ofInt n, c)
    | .error place => { c with place }.float

/-! ### Texts

A text in which nothing is escaped is taken as it stands up to its quote. With the first escape that
changes, and so does what is said of a text that does not end. -/

/-- The value of hexadecimal digits, from two to six, each of which has to be one. -/
def hexDigits : Nat → Nat → RonCursor → Except RonError (Nat × RonCursor)
  | 0, n, c => .ok (n, c)
  | count + 1, n, c => do
    let ch ← c.peek
    match Numeral.hexValue? ch with
    | some d => hexDigits count (16 * n + d) (c.skip 1)
    | none => c.failPast (.escape .digit)

/-- The character of an escape between braces. -/
def braced (c : RonCursor) : Except RonError (Char × RonCursor) := do
  let ch ← c.peek
  if ch ≠ '\x7b' then c.failPast (.escape .noBrace)
  else
    let c := c.skip 1
    let count := min 6 (c.rest.takeWhile (· ≠ '\x7d')).length
    let (n, c) ← hexDigits count 0 c
    let ch ← c.peek
    if count = 0 then c.fail (.escape .noDigits)
    else if ch ≠ '\x7d' then c.failPast (.escape .openBrace)
    else if n < 0xD800 ∨ (0xE000 ≤ n ∧ n < 0x110000) then return (Char.ofNat n, c.skip 1)
    else (c.skip 1).fail (.escape .noCharacter)

/-- The character of an escape, from behind the backslash. -/
def escape (c : RonCursor) : Except RonError (Char × RonCursor) := do
  match ← c.peek with
  | '\'' => return ('\'', c.skip 1)
  | '"' => return ('"', c.skip 1)
  | '\\' => return ('\\', c.skip 1)
  | 'n' => return ('\n', c.skip 1)
  | 'r' => return ('\r', c.skip 1)
  | 't' => return ('\t', c.skip 1)
  | '0' => return ('\x00', c.skip 1)
  | 'x' =>
    let (n, c) ← hexDigits 2 0 (c.skip 1)
    return (Char.ofNat n, c)
  | 'u' => braced (c.skip 1)
  | _ => c.failPast (.escape .unknown)

/-- A text with escapes, from behind its quote. When it does not end, the blame falls on what
follows the last escape. -/
def quoted : Nat → (absent : RonCause) → RonCursor → Except RonError (List Char × RonCursor)
  | 0, absent, c => c.fail absent
  | fuel + 1, absent, c => do
    let isPlain (ch : Char) : Bool := ch != '\\' && ch != '"'
    let taken := c.rest.takeWhile isPlain
    let after := c.skipWhile isPlain
    match after.rest with
    | [] => c.fail absent
    | '"' :: _ => return (taken, after.skip 1)
    | _ :: _ =>
      let (ch, c) ← (after.skip 1).escape
      let (more, c) ← quoted fuel .endOfText c
      return (taken ++ ch :: more, c)

/-- Where a text begins in another. -/
def find? (part : List Char) : List Char → Option Nat
  | [] => if part.isEmpty then some 0 else none
  | c :: cs => if part.isPrefixOf (c :: cs) then some 0 else (find? part cs).map (· + 1)

/-- A text without escapes, from behind its letter: a quote with as many marks as the opening one
has ends it. -/
def raw (c : RonCursor) : Except RonError (List Char × RonCursor) := do
  let marks := c.rest.takeWhile (· = '#')
  let c ← (c.skip marks.length).pastText "\"" .string
  match find? ('"' :: marks) c.rest with
  | some n => return (c.rest.take n, c.skip (n + marks.length + 1))
  | none => c.fail .stringEnd

def string (c : RonCursor) : Except RonError (RonValue × RonCursor) := do
  match c.past? "\"" with
  | some c =>
    let (cs, c) ← quoted (c.rest.length + 1) .stringEnd c
    return (.text (String.ofList cs), c)
  | none =>
    let (cs, c) ← (c.skip 1).raw
    return (.text (String.ofList cs), c)

/-- A single character between quotes. -/
def character (c : RonCursor) : Except RonError (RonValue × RonCursor) := do
  let c := c.skip 1
  let ch ← c.peek
  let (ch, c) ←
    if ch = '\\' then (c.skip 1).escape
    else
      match c.rest with
      | _ :: '\'' :: _ => if ch = '\'' then c.fail .character else pure (ch, c.skip 1)
      | _ => c.fail .character
  let c ← c.pastText "'" .character
  return (.character ch, c)

/-! ### Reading values

Lists of items and of members are read alike: up to a closing character, with a comma between any
two and perhaps one more. `mayFollow` tells whether there was one, without which only the closing
character may come. -/

abbrev Reader := RonCursor → Except RonError (RonValue × RonCursor)

/-- Items separated by commas, the last of which may be followed by one, up to and with a closing
character. -/
def items (value : Reader) (close : Char) :
    Nat → (mayFollow : Bool) → RonCursor → Except RonError (List RonValue × RonCursor)
  | 0, _, c => .ok ([], c)
  | fuel + 1, mayFollow, c => do
    let c ← c.skipSpace
    if (← c.peek) = close then return ([], c.skip 1)
    else if !mayFollow then c.fail .comma
    else
      let (x, c) ← value c
      let (hadComma, c) ← c.comma
      let (more, c) ← items value close fuel hadComma c
      return (x :: more, c)

/-- Members separated by commas, the last of which may be followed by one, up to and with a closing
character. -/
def members (key value : Reader) (close : Char) :
    Nat → (mayFollow : Bool) → List (RonValue × RonValue) → RonCursor →
    Except RonError (List (RonValue × RonValue) × RonCursor)
  | 0, _, seen, c => .ok (seen, c)
  | fuel + 1, mayFollow, seen, c => do
    let c ← c.skipSpace
    if (← c.peek) = close then return (seen, c.skip 1)
    else if !mayFollow then c.fail .comma
    else
      let (k, c) ← key c
      let c ← (← c.skipSpace).pastText ":" .colon
      let (x, c) ← value (← c.skipSpace)
      let (hadComma, c) ← c.comma
      members key value close fuel hadComma (RonValue.insert k x seen) c

def bareKey : Reader := fun c => do
  let (s, c) ← c.name
  return (.text s, c)

/-- Whether what parentheses hold has no names: where it begins, no name is followed by a colon. -/
def holdsItems (c : RonCursor) : Except RonError Bool := do
  let c ← c.skipSpace
  match c.name with
  | .error _ => return true
  | .ok (_, c) =>
    let c ← c.skipSpace
    return (← c.peek) != ':'

def bracketed (value : Reader) : Reader := fun c => do
  let (xs, c) ← items value ']' (c.rest.length + 1) true (c.skip 1)
  return (.sequence xs, c)

def inBraces (value : Reader) : Reader := fun c => do
  let (ms, c) ← members value value '\x7d' (c.rest.length + 1) true [] (c.skip 1)
  return (.mapping ms, c)

def parenthesized (value : Reader) : Reader := fun c => do
  let rounds := c.rest.length + 1
  let c := c.skip 1
  if ← c.holdsItems then
    let (xs, c) ← items value ')' rounds true c
    return (.sequence xs, c)
  else
    let (ms, c) ← members bareKey value ')' rounds true [] c
    return (.mapping ms, c)

/-- An optional value that is present, from behind its word. -/
def present (value : Reader) : Reader := fun c => do
  let inner ← c.skipSpace
  match inner.past? "(" with
  | some c =>
    let (x, c) ← value (← c.skipSpace)
    return (.present x, ← (← c.skipSpace).pastText ")" .optionEnd)
  | none =>
    if inner.implicit then
      let (x, c) ← value inner
      return (.present x, c)
    else inner.fail .option

def words : List (String × RonValue) :=
  [("true", .boolean true), ("false", .boolean false), ("None", .absent),
    ("inf", .real Real.infinity), ("+inf", .real Real.infinity), ("-inf", .real (-Real.infinity)),
    ("NaN", .real Real.notANumber), ("+NaN", .real Real.notANumber),
    ("-NaN", .real Real.notANumber)]

def word? (c : RonCursor) : Option (RonValue × RonCursor) :=
  words.findSome? fun (word, x) => (c.pastWord? word).map fun c => (x, c)

/-- A value. Every value is shorter than the one it is part of. Names count for nothing, but only
parentheses may follow them. -/
def value : Nat → Reader
  | 0, c => c.fail .endOfText
  | fuel + 1, c =>
    match c.word?, c.pastWord? "Some", c.past? "()", c.name with
    | some found, _, _, _ => .ok found
    | _, some c, _, _ => present (value fuel) c
    | _, _, some c, _ => .ok (.unit, c)
    | none, none, none, .ok (_, c) => do
      let c ← c.skipSpace
      if c.rest.head? = some '(' then parenthesized (value fuel) c else return (.unit, c)
    | none, none, none, .error _ => do
      let ch ← c.peek
      if ch = '(' then parenthesized (value fuel) c
      else if ch = '[' then bracketed (value fuel) c
      else if ch = '\x7b' then inBraces (value fuel) c
      else if ch.isDigit ∨ ch = '+' ∨ ch = '-' then c.number
      else if ch = '.' then c.float
      else if ch = '"' ∨ ch = 'r' then c.string
      else if ch = '\'' then c.character
      else c.fail (.unexpectedByte (firstByte ch))

/-! ### Attributes

An attribute enables extensions by name. Only one of them changes what is read, but the others have
to be known as well. -/

/-- The names of extensions, and whether each makes optional values stand for themselves. -/
def extensions : List (String × Bool) :=
  [("unwrap_newtypes", false), ("implicit_some", true), ("unwrap_variant_newtypes", false)]

def enabled : Nat → RonCursor → Except RonError RonCursor
  | 0, c => .ok c
  | fuel + 1, c => do
    let (s, c) ← c.name
    match extensions.lookup s with
    | none => c.fail (.unknownExtension s)
    | some implicit =>
      let (hadComma, c) ← { c with implicit := c.implicit || implicit }.comma
      let goesOn := c.rest.head?.any isNameChar
      if goesOn ∧ ¬ hadComma then c.fail .comma
      else if goesOn then enabled fuel c
      else .ok c

/-- Past some texts and the space behind each. A text that is missing is passed over, and the lack
is only noted. -/
def pastEach : List String → RonCursor → Except RonError (Bool × RonCursor)
  | [], c => .ok (true, c)
  | text :: texts, c =>
    match c.past? text with
    | some c => do pastEach texts (← c.skipSpace)
    | none => do
      let (_, c) ← pastEach texts c
      return (false, c)

/-- Past some texts and the space behind each, none of which may be missing. -/
def pastAll (texts : List String) (cause : RonCause) (c : RonCursor) :
    Except RonError RonCursor := do
  let (found, c) ← pastEach texts c
  if found then return c else c.fail cause

/-- Past the attributes in front of a value. -/
def attributes : Nat → RonCursor → Except RonError RonCursor
  | 0, c => .ok c
  | fuel + 1, c => do
    let c ← c.skipSpace
    if c.rest.head? = some '#' then
      let c ← c.pastAll ["#", "!", "[", "enable", "("] .attributeStart
      let c ← enabled fuel (← c.skipSpace)
      attributes fuel (← (← c.skipSpace).pastAll [")", "]"] .attributeEnd)
    else .ok c

end RonCursor

/-- Read a text in object notation. -/
def Ron.parse (text : String) : Except RonError Datum := do
  let cs := text.toList
  let rounds := cs.length + 1
  let c ← RonCursor.attributes rounds (.start cs)
  let (x, c) ← RonCursor.value rounds c
  let c ← c.skipSpace
  if c.rest.isEmpty then x.datum else c.fail .trailing

end VoiceLink
