import VoiceLink.Settings.Value
import VoiceLink.Text.Letter
import VoiceLink.Text.Numeral
import VoiceLink.Text.Real

/-!
# Settings in JSON5

JSON with comments, bare keys, texts between quotes of either kind, trailing commas and more forms
of numbers. A text that cannot be read is answered with a picture of the furthest place that was
reached and the names of what could have stood there.

Reading has two passes. The first finds the form of the text and keeps what is written, so that what
could have stood at a place is a matter of forms alone. The second makes numbers and characters of
it, and it is there that a number is found too large or half a character without its other half.
-/

namespace VoiceLink

/-! ## What was tried

A reader that fails notes its form at the place where it began. Only the furthest place is kept.
Forms that a larger form is made of give way to its name when that begins at the same place, as
nobody who wrote no value wants to read the names of all kinds of them. -/

/-- What could have stood at the furthest place that was reached. -/
structure Json5Attempts where
  offset : Nat := 0
  forms : List String := []
  deriving DecidableEq, Repr

namespace Json5Attempts

/-- How many forms are known to be missing at a place. -/
def countAt (a : Json5Attempts) (offset : Nat) : Nat :=
  if a.offset = offset then a.forms.length else 0

/-- Add a form that does not begin at `offset`. It stands for all that was tried there in its place
since `before`, unless that was only one thing. -/
def noting (now : Json5Attempts) (form : String) (offset : Nat) (before : Json5Attempts) :
    Json5Attempts :=
  let known := before.countAt offset
  if now.countAt offset = known + 1 then now
  else if now.offset = offset then { offset, forms := now.forms.take known ++ [form] }
  else if now.offset < offset then { offset, forms := [form] }
  else now

end Json5Attempts

/-! ## Errors -/

/-- Why a text in JSON5 was refused. -/
inductive Json5Error where
  /-- The text has another form. -/
  | unexpected (text : List Char) (attempts : Json5Attempts)
  | integer
  | hexadecimal
  | hugeNumber
  | number
  /-- The second half of a character, without the first. -/
  | lateHalf
  /-- The first half of a character, at the end of the text. -/
  | lastHalf
  /-- The first half of a character, in front of what is not the second. -/
  | noHalf
  deriving DecidableEq, Repr

namespace Json5Error

/-- The line and the column of a place, from those where the text begins. A carriage return and a
line feed are one line end, and a carriage return alone is none. -/
def lineColumn : Nat → Nat → List Char → Nat → Nat × Nat
  | line, column, _, 0 => (line, column)
  | line, column, [], _ => (line, column)
  | line, _, '\r' :: '\n' :: cs, n + 1 =>
    match n with
    | 0 => (line + 1, 1)
    | n + 1 => lineColumn (line + 1) 1 cs n
  | line, column, c :: cs, n + 1 =>
    if c = '\n' then lineColumn (line + 1) 1 cs n else lineColumn line (column + 1) cs n

/-- The line of a place, with its line feed. -/
def lineAt (text : List Char) (offset : Nat) : List Char :=
  let front := ((text.take offset).reverse.takeWhile (· ≠ '\n')).reverse
  let behind := text.drop offset
  front ++ behind.takeWhile (· ≠ '\n') ++ (behind.dropWhile (· ≠ '\n')).take 1

/-- A line as it is shown: its line end is made visible where the fault is, and left out elsewhere.
-/
def shownLine (text : List Char) (offset : Nat) : List Char :=
  let line := lineAt text offset
  match text[offset]? with
  | some '\n' | some '\r' =>
    line.map fun c => if c = '\n' then '\u240a' else if c = '\r' then '\u240d' else c
  | _ => line.filter fun c => c ≠ '\n' && c ≠ '\r'

def enumerated : List String → String
  | [] => ""
  | [a] => a
  | [a, b] => a ++ " or " ++ b
  | forms => ", ".intercalate forms.dropLast ++ ", or " ++ forms.getLastD ""

/-- The picture of a place with what was expected there. -/
def picture (text : List Char) (attempts : Json5Attempts) : String :=
  let (line, column) := lineColumn 1 1 text attempts.offset
  let number := Numeral.text line
  let margin := String.ofList (List.replicate number.length ' ')
  let shown := shownLine text attempts.offset
  let marker := (shown.take (column - 1)).map fun c => if c = '\t' then c else ' '
  let forms := (attempts.forms.mergeSort (· ≤ ·)).eraseDups
  margin ++ "--> " ++ number ++ ":" ++ Numeral.text column ++ "\n" ++
    margin ++ " |\n" ++
    number ++ " | " ++ String.ofList shown ++ "\n" ++
    margin ++ " | " ++ String.ofList marker ++ "^---\n" ++
    margin ++ " |\n" ++
    margin ++ " = expected " ++ enumerated forms

def message : Json5Error → String
  | unexpected text attempts => picture text attempts
  | integer => "error parsing integer"
  | hexadecimal => "error parsing hex"
  | hugeNumber => "error parsing number: too large"
  | number => "error parsing number"
  | lateHalf => "unexpected unicode trail surrogate"
  | lastHalf => "missing unicode trail surrogate"
  | noHalf => "expecting unicode trail surrogate"

end Json5Error

/-! ## What is written -/

/-- A part of a text, with what is written for it behind the backslash and the letter of an escape:
a character, or the number of one, which may be that of half a character. -/
inductive Json5Part where
  | character (written : List Char) (meant : Char)
  | unit (written : List Char) (number : Nat)
  deriving DecidableEq, Repr

def Json5Part.written : Json5Part → List Char
  | character w _ | unit w _ => w

inductive Json5Value where
  | null
  | boolean (value : Bool)
  | number (text : List Char)
  | text (parts : List Json5Part)
  | sequence (items : List Json5Value)
  | mapping (members : List (List Json5Part × Json5Value))
  deriving Inhabited

/-! ## Reading -/

/-- What is left of a text, and how many characters lie before it. -/
structure Json5Cursor where
  offset : Nat
  rest : List Char

/-- Readers that may fail, and that remember what they tried. -/
abbrev Json5Reader := OptionT (StateM Json5Attempts)

namespace Json5Cursor

def skip (n : Nat) (c : Json5Cursor) : Json5Cursor :=
  { offset := c.offset + min n c.rest.length, rest := c.rest.drop n }

/-- Remember, if a reader fails, that its form does not begin here. -/
def form {α : Type} (name : String) (c : Json5Cursor) (read : Json5Reader α) : Json5Reader α := do
  let before ← get
  read <|> (do modify (·.noting name c.offset before); failure)

def pastText (text : String) (c : Json5Cursor) : Json5Reader Json5Cursor :=
  if text.toList.isPrefixOf c.rest then pure (c.skip text.length) else failure

def isAt (ch : Char) (c : Json5Cursor) : Bool := c.rest.head? == some ch

/-! ### Blanks and comments

A comment that does not end is not passed over. Then a slash is next, which no form begins with. -/

def isBreak (c : Char) : Bool := c = '\n' || c = '\r' || c = '\u2028' || c = '\u2029'

def isBlank (c : Char) : Bool :=
  isBreak c || c = '\t' || c = '\x0b' || c = '\x0c' || c = ' ' || c = '\u00a0' || c = '\ufeff' ||
    c = '\u1680' || ('\u2000' ≤ c && c ≤ '\u200a') || c = '\u202f' || c = '\u205f' || c = '\u3000'

/-- How many characters a comment has up to its end. -/
def commentLength? : List Char → Option Nat
  | '*' :: '/' :: _ => some 2
  | _ :: cs => (commentLength? cs).map (· + 1)
  | [] => none

/-- Past blanks and comments, of which there are fewer than `fuel`. -/
def skipGaps : Nat → Json5Cursor → Json5Cursor
  | 0, c => c
  | fuel + 1, c =>
    let c := c.skip (c.rest.takeWhile isBlank).length
    match c.rest with
    | '/' :: '*' :: cs =>
      match commentLength? cs with
      | some n => skipGaps fuel (c.skip (n + 2))
      | none => c
    | '/' :: '/' :: cs => skipGaps fuel (c.skip ((cs.takeWhile fun ch => !isBreak ch).length + 2))
    | _ => c

def skipSpace (c : Json5Cursor) : Json5Cursor := skipGaps (c.rest.length + 1) c

/-! ### Numbers

Numbers are found as texts: the longest front that is one. -/

def exponent (cs : List Char) : List Char :=
  let mark := cs.take 1
  let sign := (cs.drop 1).take 1
  let sign := if sign = ['+'] || sign = ['-'] then sign else []
  let digits := (cs.drop (1 + sign.length)).takeWhile Char.isDigit
  if (mark = ['e'] || mark = ['E']) && !digits.isEmpty then mark ++ sign ++ digits else []

/-- The decimal at the front of a text. A zero in front stands alone. -/
def decimal? (cs : List Char) : Option (List Char) :=
  let whole := if cs.head? = some '0' then ['0'] else cs.takeWhile Char.isDigit
  match cs.drop whole.length with
  | '.' :: rest =>
    let fraction := rest.takeWhile Char.isDigit
    if whole.isEmpty ∧ fraction.isEmpty then none
    else some (whole ++ '.' :: fraction ++ exponent (rest.drop fraction.length))
  | rest => if whole.isEmpty then none else some (whole ++ exponent rest)

/-- The number without a sign at the front of a text. -/
def unsigned? (cs : List Char) : Option (List Char) :=
  -- without a digit behind it the letter ends the number, which is the zero
  let digits := (cs.drop 2).takeWhile fun c => (Numeral.hexValue? c).isSome
  let isHex := (cs.take 2 = ['0', 'x'] || cs.take 2 = ['0', 'X']) && !digits.isEmpty
  if isHex then some (cs.take 2 ++ digits)
  else (decimal? cs).or <|
    ["Infinity", "NaN"].findSome? fun word =>
      if word.toList.isPrefixOf cs then some word.toList else none

def number? (cs : List Char) : Option (List Char) :=
  match cs with
  | '+' :: rest => (unsigned? rest).map ('+' :: ·)
  | '-' :: rest => (unsigned? rest).map ('-' :: ·)
  | _ => unsigned? cs

/-! ### Texts and names

A line end that is escaped leaves nothing, so that a part of a text comes as a list of at most one.
Of an escape the digits are kept with their value, since the second half of a character is looked
for in what is written. -/

/-- What letters behind a backslash stand for; most others stand for themselves. -/
def escapes : List (Char × Char) :=
  [('\'', '\''), ('"', '"'), ('\\', '\\'), ('b', '\x08'), ('f', '\x0c'), ('n', '\n'), ('r', '\r'),
    ('t', '\t'), ('v', '\x0b')]

def hexValue? (count : Nat) (cs : List Char) : Option Nat :=
  let ds := cs.take count
  let step (n : Option Nat) (c : Char) : Option Nat := do
    return 16 * (← n) + (← Numeral.hexValue? c)
  if ds.length = count then ds.foldl step (some 0) else none

/-- Some hexadecimal digits behind a letter, and their value. -/
def numbered (name : String) (letter : Char) (count : Nat) (c : Json5Cursor) :
    Json5Reader (List Char × Nat × Json5Cursor) :=
  if !c.isAt letter then failure
  else
    let c := c.skip 1
    form name c do
      match hexValue? count c.rest with
      | some n => return (c.rest.take count, n, c.skip count)
      | none => failure

def plain (c : Json5Cursor) : Json5Reader (List Json5Part × Json5Cursor) :=
  form "char_literal" c do
    match c.rest with
    | ch :: _ => if ch = '\\' ∨ isBreak ch then failure else return ([.character [ch] ch], c.skip 1)
    | [] => failure

/-- An escape, from behind the backslash. -/
def escape (c : Json5Cursor) : Json5Reader (List Json5Part × Json5Cursor) :=
  let single : Json5Reader (List Json5Part × Json5Cursor) := form "char_escape_sequence" c do
    match c.rest with
    | [] => failure
    | ch :: _ =>
      match escapes.lookup ch with
      | some meant => return ([.character [ch] meant], c.skip 1)
      | none =>
        if ch.isDigit ∨ ch = 'x' ∨ ch = 'u' ∨ isBreak ch then failure
        else return ([.character [ch] ch], c.skip 1)
  let zero : Json5Reader (List Json5Part × Json5Cursor) := form "nul_escape_sequence" c do
    return ([.character ['0'] '\x00'], ← c.pastText "0")
  let short : Json5Reader (List Json5Part × Json5Cursor) := do
    let (written, n, c) ← numbered "hex_escape_sequence" 'x' 2 c
    return ([.character written (Char.ofNat n)], c)
  let long : Json5Reader (List Json5Part × Json5Cursor) := do
    let (written, n, c) ← numbered "unicode_escape_sequence" 'u' 4 c
    return ([.unit written n], c)
  single <|> zero <|> short <|> long

/-- A line end that is escaped and does not count, from behind the backslash. -/
def continuation (c : Json5Cursor) : Json5Reader (List Json5Part × Json5Cursor) :=
  match c.rest with
  | '\r' :: '\n' :: _ => pure ([], c.skip 2)
  | ch :: _ => if isBreak ch then pure ([], c.skip 1) else failure
  | [] => failure

/-- One part of a text between quotes. -/
def part (quote : Char) (c : Json5Cursor) : Json5Reader (List Json5Part × Json5Cursor) :=
  let escaped := if c.isAt '\\' then escape (c.skip 1) <|> continuation (c.skip 1) else failure
  escaped <|> if c.isAt quote then failure else c.plain

def many (read : Json5Cursor → Json5Reader (List Json5Part × Json5Cursor)) :
    Nat → Json5Cursor → Json5Reader (List Json5Part × Json5Cursor)
  | 0, c => pure ([], c)
  | fuel + 1, c =>
    (do
      let (ps, c) ← read c
      let (more, c) ← many read fuel c
      return (ps ++ more, c)) <|> pure ([], c)

def string (c : Json5Cursor) : Json5Reader (List Json5Part × Json5Cursor) :=
  let quoted (quote : Char) : Json5Reader (List Json5Part × Json5Cursor) :=
    if c.isAt quote then do
      let (ps, c) ← many (part quote) c.rest.length (c.skip 1)
      return (ps, ← c.pastText (String.singleton quote))
    else failure
  form "string" c (quoted '"' <|> quoted '\'')

def nameStart (c : Json5Cursor) : Json5Reader (List Json5Part × Json5Cursor) :=
  let starts (ch : Char) : Bool := Letter.isLetter ch || ch = '$' || ch = '_'
  let letter := if c.rest.head?.any starts then c.plain else failure
  letter <|> if !c.isAt '\\' then failure else do
    let (written, n, c) ← numbered "unicode_escape_sequence" 'u' 4 (c.skip 1)
    return ([.unit written n], c)

/-- A further part of a name. -/
def namePart (c : Json5Cursor) : Json5Reader (List Json5Part × Json5Cursor) :=
  let follows (ch : Char) : Bool := Letter.isMark ch || ch = '\u200c' || ch = '\u200d'
  c.nameStart <|> if c.rest.head?.any follows then c.plain else failure

def name (c : Json5Cursor) : Json5Reader (List Json5Part × Json5Cursor) :=
  form "identifier" c do
    let (ps, c) ← c.nameStart
    let (more, c) ← many namePart c.rest.length c
    return (ps ++ more, c)

/-! ### Values

The kinds of values are tried in turn, each of them under its name. A text has none of its own here:
its name is noted where the quotes are read. -/

/-- Elements separated by commas, the last of which may be followed by one. -/
def separated {α : Type} (read : Json5Cursor → Json5Reader (α × Json5Cursor)) :
    Nat → Json5Cursor → Json5Reader (List α × Json5Cursor)
  | 0, c => pure ([], c)
  | fuel + 1, c => do
    let (x, c) ← read c
    let c := c.skipSpace
    if c.isAt ',' then
      (do
        let (xs, c) ← separated read fuel (c.skip 1).skipSpace
        return (x :: xs, c)) <|> pure ([x], (c.skip 1).skipSpace)
    else return ([x], c)

/-- Elements between an opening and a closing text. -/
def enclosed {α : Type} (open_ close : String) (read : Json5Cursor → Json5Reader (α × Json5Cursor))
    (c : Json5Cursor) : Json5Reader (List α × Json5Cursor) := do
  let c := (← c.pastText open_).skipSpace
  (do return ([], ← c.pastText close)) <|> do
    let (xs, c) ← separated read (c.rest.length + 1) c
    return (xs, ← c.skipSpace.pastText close)

/-- A value. Every value is shorter than the one it is part of. -/
def value : Nat → Json5Cursor → Json5Reader (Json5Value × Json5Cursor)
  | 0, _ => failure
  | fuel + 1, c =>
    let null : Json5Reader (Json5Value × Json5Cursor) := form "null" c do
      return (.null, ← c.pastText "null")
    let boolean : Json5Reader (Json5Value × Json5Cursor) := form "boolean" c <|
      (do return (.boolean true, ← c.pastText "true")) <|>
        (do return (.boolean false, ← c.pastText "false"))
    let text : Json5Reader (Json5Value × Json5Cursor) := do
      let (ps, c) ← c.string
      return (.text ps, c)
    let number : Json5Reader (Json5Value × Json5Cursor) := form "number" c do
      match number? c.rest with
      | some cs => return (.number cs, c.skip cs.length)
      | none => failure
    let member (c : Json5Cursor) : Json5Reader ((List Json5Part × Json5Value) × Json5Cursor) := do
      let (key, c) ← c.name <|> c.string
      let c ← c.skipSpace.pastText ":"
      let (x, c) ← value fuel c.skipSpace
      return ((key, x), c)
    let object : Json5Reader (Json5Value × Json5Cursor) := form "object" c do
      let (ms, c) ← c.enclosed "\x7b" "\x7d" member
      return (.mapping ms, c)
    let array : Json5Reader (Json5Value × Json5Cursor) := form "array" c do
      let (xs, c) ← c.enclosed "[" "]" (value fuel)
      return (.sequence xs, c)
    null <|> boolean <|> text <|> number <|> object <|> array

def document (cs : List Char) : Json5Reader Json5Value := do
  let start : Json5Cursor := { offset := 0, rest := cs }
  let (x, c) ← value (cs.length + 1) start.skipSpace
  let c := c.skipSpace
  form "EOI" c do
    if c.rest.isEmpty then return x else failure

end Json5Cursor

namespace Json5Value

/-! ### What is meant

Of members of one name the last counts. Numbers are whole or not by how they are written, and those
that are too large are refused rather than rounded. -/

/-- The number hexadecimal digits stand for, if it has 32 bits. -/
def hexadecimal (cs : List Char) : Except Json5Error Int :=
  let n := cs.foldl (fun n c => 16 * n + (Numeral.hexValue? c).getD 0) 0
  if n < UInt32.size then .ok n else .error .hexadecimal

/-- The number that is written. It is whole if it has neither a point nor an exponent. -/
def numberDatum (cs : List Char) : Except Json5Error Datum :=
  let s := String.ofList cs
  let isHex := cs.take 2 = ['0', 'x'] || cs.take 2 = ['0', 'X']
  if s = "Infinity" then .ok (.real Real.infinity)
  else if s = "-Infinity" then .ok (.real (-Real.infinity))
  else if s = "NaN" ∨ s = "-NaN" then .ok (.real Real.notANumber)
  else if isHex then (hexadecimal (cs.drop 2)).map .integer
  else if cs.any fun c => c = '.' || c = 'e' || c = 'E' then
    match Real.ofChars? cs with
    | some x => if x.isFinite then .ok (.real x) else .error .hugeNumber
    | none => .error .number
  else
    match (Real.integer? cs).bind Word.signed? with
    | some n => .ok (.integer n)
    | none => .error .integer

def isFirstHalf (n : Nat) : Bool := 0xD800 ≤ n && n < 0xDC00

def isSecondHalf (n : Nat) : Bool := 0xDC00 ≤ n && n < 0xE000

/-- The character of two halves. The sixteenth bit is set once, by whichever half sets it. -/
def joined (first second : Nat) : Char :=
  Char.ofNat (((first - 0xD800) * 0x400) ||| (second - 0xDC00 + 0x10000))

/-- The second half of a character, from what is written for the part it should be. -/
def secondHalf (part : Json5Part) : Except Json5Error Nat :=
  match Json5Cursor.hexValue? part.written.length part.written with
  | none => .error .hexadecimal
  | some n => if isSecondHalf n then .ok n else .error .noHalf

/-- The characters of a text. Two halves of a character have to stand together. -/
def characters : List Json5Part → Except Json5Error (List Char)
  | [] => .ok []
  | .character _ c :: ps => do return c :: (← characters ps)
  | .unit _ first :: ps =>
    if isSecondHalf first then .error .lateHalf
    else if isFirstHalf first then
      match ps with
      | [] => .error .lastHalf
      | part :: ps => do
        let c := joined first (← secondHalf part)
        return c :: (← characters ps)
    else do return Char.ofNat first :: (← characters ps)

mutual

def datum : Json5Value → Except Json5Error Datum
  | .null => .ok .unit
  | .boolean b => .ok (.boolean b)
  | .number cs => numberDatum cs
  | .text ps => do return .text (String.ofList (← characters ps))
  | .sequence xs => do return .sequence (← data xs)
  | .mapping ms => do return .table (← entries [] ms)

def data : List Json5Value → Except Json5Error (List Datum)
  | [] => .ok []
  | x :: xs => do
    let d ← datum x
    return d :: (← data xs)

/-- The members of a table that `seen` and the members behind it make up; the last of a name counts.
-/
def entries (seen : List (String × Datum)) :
    List (List Json5Part × Json5Value) → Except Json5Error (List (String × Datum))
  | [] => .ok seen
  | (key, x) :: ms => do
    let name ← characters key
    let d ← datum x
    entries (insertMember (String.ofList name) d seen) ms

end

end Json5Value

/-- Read a text in JSON5. -/
def Json5.parse (text : String) : Except Json5Error Datum :=
  let cs := text.toList
  match (Json5Cursor.document cs).run.run {} with
  | (some x, _) => x.datum
  | (none, attempts) => .error (.unexpected cs attempts)

end VoiceLink
