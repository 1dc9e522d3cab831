import VoiceLink.Settings.Toml.Token
import VoiceLink.Settings.Value
import VoiceLink.Text.Numeral
import VoiceLink.Text.Real

/-!
# The lines of a TOML text

A line is the header of a table or assigns a value to a key. Values keep the offset they start at. A
dotted key assigns inside a table that it opens, and that further dotted keys may extend.

Nothing is looked up in other lines here, so a header that occurs twice passes: the tables of a text
are only put together once all of them have been read.
-/

namespace VoiceLink

inductive TomlValue where
  | scalar (start : Nat) (value : Scalar)
  | moment (start : Nat) (text : List Char)
  | array (start : Nat) (items : List TomlValue)
  | inline (start : Nat) (pairs : List (String × TomlValue))
  /-- A table that dotted keys have opened. -/
  | dotted (start : Nat) (pairs : List (String × TomlValue))
  deriving Inhabited

namespace TomlValue

def start : TomlValue → Nat
  | scalar s _ | moment s _ | array s _ | inline s _ | dotted s _ => s

end TomlValue

/-- A table and what is assigned in it. The first has no header. -/
structure TomlTable where
  start : Nat
  header : List String
  pairs : List (String × TomlValue)
  /-- Whether it is an element of an array of tables. -/
  isElement : Bool

namespace TomlCursor

/-! ### Numbers

A number is a word, or two with a point between them, or a word, a plus and a word where its
exponent has a sign. Its underscores stand between digits only, and it has no leading zero unless a
base is given. A number beyond 64 bits is refused, and so is one that would be infinite without
being written so. -/

def isDigitOf (base : Nat) (c : Char) : Bool :=
  match Numeral.hexValue? c with
  | some d => d < base
  | none => false

/-- What has been seen of a run of digits. -/
structure DigitRun where
  first : Bool := true
  leadingZero : Bool := false
  underscore : Bool := false

/-- Split digits with single underscores off the front of a word. `index` counts the characters
before. A second digit behind a leading zero is refused unless `zeros`. -/
def spanDigits (base : Nat) (zeros : Bool) (start : Nat) :
    DigitRun → Nat → List Char → Except TomlFault (DigitRun × List Char × List Char)
  | run, _, [] => .ok (run, [], [])
  | run, index, c :: cs => do
    let goOn (run : DigitRun) : Except TomlFault (DigitRun × List Char × List Char) := do
      let run := { run with first := false }
      let (run, taken, rest) ← spanDigits base zeros start run (index + 1) cs
      return (run, c :: taken, rest)
    if c = '0' ∧ run.first then goOn { run with leadingZero := true }
    else if isDigitOf base c then
      if run.first = false ∧ run.leadingZero ∧ zeros = false then failAt .number (start + index)
      else goOn { run with underscore := false }
    else if c = '_' ∧ run.first then failAt .number (start + index)
    else if c = '_' ∧ run.underscore = false then goOn { run with underscore := true }
    else return (run, [], c :: cs)

/-- The digits at the front of a word that starts at an offset, with their sign where one is
allowed, and the rest of the word. -/
def digitsOf (base : Nat) (signed zeros : Bool) (start : Nat) (cs : List Char) :
    Except TomlFault (List Char × List Char) := do
  let (sign, body) := match cs with
    | c :: rest => if signed ∧ (c = '+' ∨ c = '-') then ([c], rest) else ([], cs)
    | [] => ([], [])
  let (run, taken, rest) ← spanDigits base zeros start {} sign.length body
  if run.first ∨ run.underscore then failAt .number start else return (sign ++ taken, rest)

def withoutUnderscores (cs : List Char) : List Char := cs.filter (· ≠ '_')

/-- The number digits to a base stand for; underscores do not count. -/
def valueOf (base : Nat) (cs : List Char) : Nat :=
  (withoutUnderscores cs).foldl (fun n c => base * n + (Numeral.hexValue? c).getD 0) 0

/-- A whole number of 64 bits to a base. -/
def integer (base start : Nat) (cs : List Char) : Except TomlFault Scalar := do
  let (taken, rest) ← digitsOf base (base = 10) (base ≠ 10) start cs
  if ¬ rest.isEmpty then failAt .number start
  else
    let (negative, digits) := Real.splitSign taken
    let n := valueOf base digits
    match Word.ofSign? negative n with
    | some n => return .integer n
    | none => failAt .number start

/-- A number with a fraction or an exponent, from its first word; `fraction` is the word behind the
point and where it starts. -/
def real (start : Nat) (cs : List Char) (fraction : Option (List Char × Nat)) (c : TomlCursor) :
    Except TomlFault (Scalar × TomlCursor) := do
  let (whole, rest) ← digitsOf 10 true false start cs
  let (decimals, rest, restAt) ← match fraction with
    | none => pure ([], rest, start + (cs.length - rest.length))
    | some (word, at_) =>
      if ¬ rest.isEmpty then failAt .number start
      else do
        let (a, b) ← digitsOf 10 false true at_ word
        pure (a, b, at_ + (word.length - b.length))
  let (negative, whole) := Real.splitSign whole
  let finish (exponent : Int) (c : TomlCursor) : Except TomlFault (Scalar × TomlCursor) :=
    let x :=
      Real.ofDecimal negative (withoutUnderscores whole) (withoutUnderscores decimals) exponent
    if x.isInf then failAt .number start else .ok (.real x, c)
  match rest with
  | [] => finish 0 c
  | e :: word =>
    if e ≠ 'e' ∧ e ≠ 'E' then failAt .number start
    else do
      -- with nothing behind the letter, a plus token and a word can follow
      let (digits, left, c) ← if word.isEmpty then do
          let c := (← c.eatToken? .plus).getD c
          match ← c.token? with
          | some (.word chars, after) =>
            let (a, b) ← digitsOf 10 false true c.offset chars
            pure (a, b, after)
          | _ => failAt .number start
        else do
          let (a, b) ← digitsOf 10 true true (restAt + 1) word
          pure (a, b, c)
      if ¬ left.isEmpty then failAt .number start
      else
        let (down, digits) := Real.splitSign digits
        let n : Int := Numeral.ofDigits (withoutUnderscores digits)
        finish (if down then -n else n) c

/-- A number, from its first word, which starts at an offset. -/
def number (start : Nat) (cs : List Char) (c : TomlCursor) :
    Except TomlFault (Scalar × TomlCursor) := do
  match cs with
  | '0' :: 'x' :: digits => return (← integer 16 (start + 2) digits, c)
  | '0' :: 'o' :: digits => return (← integer 8 (start + 2) digits, c)
  | '0' :: 'b' :: digits => return (← integer 2 (start + 2) digits, c)
  | _ =>
    if cs.contains 'e' ∨ cs.contains 'E' then real start cs none c
    else
      match ← c.eatToken? .period with
      | some after =>
        match ← after.token? with
        | some (.word chars, last) => real start cs (some (chars, after.offset)) last
        | _ => failAt .number after.offset
      | none =>
        if cs = ['i', 'n', 'f'] then return (.real Real.infinity, c)
        else if cs = ['-', 'i', 'n', 'f'] then return (.real (-Real.infinity), c)
        else if cs = ['n', 'a', 'n'] ∨ cs = ['-', 'n', 'a', 'n'] then
          return (.real Real.notANumber, c)
        else return (← integer 10 start cs, c)

/-! ### Dates

A date may hold a blank, colons, a plus and a point, which are tokens of their own. What is found
here is how far it goes; whether it is a date is settled when its table is put together. -/

def dateWord (start : Nat) (c : TomlCursor) : Except TomlFault TomlCursor := do
  match ← c.token? with
  | some (.word _, after) => return after
  | _ => failAt .date start

def dateWordAfter (t : TomlToken) (start : Nat) (c : TomlCursor) : Except TomlFault TomlCursor := do
  match ← c.eatToken? t with
  | some after => dateWord start after
  | none => return c

def blankAndWord (c : TomlCursor) : TomlCursor :=
  match c.token? with
  | .ok (some (.blank, after)) =>
    if after.offset = c.offset + 1 ∧ c.rest.head? = some ' ' then
      match after.token? with
      | .ok (some (.word _, last)) => last
      | _ => c
    else c
  | _ => c

/-- The rest of a date, from behind its first word. `started` tells whether the colon behind the
hour has been passed. The parts are only found here, not checked. -/
def moment (begin_ : TomlCursor) (started : Bool) (c : TomlCursor) :
    Except TomlFault (List Char × TomlCursor) := do
  let start := begin_.offset
  let c := blankAndWord c
  let inTime ← if started then pure (some c) else c.eatToken? .colon
  let c ← match inTime with
    | none => pure c
    | some c => do
      let c ← dateWord start c
      let c ← c.expect .colon
      let c ← dateWord start c
      let c ← dateWordAfter .period start c
      let c ← dateWordAfter .plus start c
      dateWordAfter .colon start c
  return (begin_.rest.take (begin_.rest.length - c.rest.length), c)

/-- A number or a date, from its first word. Words with a `T`, or with a dash that does not belong
to an exponent, begin dates. -/
def numberOrMoment (begin_ : TomlCursor) (cs : List Char) (c : TomlCursor) :
    Except TomlFault (TomlValue × TomlCursor) := do
  -- the dash of an exponent makes no date of a number
  let hasPair (a b : Char) : Bool := (cs.zip (cs.drop 1)).contains (a, b)
  let dated := (cs.drop 1).contains '-' && !hasPair 'e' '-' && !hasPair 'E' '-'
  if cs.contains 'T' || cs.contains 't' || dated then
    let (text, c) ← moment begin_ false c
    return (.moment begin_.offset text, c)
  else
    match ← c.eatToken? .colon with
    | some after =>
      let (text, c) ← moment begin_ true after
      return (.moment begin_.offset text, c)
    | none =>
      let (n, c) ← number begin_.offset cs c
      return (.scalar begin_.offset n, c)

/-- What a bare word stands for. -/
def bare (begin_ : TomlCursor) (cs : List Char) (c : TomlCursor) :
    Except TomlFault (TomlValue × TomlCursor) :=
  let start := begin_.offset
  if cs = ['t', 'r', 'u', 'e'] then .ok (.scalar start (.boolean true), c)
  else if cs = ['f', 'a', 'l', 's', 'e'] then .ok (.scalar start (.boolean false), c)
  else if cs = ['i', 'n', 'f'] ∨ cs = ['n', 'a', 'n'] then numberOrMoment begin_ cs c
  else
    match cs with
    | first :: _ =>
      if first = '-' ∨ first.isDigit then numberOrMoment begin_ cs c else failAt .bareText start
    | [] => failAt .bareText start

/-! ### Keys

A value assigned to a dotted key lands in tables that only such keys may extend: one given in braces
is closed. -/

/-- The parts of a dotted key behind its first. Each takes a character, so the length of the text
bounds them. -/
def keyParts : Nat → TomlCursor → Except TomlFault (List String × TomlCursor)
  | 0, c => .ok ([], c)
  | fuel + 1, c => do
    let c := c.skipBlanks
    match ← c.eatToken? .period with
    | none => return ([], c)
    | some after =>
      let (part, after) ← after.skipBlanks.key
      let (parts, after) ← keyParts fuel after
      return (part :: parts, after)

def dottedKey (c : TomlCursor) : Except TomlFault (String × List String × TomlCursor) := do
  let (first, c) ← c.key
  let (more, c) ← keyParts (c.rest.length + 1) c
  return (first, more, c)

/-- A value inside tables opened one by one. -/
def nested (value : TomlValue) : List String → TomlValue
  | [] => value
  | key :: keys => .dotted value.start [(key, nested value keys)]

mutual

/-- The pairs of a table with a value assigned to a dotted key. -/
def assign (value : TomlValue) (key : String) (more : List String) :
    List (String × TomlValue) → Except TomlFault (List (String × TomlValue))
  | [] => .ok [(key, nested value more)]
  | (k, old) :: pairs =>
    match more with
    -- a key given twice is kept here; it is refused when the table is put together
    | [] => .ok ((k, old) :: pairs ++ [(key, value)])
    | next :: rest =>
      if k = key then do return (k, ← extend value next rest old) :: pairs
      else do return (k, old) :: (← assign value key more pairs)

/-- A table opened by dotted keys, with a value assigned in it. -/
def extend (value : TomlValue) (key : String) (more : List String) :
    TomlValue → Except TomlFault TomlValue
  | .dotted start pairs => do return .dotted start (← assign value key more pairs)
  | old => failAt .dottedKey old.start

end

/-! ### Values

Values hold values, which `value` reads with one level less to go. A level takes a bracket or a
brace, so the length of the text is enough of them. -/

/-- Past blanks, line ends and comments. -/
def skipLines : Nat → TomlCursor → Except TomlFault TomlCursor
  | 0, c => .ok c
  | fuel + 1, c => do
    let c := c.skipBlanks
    match ← c.eatToken? .newline with
    | some after => skipLines fuel after
    | none =>
      match ← c.comment? with
      | some after => skipLines fuel after
      | none => return c

def skipGap (c : TomlCursor) : Except TomlFault TomlCursor := skipLines (c.rest.length + 1) c

abbrev ValueReader := TomlCursor → Except TomlFault (TomlValue × TomlCursor)

/-- The items of an array up to its closing bracket. -/
def items (value : ValueReader) : Nat → TomlCursor → Except TomlFault (List TomlValue × TomlCursor)
  | 0, c => failAt .endOfText c.finish
  | fuel + 1, c => do
    let c ← c.skipGap
    match ← c.eatToken? .rightBracket with
    | some after => return ([], after)
    | none =>
      let (x, c) ← value c
      let c ← c.skipGap
      match ← c.eatToken? .comma with
      | some after =>
        let (xs, after) ← items value fuel after
        return (x :: xs, after)
      | none => return ([x], ← c.expect .rightBracket)

structure Assignment where
  key : String
  more : List String
  value : TomlValue

def Assignment.addTo (a : Assignment) (pairs : List (String × TomlValue)) :
    Except TomlFault (List (String × TomlValue)) :=
  assign a.value a.key a.more pairs

def assignment (value : ValueReader) (c : TomlCursor) :
    Except TomlFault (Assignment × TomlCursor) := do
  let (key, more, c) ← c.dottedKey
  let c ← c.skipBlanks.expect .equals
  let (value, c) ← value c.skipBlanks
  return ({ key, more, value }, c)

/-- The pairs of a table in braces, up to the closing one. -/
def inlinePairs (value : ValueReader) :
    Nat → List (String × TomlValue) → TomlCursor →
    Except TomlFault (List (String × TomlValue) × TomlCursor)
  | 0, _, c => failAt .endOfText c.finish
  | fuel + 1, pairs, c => do
    let (a, c) ← assignment value c
    let pairs ← a.addTo pairs
    let c := c.skipBlanks
    match ← c.eatToken? .rightBrace with
    | some after => return (pairs, after)
    | none =>
      let c ← c.expect .comma
      inlinePairs value fuel pairs c.skipBlanks

/-- A value, in which arrays and tables nest at most `depth` deep. -/
def value : Nat → ValueReader
  | 0, c => failAt .endOfText c.finish
  | depth + 1, c => do
    match ← c.token? with
    | none => failAt .endOfText c.finish
    | some (.string s _, after) => return (.scalar c.offset (.text s), after)
    | some (.word cs, after) => bare c cs after
    | some (.plus, after) =>
      match ← after.token? with
      | some (.word cs, last) =>
        let (n, last) ← number after.offset cs last
        return (.scalar c.offset n, last)
      | _ => failAt .number after.offset
    | some (.leftBrace, after) =>
      let after := after.skipBlanks
      match ← after.eatToken? .rightBrace with
      | some after => return (.inline c.offset [], after)
      | none =>
        let (pairs, after) ← inlinePairs (value depth) (after.rest.length + 1) [] after
        return (.inline c.offset pairs, after)
    | some (.leftBracket, after) =>
      let (xs, after) ← items (value depth) (after.rest.length + 1) after
      return (.array c.offset xs, after)
    | some (found, _) => failAt (.wanted "a value" found.describe) c.offset

/-! ### Lines

A line takes up at least one character, so the rounds of `tables` are bounded by the length of the
text. -/

/-- The parts of a header behind its first, up to its closing brackets and the end of its line. -/
def headerParts (isElement : Bool) : Nat → TomlCursor → Except TomlFault (List String)
  | 0, _ => .ok []
  | fuel + 1, c => do
    let c := c.skipBlanks
    match ← c.eatToken? .period with
    | some after =>
      let (part, after) ← after.skipBlanks.key
      return part :: (← headerParts isElement fuel after)
    | none =>
      let c ← c.expect .rightBracket
      let c ← if isElement then c.expect .rightBracket else pure c
      let c := c.skipBlanks
      match ← c.comment? with
      | some _ => return []
      | none => let _ ← c.lineEnd; return []

def header (isElement : Bool) (c : TomlCursor) : Except TomlFault (List String) := do
  let (first, c) ← c.skipBlanks.skipBlanks.key
  return first :: (← headerParts isElement (c.rest.length + 1) c)

/-- The tables of a text, in order; `open_` is the one being filled, and none before the first
header as long as nothing is assigned. -/
def tables : Nat → Option TomlTable → TomlCursor → Except TomlFault (List TomlTable)
  | 0, open_, _ => .ok open_.toList
  | fuel + 1, open_, c => do
    let c ← c.skipGap
    match ← c.token? with
    | none => return open_.toList
    | some (.leftBracket, after) =>
      let (isElement, after) ← match ← after.eatToken? .leftBracket with
        | some after => pure (true, after)
        | none => pure (false, after)
      let names ← after.header isElement
      let next := { start := c.offset, header := names, pairs := [], isElement }
      return open_.toList ++ (← tables fuel (some next) after.skipLine)
    | some _ =>
      let table := open_.getD { start := 0, header := [], pairs := [], isElement := false }
      let (a, c) ← assignment (value (c.rest.length + 1)) c
      let c := c.skipBlanks
      let c ← match ← c.comment? with
        | some after => pure after
        | none => c.lineEnd
      tables fuel (some { table with pairs := ← a.addTo table.pairs }) c

end TomlCursor

end VoiceLink
