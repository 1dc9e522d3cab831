import VoiceLink.Settings.Yaml.Cursor

/-!
# Scalars in YAML

Plain scalars, quoted scalars and blocks. Inside plain and quoted scalars line ends are folded: one
becomes a blank, and of several the first is dropped. Blocks fold the ends of lines that do not
begin with a blank, unless they are literal.

A scalar is read in rounds of a run of characters and the gap behind it. What the gap stands for is
only known where it ends, and a gap that ends a plain scalar stands for nothing.
-/

namespace VoiceLink

namespace YamlCursor

/-! ### Gaps -/

/-- What lies between two words of a scalar. -/
structure Gap where
  blanks : List Char := []
  /-- Whether a line end has been met, or escaped. -/
  broken : Bool := false
  /-- Whether a line end counts. -/
  folded : Bool := false
  /-- The line ends after the first. -/
  more : Nat := 0

def Gap.chars (g : Gap) : List Char :=
  if g.broken then
    if g.folded ∧ g.more = 0 then [' '] else List.replicate g.more '\n'
  else g.blanks

/-- Past blanks and line ends. A tab may not stand in for blanks left of column `indent`; `start` is
blamed for one. -/
def gap (start : YamlMark) (indent : Nat) :
    Nat → Gap → YamlCursor → Except YamlFault (Gap × YamlCursor)
  | 0, g, c => .ok (g, c)
  | fuel + 1, g, c =>
    if isBlank c.here then
      if g.broken then
        if c.here = '\t' ∧ c.column < indent then
          failAt start "while scanning a plain scalar, found a tab"
        else gap start indent fuel g c.next
      else gap start indent fuel { g with blanks := g.blanks ++ [c.here] } c.next
    else if isBreak c.here then
      if g.broken then gap start indent fuel { g with more := g.more + 1 } c.skipBreak
      else gap start indent fuel { g with blanks := [], broken := true, folded := true } c.skipBreak
    else .ok (g, c)

/-! ### Plain scalars

A plain scalar may go on in the next line as long as it stays right of the collection it is in. That
it ended behind a line end matters to the scanner, as a key may begin in a new line. -/

/-- A run of characters of a plain scalar; in brackets it also ends where they are structured. -/
def plainWord (inFlow : Bool) : Nat → YamlCursor → List Char × YamlCursor
  | 0, c => ([], c)
  | fuel + 1, c =>
    let ch := c.here
    let stops := isGap ch || (ch = ':' && (isGap (c.ahead 1) || (inFlow && isFlow (c.ahead 1))))
      || (inFlow && isFlow ch)
    if stops then ([], c)
    else
      let (more, c) := plainWord inFlow fuel c.next
      (ch :: more, c)

/-- The rest of a plain scalar that began at `start` and has to stay right of column `indent`, and
whether it ended behind a line end. -/
def plainBody (start : YamlMark) (inFlow : Bool) (indent : Nat) :
    Nat → Gap → YamlCursor → Except YamlFault (List Char × Bool × YamlCursor)
  | 0, g, c => .ok ([], g.broken, c)
  | fuel + 1, g, c =>
    if c.atBorder || c.here = '#' then .ok ([], g.broken, c)
    else do
      let (word, c) := plainWord inFlow (c.rest.length + 1) c
      let text := if word.isEmpty then [] else g.chars ++ word
      let g := if word.isEmpty then g else {}
      if !isBlank c.here && !isBreak c.here then return (text, g.broken, c)
      else
        let (g, c) ← gap start indent (c.rest.length + 1) g c
        if !inFlow && c.column < indent then return (text, g.broken, c)
        else
          let (more, broken, c) ← plainBody start inFlow indent fuel g c
          return (text ++ more, broken, c)

def plain (inFlow : Bool) (indent : Nat) (c : YamlCursor) :
    Except YamlFault (List Char × Bool × YamlCursor) :=
  plainBody c.mark inFlow indent (c.rest.length + 1) {} c

/-! ### Quoted scalars

Both kinds of quotes share one reader. Behind a backslash a line end is no part of the text, and the
gap it begins has been broken without a line end that counts. -/

/-- The value of the next `count` hexadecimal digits. -/
def hexValue? (count : Nat) (c : YamlCursor) : Option Nat :=
  let ds := c.rest.take count
  if ds.length < count then none
  else ds.foldl (fun n d => do return 16 * (← n) + (← Numeral.hexValue? d)) (some 0)

def escaped? : Char → Option Char
  | '0' => some '\x00'
  | 'a' => some '\x07'
  | 'b' => some '\x08'
  | 't' => some '\t'
  | '\t' => some '\t'
  | 'n' => some '\n'
  | 'v' => some '\x0b'
  | 'f' => some '\x0c'
  | 'r' => some '\x0d'
  | 'e' => some '\x1b'
  | ' ' => some ' '
  | '"' => some '"'
  | '\'' => some '\''
  | '\\' => some '\\'
  | 'N' => some (Char.ofNat 0x85)
  | '_' => some (Char.ofNat 0xa0)
  | 'L' => some (Char.ofNat 0x2028)
  | 'P' => some (Char.ofNat 0x2029)
  | _ => none

/-- How many digits follow a letter behind a backslash. -/
def escapeDigits? : Char → Option Nat
  | 'x' => some 2
  | 'u' => some 4
  | 'U' => some 8
  | _ => none

/-- The character of an escape, from its backslash, in a scalar that began at `start`. -/
def escape (start : YamlMark) (c : YamlCursor) : Except YamlFault (Char × YamlCursor) :=
  let letter := c.ahead 1
  let after := c.next.next
  match escaped? letter, escapeDigits? letter with
  | some ch, _ => .ok (ch, after)
  | none, some count =>
    match hexValue? count after with
    | none =>
      failAt start "while parsing a quoted scalar, did not find expected hexadecimal number"
    | some n =>
      if n < 0xD800 ∨ (0xE000 ≤ n ∧ n < 0x110000) then .ok (Char.ofNat n, skip count after)
      else
        failAt start "while parsing a quoted scalar, found invalid Unicode character escape code"
  | none, none => failAt start "while parsing a quoted scalar, found unknown escape character"

/-- A run of characters of a quoted scalar, and whether it ended with an escaped line end. -/
def quotedWord (start : YamlMark) (single : Bool) :
    Nat → YamlCursor → Except YamlFault (List Char × Bool × YamlCursor)
  | 0, c => .ok ([], false, c)
  | fuel + 1, c =>
    let ch := c.here
    let goOn (ch : Char) (c : YamlCursor) : Except YamlFault (List Char × Bool × YamlCursor) := do
      let (more, broken, c) ← quotedWord start single fuel c
      return (ch :: more, broken, c)
    if isGap ch then .ok ([], false, c)
    else if single then
      if ch = '\'' then
        if c.ahead 1 = '\'' then goOn '\'' c.next.next else .ok ([], false, c)
      else goOn ch c.next
    else if ch = '"' then .ok ([], false, c)
    else if ch = '\\' then
      if isBreak (c.ahead 1) then .ok ([], true, c.next.skipBreak)
      else do
        let (ch, c) ← escape start c
        goOn ch c
    else goOn ch c.next

/-- The rest of a quoted scalar that began at `start`, up to and with its closing quote. -/
def quotedBody (start : YamlMark) (single : Bool) :
    Nat → YamlCursor → Except YamlFault (List Char × YamlCursor)
  | 0, _ => failAt start "while scanning a quoted scalar, found unexpected end of stream"
  | fuel + 1, c =>
    if c.atBorder then
      failAt start "while scanning a quoted scalar, found unexpected document indicator"
    else if isEnd c.here then
      failAt start "while scanning a quoted scalar, found unexpected end of stream"
    else do
      let (word, broken, c) ← quotedWord start single (c.rest.length + 1) c
      if c.here = (if single then '\'' else '"') ∧ broken = false then return (word, c.next)
      else
        let (g, c) ← gap start 0 (c.rest.length + 1) { broken } c
        let (more, c) ← quotedBody start single fuel c
        return (word ++ g.chars ++ more, c)

def quoted (single : Bool) (c : YamlCursor) : Except YamlFault (List Char × YamlCursor) :=
  quotedBody c.mark single (c.rest.length + 1) c.next

/-! ### Blocks

The lines of a block begin in one column: the one its signs give, or that of its first line. Before
that is known, empty lines are passed with the widest of them kept in mind, since the column is not
to the left of it. -/

inductive Chomping where
  | strip
  | clip
  | keep
  deriving DecidableEq, Repr

/-- Whether a cursor is left of where the lines of a block begin, if that is known. -/
def inIndent (indent : Option Nat) (c : YamlCursor) : Bool :=
  match indent with
  | none => true
  | some n => c.column < n

/-- Past the blanks that indent a line, up to column `indent` if that is known. -/
def skipIndent (indent : Option Nat) : Nat → YamlCursor → YamlCursor
  | 0, c => c
  | fuel + 1, c =>
    if inIndent indent c ∧ c.here = ' ' then skipIndent indent fuel c.next else c

/-- Past empty lines in front of a line of a block: their number, and the largest column reached. -/
def blockBreaks (indent : Option Nat) :
    Nat → Nat → Nat → YamlCursor → Except YamlFault (Nat × Nat × YamlCursor)
  | 0, breaks, widest, c => .ok (breaks, widest, c)
  | fuel + 1, breaks, widest, c =>
    let c := skipIndent indent (c.rest.length + 1) c
    let widest := max widest c.column
    if inIndent indent c ∧ c.here = '\t' then
      failAt c.mark
        "while scanning a block scalar, found a tab character where an indentation space is expected"
    else if isBreak c.here then blockBreaks indent fuel (breaks + 1) widest c.skipBreak
    else .ok (breaks, widest, c)

/-- What a block has gathered between two lines. -/
structure BlockGap where
  /-- Whether the last line ended with a line end. -/
  ended : Bool := false
  /-- Whether the last line began with a blank. -/
  indented : Bool := false
  /-- The empty lines since then. -/
  breaks : Nat := 0

/-- The lines of a block indented by `indent`, and what is gathered behind the last. Unless the
block is literal, one line end between two lines that do not begin with a blank becomes a blank. -/
def blockLines (literal : Bool) (indent : Nat) :
    Nat → BlockGap → YamlCursor → Except YamlFault (List Char × BlockGap × YamlCursor)
  | 0, g, c => .ok ([], g, c)
  | fuel + 1, g, c =>
    if c.column ≠ indent ∨ isEnd c.here then .ok ([], g, c)
    else do
      let indented := isBlank c.here
      let front :=
        if !literal && g.ended && !g.indented && !indented then
          if g.breaks = 0 then [' '] else []
        else if g.ended then ['\n'] else []
      let line := c.rest.takeWhile fun ch => !isBreak ch && !isEnd ch
      let text := front ++ List.replicate g.breaks '\n' ++ line
      let c := c.skipLine
      if isEnd c.here then return (text, { indented }, c)
      else
        let (breaks, _, c) ← blockBreaks (some indent) (c.rest.length + 1) 0 0 c.skipBreak
        let (more, g, c) ← blockLines literal indent fuel { ended := true, indented, breaks } c
        return (text ++ more, g, c)

/-- The signs behind the mark of a block: chomping and a column, in either order. -/
def blockSigns (start : YamlMark) (c : YamlCursor) :
    Except YamlFault (Chomping × Option Nat × YamlCursor) := do
  let chomping (c : YamlCursor) : Option Chomping × YamlCursor :=
    if c.here = '+' then (some .keep, c.next)
    else if c.here = '-' then (some .strip, c.next)
    else (none, c)
  let column (c : YamlCursor) : Except YamlFault (Option Nat × YamlCursor) :=
    if c.here = '0' then
      failAt start "while scanning a block scalar, found an indentation indicator equal to 0"
    else if c.here.isDigit then .ok (some (Numeral.digitValue c.here), c.next)
    else .ok (none, c)
  match chomping c with
  | (some mode, c) =>
    let (n, c) ← column c
    return (mode, n, c)
  | (none, c) =>
    let (n, c) ← column c
    if n.isNone then return (.clip, n, c)
    else
      let (mode, c) := chomping c
      return (mode.getD .clip, n, c)

/-- A block, from its mark. `parent` is the column of what it belongs to, if that is indented.
Returns the mark of its first line and its text. -/
def block (literal : Bool) (parent : Option Nat) (c : YamlCursor) :
    Except YamlFault (YamlMark × List Char × YamlCursor) := do
  let start := c.mark
  let (chomping, given, c) ← blockSigns start c.next
  let c := skipWhile isBlank c.rest.length c
  let c := if c.here = '#' then c.skipLine else c
  if !isBreak c.here && !isEnd c.here then
    failAt start "while scanning a block scalar, did not find expected comment or line break"
  else
    let c := c.skipBreak
    let fixed := given.map fun n => (parent.getD 0) + n
    let (breaks, widest, c) ← blockBreaks fixed (c.rest.length + 1) 0 0 c
    let least := match parent with
      | some n => n + 1
      | none => 0
    let indent := fixed.getD (max 1 (max widest least))
    let first := c.mark
    let (text, g, c) ← blockLines literal indent (c.rest.length + 1) { breaks } c
    let tail := match chomping with
      | .strip => []
      | .clip => if g.ended then ['\n'] else []
      | .keep => (if g.ended then ['\n'] else []) ++ List.replicate g.breaks '\n'
    return (first, text ++ tail, c)

end YamlCursor

end VoiceLink
