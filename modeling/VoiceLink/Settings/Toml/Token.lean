import VoiceLink.Settings.Toml.Fault

/-!
# The tokens of TOML

A text is read through a cursor, which knows how many bytes lie before it. A carriage return in
front of a line feed belongs to the line end; anywhere else it is a character like any other.

Tokens are made without knowing what stands around them: a word may be a key, a number or a piece of
a date, and only the lines decide which. So a number with a fraction is three tokens.
-/

namespace VoiceLink

/-- What is left of a TOML text, and how many bytes lie before it. -/
structure TomlCursor where
  offset : Nat
  rest : List Char
  deriving Repr

/-- The tokens of a TOML text. Words are bare keys, numbers, truth values and parts of dates. -/
inductive TomlToken where
  | blank
  | newline
  | comment
  | equals
  | period
  | comma
  | colon
  | plus
  | leftBrace
  | rightBrace
  | leftBracket
  | rightBracket
  | word (chars : List Char)
  | string (value : String) (multiline : Bool)
  deriving DecidableEq, Repr

def TomlToken.describe : TomlToken → String
  | blank => "whitespace"
  | newline => "a newline"
  | comment => "a comment"
  | equals => "an equals"
  | period => "a period"
  | comma => "a comma"
  | colon => "a colon"
  | plus => "a plus"
  | leftBrace => "a left brace"
  | rightBrace => "a right brace"
  | leftBracket => "a left bracket"
  | rightBracket => "a right bracket"
  | word _ => "an identifier"
  | string _ multiline => if multiline then "a multiline string" else "a string"

/-! ## Cursors -/

namespace TomlCursor

/-- The start of a text. A byte order mark in front is passed over. -/
def start (text : List Char) : TomlCursor :=
  match text with
  | '\ufeff' :: rest => { offset := 3, rest }
  | _ => { offset := 0, rest := text }

/-- The next character; a line end is one character. -/
def next? (c : TomlCursor) : Option (Char × TomlCursor) :=
  match c.rest with
  | [] => none
  | '\r' :: '\n' :: rest => some ('\n', { offset := c.offset + 2, rest })
  | ch :: rest => some (ch, { offset := c.offset + ch.utf8Size, rest })

/-- The characters up to the first that a class does not have. -/
def span (p : Char → Bool) (c : TomlCursor) : List Char × TomlCursor :=
  let taken := c.rest.takeWhile p
  (taken, { offset := c.offset + utf8Length taken, rest := c.rest.dropWhile p })

/-- The cursor behind a character, if that is next. -/
def eat? (ch : Char) (c : TomlCursor) : Option TomlCursor :=
  match c.next? with
  | some (d, after) => if d = ch then some after else none
  | none => none

def failAt {α : Type} (cause : TomlCause) (offset : Nat) : Except TomlFault α :=
  .error (.at_ cause offset)

def isBlank (c : Char) : Bool := c = ' ' || c = '\t'

def isWordChar (c : Char) : Bool :=
  ('A' ≤ c && c ≤ 'Z') || ('a' ≤ c && c ≤ 'z') || ('0' ≤ c && c ≤ '9') || c = '-' || c = '_'

def isCommentChar (c : Char) : Bool := c = '\t' || 32 ≤ c.toNat

/-- The characters that stand for themselves in a string. -/
def isStringChar (c : Char) : Bool := c = '\t' || (32 ≤ c.toNat && c.toNat ≠ 127)

/-! ### Strings

A fault in the middle of a string is blamed on the character it stands at, a string that never ends
on the quote it begins with. Both kinds of quotes are read by one function: in a literal string no
backslash means anything. -/

/-- The value of `count` hexadecimal digits. -/
def hexDigits (start : Nat) : (count : Nat) → Nat → TomlCursor → Except TomlFault (Nat × TomlCursor)
  | 0, n, c => .ok (n, c)
  | count + 1, n, c =>
    match c.next? with
    | none => failAt .openString start
    | some (ch, after) =>
      match Numeral.hexValue? ch with
      | some d => hexDigits start count (n * 16 + d) after
      | none => failAt (.hexEscape ch) c.offset

def isScalarValue (n : Nat) : Bool := n < 0xD800 || (0xE000 ≤ n && n < 0x110000)

/-- The character of a numbered escape, whose letter is at `at_`. -/
def numbered (start at_ count : Nat) (c : TomlCursor) : Except TomlFault (Char × TomlCursor) := do
  let (n, c) ← hexDigits start count 0 c
  if isScalarValue n then return (Char.ofNat n, c) else failAt (.escapeValue n) at_

/-- Whether an escaped line end has been met, from the first blank behind the backslash. -/
def foldedLine (c : TomlCursor) : Option TomlCursor :=
  let (_, after) := c.span isBlank
  match after.next? with
  | none => some after
  | some ('\n', after) => some after
  | some _ => none

/-- Past blanks and line ends, of which a text has at most `fuel`. -/
def skipFolded : Nat → TomlCursor → TomlCursor
  | 0, c => c
  | fuel + 1, c =>
    match c.next? with
    | some (ch, after) => if isBlank ch || ch = '\n' then skipFolded fuel after else c
    | none => c

/-- What an escape in a basic string that began at `start` stands for, from behind its backslash. In
a multiline string a backslash at the end of a line takes up the line end and the blanks after it.
-/
def escape (start : Nat) (multiline : Bool) (c : TomlCursor) :
    Except TomlFault (List Char × TomlCursor) :=
  match c.next? with
  | none => failAt .openString start
  | some (ch, after) =>
    match ch with
    | '"' => .ok (['"'], after)
    | '\\' => .ok (['\\'], after)
    | 'b' => .ok (['\x08'], after)
    | 'f' => .ok (['\x0c'], after)
    | 'n' => .ok (['\n'], after)
    | 'r' => .ok (['\r'], after)
    | 't' => .ok (['\t'], after)
    | 'u' => do
      let (ch, after) ← numbered start c.offset 4 after
      return ([ch], after)
    | 'U' => do
      let (ch, after) ← numbered start c.offset 8 after
      return ([ch], after)
    | ch =>
      if multiline ∧ (isBlank ch ∨ ch = '\n') then
        match if ch = '\n' then some after else foldedLine after with
        | some after => .ok ([], skipFolded after.rest.length after)
        | none => failAt (.escape ch) c.offset
      else failAt (.escape ch) c.offset

/-- The characters of a string that began at `start`, up to and with its closing quotes. Every round
takes a character, so the length of the text bounds the rounds. -/
def stringBody (quote : Char) (start : Nat) (multiline : Bool) :
    Nat → TomlCursor → Except TomlFault (List Char × TomlCursor)
  | 0, _ => failAt .openString start
  | fuel + 1, c =>
    let goOn (taken : List Char) (c : TomlCursor) : Except TomlFault (List Char × TomlCursor) := do
      let (more, c) ← stringBody quote start multiline fuel c
      return (taken ++ more, c)
    match c.next? with
    | none => failAt .openString start
    | some (ch, after) =>
      if ch = '\n' then
        if multiline then goOn ['\n'] after else failAt .newlineInString c.offset
      -- three quotes end a multiline string, and up to two right before them are its own
      else if ch = quote then
        if multiline then
          match after.eat? quote with
          | none => goOn [quote] after
          | some second =>
            match second.eat? quote with
            | none => goOn [quote, quote] second
            | some third =>
              match third.eat? quote with
              | none => .ok ([], third)
              | some fourth =>
                match fourth.eat? quote with
                | none => .ok ([quote], fourth)
                | some fifth => .ok ([quote, quote], fifth)
        else .ok ([], after)
      else if ch = '\\' ∧ quote = '"' then do
        let (taken, after) ← escape start multiline after
        goOn taken after
      else if isStringChar ch then goOn [ch] after
      else failAt (.characterInString ch) c.offset

/-- A string, from behind its first quote, which is at `start`. A line end right behind three quotes
does not count. -/
def string (quote : Char) (start : Nat) (c : TomlCursor) :
    Except TomlFault (TomlToken × TomlCursor) :=
  let body (multiline : Bool) (c : TomlCursor) : Except TomlFault (TomlToken × TomlCursor) := do
    let (chars, after) ← stringBody quote start multiline (c.rest.length + 1) c
    return (.string (String.ofList chars) multiline, after)
  match c.eat? quote with
  | none => body false c
  | some second =>
    match second.eat? quote with
    | none => .ok (.string "" false, second)
    | some third => body true ((third.eat? '\n').getD third)

/-! ### Tokens -/

/-- The next token; `none` at the end of the text. -/
def token? (c : TomlCursor) : Except TomlFault (Option (TomlToken × TomlCursor)) :=
  match c.next? with
  | none => .ok none
  | some (ch, after) =>
    let single (t : TomlToken) : Except TomlFault (Option (TomlToken × TomlCursor)) :=
      .ok (some (t, after))
    match ch with
    | '\n' => single .newline
    | '#' => .ok (some (.comment, (after.span isCommentChar).2))
    | '=' => single .equals
    | '.' => single .period
    | ',' => single .comma
    | ':' => single .colon
    | '+' => single .plus
    | '\x7b' => single .leftBrace
    | '\x7d' => single .rightBrace
    | '[' => single .leftBracket
    | ']' => single .rightBracket
    | '\'' => do return some (← string '\'' c.offset after)
    | '"' => do return some (← string '"' c.offset after)
    | ch =>
      if isBlank ch then .ok (some (.blank, (after.span isBlank).2))
      else if isWordChar ch then
        let (chars, after) := c.span isWordChar
        .ok (some (.word chars, after))
      else failAt (.character ch) c.offset

/-! ### Rules

What a line wants next is looked for or insisted on; in the second case the message names what was
wanted and what was there. -/

/-- The cursor behind a token, if that is next. -/
def eatToken? (t : TomlToken) (c : TomlCursor) : Except TomlFault (Option TomlCursor) := do
  match ← c.token? with
  | some (found, after) => return if found = t then some after else none
  | none => return none

def finish (c : TomlCursor) : Nat := c.offset + utf8Length c.rest

def expect (t : TomlToken) (c : TomlCursor) : Except TomlFault TomlCursor := do
  match ← c.token? with
  | some (found, after) =>
    if found = t then return after else failAt (.wanted t.describe found.describe) c.offset
  | none => failAt (.wanted t.describe "eof") c.finish

def skipBlanks (c : TomlCursor) : TomlCursor := (c.span isBlank).2

/-- Past a line end, which has to be next unless the text ends. -/
def lineEnd (c : TomlCursor) : Except TomlFault TomlCursor := do
  match ← c.token? with
  | none => return c
  | some (.newline, after) => return after
  | some (found, _) => failAt (.wanted "newline" found.describe) c.offset

/-- Past a comment and its line end, if a comment is next. -/
def comment? (c : TomlCursor) : Except TomlFault (Option TomlCursor) := do
  match c.eat? '#' with
  | none => return none
  | some after => return some (← lineEnd (after.span isCommentChar).2)

def skipLine (c : TomlCursor) : TomlCursor :=
  let (_, after) := c.span (· ≠ '\n')
  (after.eat? '\n').getD after

/-- One part of a key: a word or a string of one line. -/
def key (c : TomlCursor) : Except TomlFault (String × TomlCursor) := do
  match ← c.token? with
  | some (.word chars, after) => return (String.ofList chars, after)
  | some (.string value multiline, after) =>
    if multiline then failAt .multilineKey c.offset else return (value, after)
  | some (found, _) => failAt (.wanted "a table key" found.describe) c.offset
  | none => failAt (.wanted "a table key" "eof") c.finish

end TomlCursor

end VoiceLink
