import VoiceLink.Text.Numeral

/-!
# Places in a YAML text

A YAML text is read through a cursor that counts lines from one and columns, in characters, from
zero. A text ends at its end or at a zero character.

Looking at the next character never fails: behind the end stands the zero character, again and
again. So the readers need no case for the end of the text, but every class of characters they pass
over has to leave that character out.
-/

namespace VoiceLink

structure YamlMark where
  line : Nat
  column : Nat
  deriving DecidableEq, Repr

structure YamlFault where
  info : String
  mark : YamlMark
  deriving DecidableEq, Repr

/-- The wording of a fault; columns count from one. -/
def YamlFault.message (f : YamlFault) : String :=
  f.info ++ " at line " ++ Numeral.text f.mark.line ++ " column "
    ++ Numeral.text (f.mark.column + 1)

/-- What is left of a text, where that is, and how many characters lie before it. -/
structure YamlCursor where
  mark : YamlMark
  index : Nat
  rest : List Char
  deriving Repr

namespace YamlCursor

def start (text : List Char) : YamlCursor :=
  { mark := { line := 1, column := 0 }, index := 0, rest := text }

def endMark : Char := '\x00'

def here (c : YamlCursor) : Char := c.rest.headD endMark

/-- The character `n` places behind the next one. -/
def ahead (c : YamlCursor) (n : Nat) : Char := (c.rest.drop n).headD endMark

def column (c : YamlCursor) : Nat := c.mark.column

def next (c : YamlCursor) : YamlCursor :=
  match c.rest with
  | [] => c
  | ch :: rest =>
    let mark := if ch = '\n' then { line := c.mark.line + 1, column := 0 }
      else { c.mark with column := c.mark.column + 1 }
    { mark, index := c.index + 1, rest }

def skip : Nat → YamlCursor → YamlCursor
  | 0, c => c
  | n + 1, c => skip n c.next

def failAt {α : Type} (mark : YamlMark) (info : String) : Except YamlFault α :=
  .error { info, mark }

/-! ### Classes of characters -/

def isEnd (c : Char) : Bool := c = endMark

def isBreak (c : Char) : Bool := c = '\n' || c = '\r'

def isBlank (c : Char) : Bool := c = ' ' || c = '\t'

/-- Whether a word ends at a character. -/
def isGap (c : Char) : Bool := isBlank c || isBreak c || isEnd c

/-- The characters that structure collections in brackets. -/
def isFlow (c : Char) : Bool := c = ',' || c = '[' || c = ']' || c = '\x7b' || c = '\x7d'

def isNameChar (c : Char) : Bool := c.isAlphanum || c = '_' || c = '-'

/-- Past the characters of a class, at most `fuel`. -/
def skipWhile (p : Char → Bool) : Nat → YamlCursor → YamlCursor
  | 0, c => c
  -- the zero character may well be in the class
  | fuel + 1, c => if !isEnd c.here && p c.here then skipWhile p fuel c.next else c

/-- Past a line end; a carriage return and a line feed are one. -/
def skipBreak (c : YamlCursor) : YamlCursor :=
  if c.here = '\r' ∧ c.ahead 1 = '\n' then c.next.next
  else if isBreak c.here then c.next
  else c

/-- Past what is left of a line, but not its end. -/
def skipLine (c : YamlCursor) : YamlCursor := skipWhile (fun ch => !isBreak ch) c.rest.length c

/-- Whether three of a character stand alone at the start of a line. -/
def atRule (ch : Char) (c : YamlCursor) : Bool :=
  c.column = 0 && c.here = ch && c.ahead 1 = ch && c.ahead 2 = ch && isGap (c.ahead 3)

/-- Whether the border of a document is next. -/
def atBorder (c : YamlCursor) : Bool := c.atRule '-' || c.atRule '.'

end YamlCursor

end VoiceLink
