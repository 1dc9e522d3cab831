/-!
# Places in a text

A place is a line and a column, where columns count the bytes of the text's UTF-8 form. Readers keep
what is left of a text and not how far they have come; the place of an error is worked out only when
there is an error, from the number of bytes in front of it.
-/

namespace VoiceLink

/-- The bytes of a text in UTF-8. -/
def utf8Length (cs : List Char) : Nat := cs.foldr (fun c n => c.utf8Size + n) 0

/-- A place in a text: lines count from one, columns are the bytes since the last line end. Line
zero stands for no place at all. -/
structure TextPlace where
  line : Nat
  column : Nat
  deriving DecidableEq, Repr

namespace TextPlace

def nowhere : TextPlace := { line := 0, column := 0 }

def past (p : TextPlace) (c : Char) : TextPlace :=
  if c = '\n' then { line := p.line + 1, column := 0 }
  else { p with column := p.column + c.utf8Size }

/-- The place `bytes` bytes into `text`, started from `p`; a place inside a character counts the
bytes of it that lie before. -/
def advance (p : TextPlace) : List Char → Nat → TextPlace
  | [], _ => p
  | c :: rest, bytes =>
    if bytes < c.utf8Size then { p with column := p.column + bytes }
    else advance (p.past c) rest (bytes - c.utf8Size)

def ofOffset (text : List Char) (bytes : Nat) : TextPlace :=
  advance { line := 1, column := 0 } text bytes

end TextPlace

end VoiceLink
