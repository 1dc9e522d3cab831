import VoiceLink.Json.Fault
import VoiceLink.Text.Numeral

/-!
# Reading JSON

Readers take the characters that are left and return a value with what is then left, or say where
they stopped. `Json.read` reads one value from the front of a text, `Json.parse` a whole text.
Containers nest at most 127 deep.

Every reader consumes what it returns a value for, so the number of characters bounds the number of
rounds of any loop; the loops count down from it. A round too many cannot happen, and the readers
that would be met there answer like at the end of the text.
-/

namespace VoiceLink

/-- A reader of values of type `α`. -/
abbrev JsonReader (α : Type) := List Char → Except Stop (α × List Char)

namespace JsonReader

/-! ## Stopping -/

/-- Give up right before `rest`. -/
def stop {α : Type} (cause : JsonCause) (rest : List Char) : Except Stop α :=
  .error { cause, rest, ahead := 0 }

/-- Give up one byte into `rest`: at the character that was looked at. -/
def stopAt {α : Type} (cause : JsonCause) (rest : List Char) : Except Stop α :=
  .error { cause, rest, ahead := 1 }

/-- The four characters JSON counts as blank. -/
def isBlank (c : Char) : Bool := c = ' ' || c = '\n' || c = '\t' || c = '\r'

def skipBlanks (cs : List Char) : List Char := cs.dropWhile isBlank

/-- Read the rest of a word that is known from its first character. -/
def word : List Char → List Char → Except Stop (List Char)
  | [], cs => .ok cs
  | _ :: _, [] => stop .eofInValue []
  | w :: ws, c :: cs => if w = c then word ws cs else stopAt .expectedIdent (c :: cs)

/-! ### Strings

Inside quotes a character stands for itself unless it is a control character; an escape stands for
one character, also where it takes two of them to write it. -/

/-- The value of four hexadecimal digits; four bytes are taken whatever they are. -/
def hexQuad (cs : List Char) : Except Stop (Nat × List Char) :=
  if utf8Length (cs.take 4) < 4 then stop .eofInString []
  else
    match cs with
    | a :: b :: c :: d :: rest =>
      match Numeral.hexValue? a, Numeral.hexValue? b, Numeral.hexValue? c, Numeral.hexValue? d with
      | some a, some b, some c, some d => .ok (((a * 16 + b) * 16 + c) * 16 + d, rest)
      | _, _, _, _ => .error { cause := .invalidEscape, rest := cs, ahead := 4 }
    | _ => .error { cause := .invalidEscape, rest := cs, ahead := 4 }

def joinSurrogates (lead trail : Nat) : Nat := (lead - 0xD800) * 0x400 + (trail - 0xDC00) + 0x10000

/-- The character of a `\u` escape, from its first digit. A leading surrogate must be followed by
the escape of a trailing one. -/
def unicodeEscape (cs : List Char) : Except Stop (Char × List Char) := do
  let (lead, rest) ← hexQuad cs
  if 0xDC00 ≤ lead ∧ lead ≤ 0xDFFF then stop .loneSurrogate rest
  else if lead < 0xD800 ∨ 0xDBFF < lead then return (Char.ofNat lead, rest)
  else
    match rest with
    | [] => stop .eofInString []
    | '\\' :: [] => stop .eofInString []
    | '\\' :: 'u' :: rest => do
      let (trail, rest) ← hexQuad rest
      if trail < 0xDC00 ∨ 0xDFFF < trail then stop .loneSurrogate rest
      else return (Char.ofNat (joinSurrogates lead trail), rest)
    | '\\' :: rest => stopAt .unfinishedSurrogate rest
    | rest => stopAt .unfinishedSurrogate rest

/-- The character of an escape, from behind the backslash. -/
def escape : List Char → Except Stop (Char × List Char)
  | [] => stop .eofInString []
  | '"' :: rest => .ok ('"', rest)
  | '\\' :: rest => .ok ('\\', rest)
  | '/' :: rest => .ok ('/', rest)
  | 'b' :: rest => .ok ('\x08', rest)
  | 'f' :: rest => .ok ('\x0c', rest)
  | 'n' :: rest => .ok ('\n', rest)
  | 'r' :: rest => .ok ('\r', rest)
  | 't' :: rest => .ok ('\t', rest)
  | 'u' :: rest => unicodeEscape rest
  | rest => stopAt .invalidEscape rest

/-- The characters of a string up to its closing quote. Every round consumes a character, so a text
has at most as many rounds as characters. -/
def stringBody : Nat → List Char → Except Stop (List Char × List Char)
  | 0, cs => stop .eofInString cs
  | _ + 1, [] => stop .eofInString []
  | _ + 1, '"' :: rest => .ok ([], rest)
  | fuel + 1, '\\' :: rest => do
    let (c, rest) ← escape rest
    let (more, rest) ← stringBody fuel rest
    return (c :: more, rest)
  | fuel + 1, c :: rest =>
    -- the place of this error is behind the character
    if c.toNat < 32 then stop .controlCharacter rest
    else do
      let (more, rest) ← stringBody fuel rest
      return (c :: more, rest)

def string : JsonReader String := fun cs => do
  let (body, rest) ← stringBody (cs.length + 1) cs
  return (String.ofList body, rest)

/-! ### Numbers

A whole number of at most 64 bits is kept exactly. All others become doubles by way of a mantissa of
64 bits and a power of ten: digits that no longer fit are dropped and counted, and one
multiplication or division makes the double, which is not always the nearest one. -/

def maxWord : Nat := UInt64.size - 1

/-- A number on its way to a double: `value · 10 ^ exponent`. Digits that no longer fit 64 bits are
dropped; before the point each dropped digit still counts as a power of ten. -/
structure Scaled where
  value : Nat
  exponent : Int

/-- Take digits into 64 bits as long as they fit: the value, and the digits that did not fit. -/
def fitDigits : Nat → List Char → Nat × List Char
  | n, [] => (n, [])
  | n, c :: cs =>
    let next := n * 10 + Numeral.digitValue c
    if next ≤ maxWord then fitDigits next cs else (n, c :: cs)

/-- The double `value · 10 ^ exponent`, computed by one multiplication or division by a power of
ten, after as many divisions by `10 ^ 308` as bring the exponent into range. `none` means too large.
-/
def Scaled.toFloat? (fuel : Nat) (x : Float) (exponent : Int) : Option Float :=
  if exponent.natAbs ≤ 308 then
    let power := Float.ofScientific 1 false exponent.natAbs
    if 0 ≤ exponent then
      let y := x * power
      if y.isInf then none else some y
    else some (x / power)
  else if x == 0 then some x
  else if 0 ≤ exponent then none
  else
    match fuel with
    | 0 => some 0
    | fuel + 1 => Scaled.toFloat? fuel (x / 1e308) (exponent + 308)

def finishReal (positive : Bool) (s : Scaled) (rest : List Char) :
    Except Stop (JsonNumber × List Char) :=
  match Scaled.toFloat? 16 (Float.ofNat s.value) s.exponent with
  | some x => .ok (.real (if positive then x else -x), rest)
  | none => stop .numberOutOfRange rest

def maxExponent : Nat := 2147483647

/-- The digits of an exponent: the value, or the rest after the digit that made it too large. -/
def exponentDigits : Nat → List Char → Except (List Char) (Nat × List Char)
  | n, [] => .ok (n, [])
  | n, c :: cs =>
    if c.isDigit then
      let next := n * 10 + Numeral.digitValue c
      if next ≤ maxExponent then exponentDigits next cs else .error cs
    else .ok (n, c :: cs)

def clampExponent (e : Int) : Int := max (-(maxExponent : Int) - 1) (min maxExponent e)

/-- An exponent, from behind its `e`. An exponent beyond all range is too large for a nonzero
mantissa and makes zero otherwise. -/
def exponentPart (positive : Bool) (s : Scaled) (cs : List Char) :
    Except Stop (JsonNumber × List Char) :=
  let (up, cs) := match cs with
    | '+' :: rest => (true, rest)
    | '-' :: rest => (false, rest)
    | _ => (true, cs)
  match cs with
  | [] => stop .eofInValue []
  | c :: rest =>
    if c.isDigit then
      match exponentDigits (Numeral.digitValue c) rest with
      | .ok (e, rest) =>
        let shift : Int := if up then e else -(e : Int)
        finishReal positive { s with exponent := clampExponent (s.exponent + shift) } rest
      | .error rest =>
        if s.value ≠ 0 ∧ up then stop .numberOutOfRange rest
        else .ok (.real (if positive then 0.0 else -0.0), rest.dropWhile Char.isDigit)
    else stopAt .invalidNumber cs

def afterMantissa (positive : Bool) (s : Scaled) : List Char → Except Stop (JsonNumber × List Char)
  | 'e' :: rest => exponentPart positive s rest
  | 'E' :: rest => exponentPart positive s rest
  | rest => finishReal positive s rest

/-- The digits behind a decimal point. -/
def fractionPart (positive : Bool) (s : Scaled) (cs : List Char) :
    Except Stop (JsonNumber × List Char) :=
  let ds := cs.takeWhile Char.isDigit
  let rest := cs.dropWhile Char.isDigit
  if ds.isEmpty then
    if rest.isEmpty then stop .eofInValue [] else stopAt .invalidNumber rest
  else
    let (value, dropped) := fitDigits s.value ds
    let taken := ds.length - dropped.length
    afterMantissa positive { value, exponent := s.exponent - (taken : Int) } rest

def afterWhole (positive : Bool) (s : Scaled) : List Char → Except Stop (JsonNumber × List Char)
  | '.' :: rest => fractionPart positive s rest
  | rest => afterMantissa positive s rest

/-- A whole number, where it fits: a negative zero and what lies below the 64-bit integers are
doubles. -/
def finishWhole (positive : Bool) (n : Nat) : JsonNumber :=
  if positive then .int n
  else if n ≠ 0 ∧ n ≤ Word.signLimit then .int (-(n : Int))
  else .real (-(Float.ofNat n))

/-- A number, from behind its sign. -/
def unsigned (positive : Bool) : JsonReader JsonNumber
  | [] => stop .eofInValue []
  | c :: cs =>
    if ¬ c.isDigit then stopAt .invalidNumber (c :: cs)
    else
      -- a zero in front stands alone; digits behind it are an error
      let more := if c = '0' then [] else cs.takeWhile Char.isDigit
      let rest := if c = '0' then cs else cs.dropWhile Char.isDigit
      match rest with
      | d :: _ =>
        if c = '0' ∧ d.isDigit then stopAt .invalidNumber rest
        else
          let (value, dropped) := fitDigits (Numeral.digitValue c) more
          if ¬ dropped.isEmpty ∨ d = '.' ∨ d = 'e' ∨ d = 'E' then
            afterWhole positive { value, exponent := dropped.length } rest
          else .ok (finishWhole positive value, rest)
      | [] =>
        let (value, dropped) := fitDigits (Numeral.digitValue c) more
        if dropped.isEmpty then .ok (finishWhole positive value, [])
        else finishReal positive { value, exponent := dropped.length } []

def number : JsonReader JsonNumber
  | '-' :: cs => unsigned false cs
  | cs => unsigned true cs

/-! ### Containers

A container is read element by element, and what to expect next depends on whether there was an
element before: behind one there must be a comma or the end, and behind a comma there must be
another element. The readers of containers take the reader of values as a parameter and are tied
together by `value`, which counts the depth. -/

/-- A scalar, from its first character; `none` where a container begins. -/
def scalar? (c : Char) (cs : List Char) : Option (Except Stop (Json × List Char)) :=
  if c = 'n' then some do
    let rest ← word ['u', 'l', 'l'] cs
    return (.null, rest)
  else if c = 't' then some do
    let rest ← word ['r', 'u', 'e'] cs
    return (.bool true, rest)
  else if c = 'f' then some do
    let rest ← word ['a', 'l', 's', 'e'] cs
    return (.bool false, rest)
  else if c = '"' then some do
    let (s, rest) ← string cs
    return (.string s, rest)
  else if c = '-' ∨ c.isDigit then some do
    let (n, rest) ← number (c :: cs)
    return (.number n, rest)
  else if c = '[' ∨ c = '\x7b' then none
  else some (stopAt .expectedValue (c :: cs))

/-- Whether an array goes on: the rest at its next element, or `none` at the closing bracket, which
stays in the rest. -/
def nextElement (first : Bool) (cs : List Char) : Except Stop (Option (List Char)) :=
  let cs := skipBlanks cs
  match cs with
  | [] => stop .eofInArray []
  | ']' :: _ => .ok none
  | c :: rest =>
    if first then .ok (some cs)
    else if c = ',' then
      match skipBlanks rest with
      | [] => stop .eofInValue []
      | ']' :: more => stopAt .trailingComma (']' :: more)
      | more => .ok (some more)
    else stopAt .expectedArrayEnd cs

/-- Whether an object goes on: the rest behind the opening quote of its next key, or `none` at the
closing brace, which stays in the rest. -/
def nextKey (first : Bool) (cs : List Char) : Except Stop (Option (List Char)) :=
  let quoted : List Char → Except Stop (Option (List Char))
    | [] => stop .eofInValue []
    | '"' :: rest => .ok (some rest)
    | '\x7d' :: rest => stopAt .trailingComma ('\x7d' :: rest)
    | rest => stopAt .keyNotString rest
  let cs := skipBlanks cs
  match cs with
  | [] => stop .eofInObject []
  | '\x7d' :: _ => .ok none
  | c :: rest =>
    if first then quoted cs
    else if c = ',' then quoted (skipBlanks rest)
    else stopAt .expectedObjectEnd cs

def colon (cs : List Char) : Except Stop (List Char) :=
  match skipBlanks cs with
  | [] => stop .eofInObject []
  | ':' :: rest => .ok rest
  | rest => stopAt .expectedColon rest

/-- The elements of an array up to its closing bracket. Every element consumes a character, so the
length of the text bounds the rounds. -/
def elements (value : JsonReader Json) :
    Nat → Bool → List Char → Except Stop (List Json × List Char)
  | 0, _, cs => stop .eofInArray cs
  | fuel + 1, first, cs => do
    match ← nextElement first cs with
    | none => return ([], (skipBlanks cs).drop 1)
    | some cs =>
      let (x, cs) ← value cs
      let (xs, cs) ← elements value fuel false cs
      return (x :: xs, cs)

/-- One member, from behind the opening quote of its key. -/
def member (value : JsonReader Json) : JsonReader (String × Json) := fun cs => do
  let (key, cs) ← string cs
  let cs ← colon cs
  let (x, cs) ← value cs
  return ((key, x), cs)

def members (value : JsonReader Json) :
    Nat → Bool → List Char → Except Stop (List (String × Json) × List Char)
  | 0, _, cs => stop .eofInObject cs
  | fuel + 1, first, cs => do
    match ← nextKey first cs with
    | none => return ([], (skipBlanks cs).drop 1)
    | some cs =>
      let (m, cs) ← member value cs
      let (ms, cs) ← members value fuel false cs
      return (m :: ms, cs)

/-- A value whose containers nest at most `depth` deep. -/
def value : Nat → JsonReader Json
  | depth, cs =>
    match skipBlanks cs with
    | [] => stop .eofInValue []
    | c :: rest =>
      match scalar? c rest with
      | some result => result
      | none =>
        match depth with
        | 0 => stopAt .tooDeep (c :: rest)
        | depth + 1 =>
          if c = '[' then do
            let (xs, rest) ← elements (value depth) (rest.length + 1) true rest
            return (.array xs, rest)
          else do
            let (ms, rest) ← members (value depth) (rest.length + 1) true rest
            return (.object ms, rest)

def maxDepth : Nat := 127

def done (cs : List Char) : Except Stop Unit :=
  match skipBlanks cs with
  | [] => .ok ()
  | rest => stopAt .trailingCharacters rest

end JsonReader

/-! ## Texts -/

namespace Json

def read : JsonReader Json := JsonReader.value JsonReader.maxDepth

/-- Read a text that is one JSON value. -/
def parse (text : String) : Except JsonError Json :=
  let cs := text.toList
  let result : Except Stop Json := do
    let (v, rest) ← read cs
    JsonReader.done rest
    return v
  match result with
  | .ok v => .ok v
  | .error s => .error (s.toError cs)

end Json

end VoiceLink
