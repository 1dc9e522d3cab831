import VoiceLink.Settings.Yaml.Cursor

/-!
# Tags and directives in YAML

A tag gives the type of a value: a handle, and a suffix in which characters may be given by their
bytes. A directive is a line of its own in front of a document; what it says does not matter, but
those about versions and tags have to be well formed.

Handles are not looked up. What counts later is only whether a tag has the handle of the basic
types, so a handle that no directive has declared is as good as any other.
-/

namespace VoiceLink

structure YamlTag where
  handle : String
  suffix : String
  deriving DecidableEq, Repr

namespace YamlCursor

def skipBlanks (c : YamlCursor) : YamlCursor := skipWhile isBlank c.rest.length c

/-! ### Tags

Three forms are told apart: a suffix between angle brackets, a handle that ends with a mark and has
a suffix behind it, and a single mark with a suffix right behind it. In the last form the letters
have been read as a handle before it is known that they are none. -/

/-- A handle: letters behind an exclamation mark, and perhaps one more mark, without which the
letters are none of a directive. -/
def tagHandle (start : YamlMark) (inDirective : Bool) (c : YamlCursor) :
    Except YamlFault (List Char × YamlCursor) :=
  if c.here ≠ '!' then failAt start "while scanning a tag, did not find expected '!'"
  else
    let letters := c.next.rest.takeWhile isNameChar
    let after := skip letters.length c.next
    if after.here = '!' then .ok ('!' :: letters ++ ['!'], after.next)
    else if inDirective && !letters.isEmpty then
      failAt start "while parsing a tag directive, did not find expected '!'"
    else .ok ('!' :: letters, after)

/-- The byte that a percent sign and two digits stand for. -/
def octet? (c : YamlCursor) : Option Nat := do
  let high ← Numeral.hexValue? (c.ahead 1)
  let low ← Numeral.hexValue? (c.ahead 2)
  if c.here = '%' then return 16 * high + low else none

/-- How many bytes follow the first byte of a character in UTF-8. -/
def trailing? (octet : Nat) : Option Nat :=
  if octet < 0x80 then some 0
  else if octet / 0x20 = 0x6 then some 1
  else if octet / 0x10 = 0xE then some 2
  else if octet / 0x08 = 0x1E then some 3
  else none

/-- The bytes of a character behind the first, put behind `code`. -/
def trailingOctets (start : YamlMark) :
    Nat → (code : Nat) → YamlCursor → Except YamlFault (Nat × YamlCursor)
  | 0, code, c => .ok (code, c)
  | count + 1, code, c =>
    match c.octet? with
    | none => failAt start "while parsing a tag, did not find URI escaped octet"
    | some o =>
      if o / 0x40 ≠ 2 then
        failAt start "while parsing a tag, found an incorrect trailing UTF-8 octet"
      else trailingOctets start count (0x100 * code + o) (skip 3 c)

/-- A character of a suffix that is given by its bytes: the one whose number they are when they are
read as one number. -/
def uriEscape (start : YamlMark) (c : YamlCursor) : Except YamlFault (Char × YamlCursor) :=
  match c.octet? with
  | none => failAt start "while parsing a tag, did not find URI escaped octet"
  | some o =>
    match trailing? o with
    | none => failAt start "while parsing a tag, found an incorrect leading UTF-8 octet"
    | some count => do
      let (code, c) ← trailingOctets start count o (skip 3 c)
      if code < 0xD800 ∨ (0xE000 ≤ code ∧ code < 0x110000) then return (Char.ofNat code, c)
      else failAt start "while parsing a tag, found an invalid UTF-8 codepoint"

def isUriChar (c : Char) : Bool := isNameChar c || ";/?:@&=+$,.!~*'()[]%".toList.contains c

/-- The characters of a suffix up to its end. -/
def uriChars (start : YamlMark) : Nat → YamlCursor → Except YamlFault (List Char × YamlCursor)
  | 0, c => .ok ([], c)
  | fuel + 1, c =>
    if !isUriChar c.here then .ok ([], c)
    else do
      let (ch, c) ← if c.here = '%' then uriEscape start c else pure (c.here, c.next)
      let (more, c) ← uriChars start fuel c
      return (ch :: more, c)

/-- A suffix. What has been read as a handle is put in front of it, but for the exclamation mark. -/
def tagSuffix (start : YamlMark) (head : List Char) (c : YamlCursor) :
    Except YamlFault (List Char × YamlCursor) := do
  let (cs, c) ← uriChars start (c.rest.length + 1) c
  if head.isEmpty && cs.isEmpty then
    failAt start "while parsing a tag, did not find expected tag URI"
  else return (head.drop 1 ++ cs, c)

/-- A tag, from its exclamation mark. -/
def tag (c : YamlCursor) : Except YamlFault (YamlTag × YamlCursor) := do
  let start := c.mark
  let (handle, suffix, c) ←
    if c.ahead 1 = '<' then do
      let (suffix, c) ← tagSuffix start [] c.next.next
      if c.here ≠ '>' then failAt start "while scanning a tag, did not find the expected '>'"
      else pure ([], suffix, c.next)
    else do
      let (handle, c) ← tagHandle start false c
      if 2 ≤ handle.length ∧ handle.getLast? = some '!' then do
        let (suffix, c) ← tagSuffix start [] c
        pure (handle, suffix, c)
      else do
        let (suffix, c) ← tagSuffix start handle c
        pure (if suffix.isEmpty then ([], ['!'], c) else (['!'], suffix, c))
  if isGap c.here then
    return ({ handle := String.ofList handle, suffix := String.ofList suffix }, c)
  else failAt start "while scanning a tag, did not find expected whitespace or line break"

/-! ### Directives

A directive ends at the end of its line; only a comment may stand behind it. -/

def directiveName (c : YamlCursor) : Except YamlFault (String × YamlCursor) :=
  let letters := c.rest.takeWhile isNameChar
  let after := skip letters.length c
  if letters.isEmpty then
    failAt c.mark "while scanning a directive, could not find expected directive name"
  else if !isGap after.here then
    failAt c.mark "while scanning a directive, found unexpected non-alphabetical character"
  else .ok (String.ofList letters, after)

/-- Past a part of a version number, which has at most nine digits. -/
def versionNumber (start : YamlMark) (c : YamlCursor) : Except YamlFault YamlCursor :=
  let digits := c.rest.takeWhile Char.isDigit
  if 9 < digits.length then
    failAt start "while scanning a YAML directive, found extremely long version number"
  else if digits.isEmpty then
    failAt start "while scanning a YAML directive, did not find expected version number"
  else .ok (skip digits.length c)

def version (start : YamlMark) (c : YamlCursor) : Except YamlFault YamlCursor := do
  let c ← versionNumber start c.skipBlanks
  if c.here ≠ '.' then
    failAt start "while scanning a YAML directive, did not find expected digit or '.' character"
  else versionNumber start c.next

def tagMeaning (start : YamlMark) (c : YamlCursor) : Except YamlFault YamlCursor := do
  let (_, c) ← tagHandle start true c.skipBlanks
  let (_, c) ← tagSuffix start [] c.skipBlanks
  if isGap c.here then return c
  else failAt start "while scanning TAG, did not find expected whitespace or line break"

/-- Past a directive, from its percent sign. -/
def directive (c : YamlCursor) : Except YamlFault YamlCursor := do
  let start := c.mark
  let (name, c) ← directiveName c.next
  let c ← match name with
    | "YAML" => version start c
    | "TAG" => tagMeaning start c
    | _ => pure c.skipLine
  let c := c.skipBlanks
  let c := if c.here = '#' then c.skipLine else c
  if isBreak c.here || isEnd c.here then return c.skipBreak
  else
    failAt start "while scanning a directive, did not find expected comment or line break"

end YamlCursor

end VoiceLink
