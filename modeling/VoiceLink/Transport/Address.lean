import VoiceLink.Text.Numeral
import VoiceLink.Text.Place

/-!
# Addresses of servers

An address has a scheme, an authority and a target: `scheme://user@host:number/path?query#fragment`.
An authority may also stand alone, and so may a path. Only the form is checked here; whether there
is such a server is another question.

A text is read from the left, and each part ends where the next begins. The scheme is what stands in
front of `://`, the authority reaches up to the first slash, question mark or hash, and the target
is the rest of it, for which the authority need not be understood.
-/

namespace VoiceLink

/-- Why a text is no address. -/
inductive AddressFault where
  | empty
  | tooLong
  | longScheme
  | character
  | authority
  | format
  deriving DecidableEq, Repr

def AddressFault.message : AddressFault → String
  | empty => "empty string"
  | tooLong => "uri too long"
  | longScheme => "scheme too long"
  | character => "invalid uri character"
  | authority => "invalid authority"
  | format => "invalid format"

/-- An address. A part that is missing is empty. -/
structure Address where
  scheme : String := ""
  authority : String := ""
  /-- The path and the query. -/
  target : String := ""
  deriving DecidableEq, Repr

namespace Address

/-! ### The scheme -/

/-- The schemes that may be written in either case. -/
def knownSchemes : List String := ["http", "https"]

def isSchemeChar (c : Char) : Bool := c.isAlphanum || c = '+' || c = '-' || c = '.' || c = '~'

def maxSchemeLength : Nat := 64

/-- The scheme of a text, and what follows it. -/
def splitScheme (cs : List Char) : Except AddressFault (Option String × List Char) :=
  let scheme := cs.takeWhile isSchemeChar
  let lower := String.ofList (scheme.map Char.toLower)
  match cs.drop scheme.length with
  | ':' :: '/' :: '/' :: rest =>
    if lower ∈ knownSchemes then .ok (some lower, rest)
    else if maxSchemeLength < scheme.length then .error .longScheme
    -- a text of no more than `://` is not split
    else .ok (if cs.length ≤ 3 then (none, cs) else (some (String.ofList scheme), rest))
  | _ => .ok (none, cs)

/-! ### The authority

An authority is read in one pass that only counts (`Seen.add`). A colon may stand in front of a
number or in a user name, brackets hold a number of the sixth version of the protocol, and what has
been counted is forgotten where a user name turns out to end. -/

def endsAuthority (c : Char) : Bool := c = '/' || c = '?' || c = '#'

/-- The characters of authorities, those with a meaning of their own included. -/
def isAuthorityChar (c : Char) : Bool :=
  c.isAlphanum || "!$&'()*+,-.:;=@[]_~".toList.contains c

/-- What has been seen of an authority since its last user name. -/
structure Seen where
  colons : Nat := 0
  opened : Bool := false
  closed : Bool := false
  percent : Bool := false

/-- How many colons an authority may have before it is known to have too many. -/
def maxColons : Nat := 8

/-- One more character of an authority. A user name takes back what was seen before it, and so does
a bracket at its end. -/
def Seen.add (s : Seen) (c : Char) : Except AddressFault Seen :=
  if c = ':' then
    if maxColons ≤ s.colons then .error .authority else .ok { s with colons := s.colons + 1 }
  else if c = '[' then
    if s.percent || s.opened then .error .authority else .ok { s with opened := true }
  else if c = ']' then
    if !s.opened || s.closed then .error .authority
    else .ok { s with closed := true, colons := 0, percent := false }
  else if c = '@' then .ok { s with colons := 0, percent := false }
  else if c = '%' then .ok { s with percent := true }
  else if isAuthorityChar c then .ok s
  else .error .character

def takeAuthority (cs : List Char) : Except AddressFault (List Char) := do
  if cs.isEmpty then throw .empty
  let authority := cs.takeWhile fun c => !endsAuthority c
  let seen ← authority.foldlM Seen.add {}
  -- of the colons that are left one may stand, in front of a number
  if seen.opened != seen.closed || 1 < seen.colons || seen.percent then throw .authority
  if authority.getLast? == some '@' then throw .authority
  return authority

/-! ### The target -/

/-- The characters of paths. -/
def isPathChar (c : Char) : Bool :=
  let n := c.toNat
  n = 0x21 || c = '"' || (0x24 ≤ n && n ≤ 0x3b) || n = 0x3d || (0x40 ≤ n && n ≠ 0x60)

def isQueryChar (c : Char) : Bool :=
  let n := c.toNat
  n = 0x21 || (0x24 ≤ n && n ≤ 0x3b) || n = 0x3d || 0x3f ≤ n

/-- A path with a query. A fragment is dropped. -/
def takeTarget (cs : List Char) : Except AddressFault String :=
  let cs := cs.takeWhile (· ≠ '#')
  let path := cs.takeWhile (· ≠ '?')
  let query := (cs.drop path.length).drop 1
  if path.all isPathChar && query.all isQueryChar then .ok (String.ofList cs) else .error .character

/-! ### The whole

Parts of an address that has been read are looked up in its authority again: who asks, which host is
meant, and which number stands behind it. None of these can fail; a part that is not there is empty
or missing. -/

def maxLength : Nat := 65534

def parse (text : String) : Except AddressFault Address := do
  let cs := text.toList
  if maxLength < utf8Length cs then throw .tooLong
  match cs with
  | [] => throw .empty
  | ['*'] => return { target := "*" }
  | '/' :: _ => return { target := ← takeTarget cs }
  | _ =>
    let (scheme, rest) ← splitScheme cs
    let authority ← takeAuthority rest
    let behind := rest.drop authority.length
    match scheme with
    | none =>
      if behind.isEmpty then return { authority := String.ofList authority }
      -- only an authority may stand without a target and a scheme
      else if cs.length = 1 then throw .character
      else throw .format
    | some scheme =>
      if authority.isEmpty then throw .format
      else return { scheme, authority := String.ofList authority, target := ← takeTarget behind }

/-- The authority without a user name. -/
def hostAndPort (a : Address) : List Char :=
  (a.authority.toList.reverse.takeWhile (· ≠ '@')).reverse

/-- The host; a number of the sixth version of the protocol keeps its brackets. -/
def host (a : Address) : String :=
  let cs := a.hostAndPort
  String.ofList <|
    if cs.head? = some '[' then cs.takeWhile (· ≠ ']') ++ [']'] else cs.takeWhile (· ≠ ':')

/-- The number behind the host, where one is given. What has more than 16 bits counts for nothing.
-/
def portNumber? (a : Address) : Option Nat :=
  let cs := a.authority.toList
  let last := (cs.reverse.takeWhile (· ≠ ':')).reverse
  let digits := if last.head? = some '+' then last.drop 1 else last
  let n := Numeral.ofDigits digits
  let isNumber := cs.contains ':' && !digits.isEmpty && digits.all Char.isDigit
  if isNumber && n < UInt16.size then some n else none

end Address

end VoiceLink
