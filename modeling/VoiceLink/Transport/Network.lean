import VoiceLink.Transport.Address

/-!
# The network

Hosts are given by number or by name. What comes of dialling a host is up to the network; a machine
that is on none can still tell the ways in which it fails.

That is what the readings of hosts below are for. A host that is a number needs no looking up and
cannot be reached, one that could be somebody's name cannot be looked up, and one that cannot is
known to be nobody's.
-/

namespace VoiceLink

/-- Why the network gives no connection. -/
inductive NetworkError where
  | unreachable
  /-- This machine has no address from which the other could be reached. -/
  | noLocalAddress
  /-- The name of the host cannot be looked up now. -/
  | lookupFailed
  /-- The host has a name that none can have. -/
  | unknownName
  deriving DecidableEq, Repr

def NetworkError.message : NetworkError → String
  | unreachable => "Network is unreachable (os error 101)"
  | noLocalAddress => "Cannot assign requested address (os error 99)"
  | lookupFailed => "failed to lookup address information: Temporary failure in name resolution"
  | unknownName => "failed to lookup address information: Name or service not known"

/-! ## Hosts

A number of 32 bits is written in one to four parts, each to one of three bases, and the last part
fills what is left; a number of 128 bits is written in groups with at most one gap between them. -/

namespace Host

/-- A number to one of the bases in which parts of addresses are written. -/
def part? (cs : List Char) : Option Nat :=
  let (base, ds) := match cs with
    | '0' :: 'x' :: ds | '0' :: 'X' :: ds => (16, ds)
    | '0' :: d :: ds => (8, d :: ds)
    | ds => (10, ds)
  let step (n : Option Nat) (c : Char) : Option Nat := do
    let d ← Numeral.hexValue? c
    if d < base then return base * (← n) + d else none
  if ds.isEmpty then none else ds.foldl step (some 0)

/-- Whether a host is a number of 32 bits: one to four parts, of which all but the last are one
byte. -/
def isNumber (host : String) : Bool :=
  let parts := (host.splitOn ".").map fun s => part? s.toList
  match parts.reverse with
  | [] => false
  | last :: front =>
    -- the last part takes all the bytes that the others have left
    front.length < 4 && front.all (fun p => p.any (· < 256))
      && last.any (· < Nat.pow 256 (4 - front.length))

def isGroup (s : String) : Bool :=
  !s.isEmpty && s.length ≤ 4 && s.toList.all fun c => (Numeral.hexValue? c).isSome

/-- Whether a part of a number of 128 bits is its last 32 bits as four plain decimals. -/
def isQuad (s : String) : Bool :=
  let parts := s.splitOn "."
  let isByte (p : String) : Bool :=
    !p.isEmpty && p.toList.all Char.isDigit && Numeral.text (Numeral.ofDigits p.toList) = p
      && Numeral.ofDigits p.toList < 256
  parts.length = 4 && parts.all isByte

/-- How many groups a run of groups has, if it is one. Only the end of a number may be a quad. -/
def groups? (atEnd : Bool) (run : String) : Option Nat :=
  let parts := run.splitOn ":"
  if run.isEmpty then some 0
  else if parts.all isGroup then some parts.length
  else
    let endsInQuad := atEnd && parts.dropLast.all isGroup && isQuad (parts.getLastD "")
    if endsInQuad then some (parts.length + 1) else none

/-- Whether a host is a number of 128 bits in brackets: eight groups, or fewer around a gap. -/
def isLongNumber (host : String) : Bool :=
  if !(host.startsWith "[" && host.endsWith "]") then false
  else
    let inner := String.ofList (host.toList.drop 1).dropLast
    match inner.splitOn "::" with
    | [all] => groups? true all = some 8
    | [front, back] =>
      match groups? false front, groups? true back with
      | some m, some n => m + n < 8
      | _, _ => false
    | _ => false

/-- Whether a host could be somebody's name. -/
def isName (host : String) : Bool :=
  !host.isEmpty && !host.startsWith "-"
    && host.toList.all fun c => c.isAlphanum || c = '-' || c = '_' || c = '.'

def isLocal (host : String) : Bool := host.toList.map Char.toLower = "localhost".toList

/-- How a host is out of reach for a machine without a network. -/
def whyOffline (host : String) : NetworkError :=
  if isNumber host || isLocal host then .unreachable
  else if isLongNumber host then .noLocalAddress
  else if isName host then .lookupFailed
  else .unknownName

end Host

end VoiceLink
