import VoiceLink.Json.Reader
import VoiceLink.Message.Field

/-!
# Tagged messages

A message is an object whose member `type` names its kind, or a sequence whose first element does.
The envelope reader takes the kind and the other fields out of a text. Faults it finds carry their
place; the fields themselves are looked at later, when the place is no longer known.

The tag may stand anywhere in an object, and the other members are kept in their order, so that the
fault that is reported does not depend on where the tag stands.
-/

namespace VoiceLink

open JsonReader

/-- A kind of message together with its remaining fields. -/
structure Envelope (κ : Type) where
  kind : κ
  body : Body

namespace Envelope

variable {κ : Type}

def tagName : String := "type"

/-! ## The kind -/

/-- What follows the blanks, and the closing bracket if it stands there. -/
def pastClose (close : Char) (cs : List Char) : List Char :=
  match skipBlanks cs with
  | [] => []
  | c :: rest => if c = close then rest else c :: rest

/-- The kind, read from a value that must be a string. -/
def readKind (kindOf : String → Shaped κ) : JsonReader κ := fun cs =>
  match skipBlanks cs with
  | [] => stop .eofInValue []
  | c :: rest => do
    match scalar? c rest with
    | none =>
      let found : Found := if c = '[' then .sequence else .map
      stop (.shape (.invalidType found "variant identifier")) (c :: rest)
    | some result =>
      let (v, rest) ← result
      match v with
      | .string s =>
        match kindOf s with
        | .ok k => return (k, rest)
        | .error f => stop (.shape f) rest
      | v => stop (.shape (.invalidType v.found "variant identifier")) rest

/-! ## Objects and sequences -/

/-- The members of a message, from behind the opening brace. -/
def members (kindOf : String → Shaped κ) (value : JsonReader Json) :
    Nat → Bool → Option κ → List Char → Except Stop ((κ × List (String × Json)) × List Char)
  | 0, _, _, cs => stop .eofInObject cs
  | fuel + 1, first, seen, cs => do
    match ← nextKey first cs with
    | none =>
      let rest := pastClose '\x7d' cs
      match seen with
      | some k => return ((k, []), rest)
      | none => stop (.shape (.missingField tagName)) rest
    | some cs =>
      let (key, cs) ← string cs
      if key = tagName then
        -- a second tag is refused before its value is looked at
        if seen.isSome then stop (.shape (.duplicateField tagName)) (pastClose '\x7d' cs)
        else
          let cs ← colon cs
          let (k, cs) ← readKind kindOf cs
          members kindOf value fuel false (some k) cs
      else
        let cs ← colon cs
        let (x, cs) ← value cs
        let ((k, ms), cs) ← members kindOf value fuel false seen cs
        return ((k, (key, x) :: ms), cs)

def elements (kindOf : String → Shaped κ) (value : JsonReader Json) (cs : List Char) :
    Except Stop ((κ × List Json) × List Char) := do
  match ← nextElement true cs with
  | none => stop (.shape (.missingField tagName)) (pastClose ']' cs)
  | some cs =>
    let (k, cs) ← readKind kindOf cs
    let (xs, cs) ← JsonReader.elements value (cs.length + 1) false cs
    return ((k, xs), cs)

/-- A message; `expected` describes it where a text holds something else. -/
def read (expected : String) (kindOf : String → Shaped κ) : JsonReader (Envelope κ) := fun cs =>
  -- the message itself is one of the containers
  let inner := JsonReader.value (maxDepth - 1)
  match skipBlanks cs with
  | [] => stop .eofInValue []
  | c :: rest => do
    match scalar? c rest with
    | some result =>
      let (v, rest) ← result
      stop (.shape (.invalidType v.found expected)) rest
    | none =>
      if c = '[' then
        let ((k, xs), rest) ← elements kindOf inner rest
        return ({ kind := k, body := .elements xs }, rest)
      else
        let ((k, ms), rest) ← members kindOf inner (rest.length + 1) true none rest
        return ({ kind := k, body := .members ms }, rest)

/-! ## Whole texts -/

/-- Read a whole text as one message: the envelope first, then its fields, then the end of the text.
-/
def parse {α : Type} (expected : String) (kindOf : String → Shaped κ)
    (decode : Envelope κ → Shaped α) (text : String) : Except JsonError α :=
  let cs := text.toList
  match read expected kindOf cs with
  | .error s => .error (s.toError cs)
  | .ok (envelope, rest) =>
    match decode envelope with
    | .error f => .error (.ofShape f)
    | .ok message =>
      match done rest with
      | .error s => .error (s.toError cs)
      | .ok () => .ok message

end Envelope

end VoiceLink
