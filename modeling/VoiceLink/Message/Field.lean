import VoiceLink.Json.Fault

/-!
# Reading fields out of values

A message body is a record given by member names or, more rarely, by position. Each field is read on
its own; when several fields are at fault, the fault whose member stands first in the body is
reported, and fields that are missing altogether come last, in the order of declaration.

Reading each field on its own is what keeps the readers of messages short: a message is a list of
fields, each with its names and its kind, and `Located.both` sorts out which fault was met first.
-/

namespace VoiceLink

/-! ## Values

Readers of single values. A value of another kind than asked for is told apart from one that is out
of range, and both name what was found. -/

/-- A value read, or the reason why it could not be. -/
abbrev Shaped (α : Type) := Except ShapeFault α

namespace Json

def asString : Json → Shaped String
  | .string s => .ok s
  | v => .error (.invalidType v.found "a string")

/-- A whole number below `bound`; `expected` names the width. -/
def asBelow (bound : Nat) (expected : String) : Json → Shaped Nat
  | .number (.int n) =>
    if 0 ≤ n ∧ n < bound then .ok n.toNat else .error (.invalidValue (.int n) expected)
  | v => .error (.invalidType v.found expected)

def asUInt32 (v : Json) : Shaped UInt32 := (v.asBelow UInt32.size "u32").map UInt32.ofNat

def asUInt16 (v : Json) : Shaped UInt16 := (v.asBelow UInt16.size "u16").map UInt16.ofNat

/-- A value that may be `null` instead. -/
def asNullable {α : Type} (read : Json → Shaped α) : Json → Shaped (Option α)
  | .null => .ok none
  | v => (read v).map some

/-- One of a set of names: the name as a string, or as the only key of an object with nothing in it.
-/
def asChoice {α : Type} (named : String → Shaped α) : Json → Shaped α
  | .string s => named s
  | .object [(key, content)] => do
    let choice ← named key
    match content with
    | .null => return choice
    | .object [] => return choice
    | other => .error (.invalidType other.found "unit")
  | .object _ => .error (.invalidValue .map "map with a single key")
  | v => .error (.invalidType v.found "string or map")

end Json

/-! ## Fields with places -/

/-- The value of a name in a table, or the fault that lists the names there are. -/
def choose {α : Type} (table : List (String × α)) (name : String) : Shaped α :=
  match table.lookup name with
  | some x => .ok x
  | none => .error (.unknownVariant name (table.map Prod.fst))

/-- What a field gave. A fault carries the place of its member in the body. -/
abbrev Located (α : Type) := Except (Nat × ShapeFault) α

/-- Two fields together; of two faults the one met first is kept. -/
def Located.both {α β : Type} : Located α → Located β → Located (α × β)
  | .ok x, .ok y => .ok (x, y)
  | .error e, .ok _ => .error e
  | .ok _, .error f => .error f
  | .error e, .error f => .error (if f.1 < e.1 then f else e)

def Located.shaped {α : Type} (r : Located α) : Shaped α := r.mapError Prod.snd

/-! ## Bodies

The same record can be written as an object or as a sequence. Members are found by name, wherever
they stand; elements by position. A field that is absent is not the same in both: a sequence that is
too short has a fault of its own. -/

/-- The fields of a record, by name or by position. -/
inductive Body where
  | members (ms : List (String × Json))
  | elements (xs : List Json)

/-- How many elements a sequence should have had, for a message. -/
def elementCount (n : Nat) : String :=
  if n = 1 then "1 element" else Numeral.text n ++ " elements"

namespace Body

/-- The body that a value is, if it is a record. -/
def ofJson (expected : String) : Json → Shaped Body
  | .object ms => .ok (.members ms)
  | .array xs => .ok (.elements xs)
  | v => .error (.invalidType v.found expected)

/-- The value of the one member with one of the given names; `place` counts the members before. A
second one is a fault, reported under the field's first name. -/
def memberNamed {α : Type} (names : List String) (read : Json → Shaped α) :
    Nat → Option α → List (String × Json) → Located (Option α)
  | _, seen, [] => .ok seen
  | place, seen, (key, v) :: rest =>
    if names.contains key then
      match seen with
      | some _ => .error (place, .duplicateField (names.headD key))
      | none =>
        match read v with
        | .ok x => memberNamed names read (place + 1) (some x) rest
        | .error f => .error (place, f)
    else memberNamed names read (place + 1) seen rest

def elementAt {α : Type} (read : Json → Shaped α) (i : Nat) (xs : List Json) :
    Located (Option α) :=
  match xs[i]? with
  | none => .ok none
  | some v => match read v with
    | .ok x => .ok (some x)
    | .error f => .error (i, f)

/-- A field that may be absent in either form. -/
def optional {α : Type} (i : Nat) (names : List String) (read : Json → Shaped α) :
    Body → Located (Option α)
  | .members ms => memberNamed names read 0 none ms
  | .elements xs => elementAt read i xs

/-- A field that must be there; `record` describes the whole for a sequence that is too short. -/
def required {α : Type} (record : String) (i : Nat) (names : List String)
    (read : Json → Shaped α) (body : Body) : Located α :=
  match body.optional i names read with
  | .error e => .error e
  | .ok (some x) => .ok x
  | .ok none =>
    match body with
    -- behind all members that are there, in the order of declaration
    | .members ms => .error (ms.length + i, .missingField (names.headD ""))
    | .elements _ => .error (i, .invalidLength i record)

/-- A field that may be `null` and, among named members, absent. -/
def nullable {α : Type} (record : String) (i : Nat) (names : List String)
    (read : Json → Shaped α) (body : Body) : Located (Option α) :=
  match body with
  | .members _ => (body.optional i names (Json.asNullable read)).map Option.join
  | .elements _ => body.required record i names (Json.asNullable read)

/-- A field that may be `null` or absent in either form. -/
def defaulted {α : Type} (i : Nat) (names : List String) (read : Json → Shaped α) (body : Body) :
    Located (Option α) :=
  (body.optional i names (Json.asNullable read)).map Option.join

/-- A sequence may not be longer than the record. -/
def exhausted (count : Nat) : Body → Located Unit
  | .members _ => .ok ()
  | .elements xs =>
    if xs.length ≤ count then .ok ()
    else .error (count, .invalidLength xs.length (elementCount count ++ " in sequence"))

end Body

end VoiceLink
