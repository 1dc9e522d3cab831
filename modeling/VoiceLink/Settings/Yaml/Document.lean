import VoiceLink.Settings.Value
import VoiceLink.Settings.Yaml.Token
import VoiceLink.Text.Numeral
import VoiceLink.Text.Real

/-!
# YAML documents

The tokens of a text are put together into values. Plain scalars are numbers, truth values or
nothing where they look like it; all other scalars are texts.

A text that breaks off at a fault still gives out the tokens in front of it, and the fault is only
reported where a further token is wanted. What stands in front of it may be refused first.
-/

namespace VoiceLink

/-! ## Values -/

inductive YamlValue where
  | null
  | boolean (value : Bool)
  | integer (value : Int)
  /-- A number with a fraction, as it is written. -/
  | real (text : String)
  | text (value : String)
  | sequence (items : List YamlValue)
  /-- Only members whose keys are texts count. -/
  | mapping (members : List (String × YamlValue))
  /-- What has not the form its type asks for, or is used before it is complete. -/
  | invalid
  deriving Inhabited

namespace YamlValue

/-! ### Scalars

The type of a scalar is guessed only where no tag gives it. A scalar whose tag asks for something
else than it holds is not refused, but invalid, and turns into nothing. -/

/-- A whole number to a base. -/
def integerOf? (base : Nat) (cs : List Char) : Option Int :=
  let (negative, ds) := Real.splitSign cs
  let step (n : Option Nat) (c : Char) : Option Nat := do
    let d ← Numeral.hexValue? c
    if d < base then return base * (← n) + d else none
  if ds.isEmpty then none
  else do
    let n ← ds.foldl step (some 0)
    Word.ofSign? negative n

/-- The whole number a plain scalar is. A plus sign may stand before the one of a number. -/
def integer? (cs : List Char) : Option Int :=
  let based := match cs with
    | '0' :: 'x' :: ds => integerOf? 16 ds
    | '0' :: 'o' :: ds => integerOf? 8 ds
    | '+' :: ds => integerOf? 10 ds
    | _ => none
  based.or (integerOf? 10 cs)

/-- The words for numbers that have no digits. -/
def namedReals : List String :=
  [".inf", ".Inf", ".INF", "+.inf", "+.Inf", "+.INF", "-.inf", "-.Inf", "-.INF",
    ".nan", "NaN", ".NAN"]

def isReal (s : String) : Bool := s ∈ namedReals || (Real.ofChars? s.toList).isSome

/-- The value of a plain scalar. -/
def ofPlain (s : String) : YamlValue :=
  if s = "~" ∨ s = "null" then .null
  else if s = "true" then .boolean true
  else if s = "false" then .boolean false
  else
    match integer? s.toList with
    | some n => .integer n
    | none => if isReal s then .real s else .text s

/-- The value of a plain scalar with a tag of the basic types. -/
def ofTyped (type s : String) : YamlValue :=
  match type with
  | "bool" => if s = "true" then .boolean true else if s = "false" then .boolean false else .invalid
  | "int" =>
    match integerOf? 10 s.toList with
    | some n => .integer n
    | none => .invalid
  | "float" => if isReal s then .real s else .invalid
  | "null" => if s = "~" ∨ s = "null" then .null else .invalid
  | _ => .text s

def ofScalar (isPlain : Bool) (tag : Option YamlTag) (s : String) : YamlValue :=
  if !isPlain then .text s
  else
    match tag with
    | some t => if t.handle = "!!" then ofTyped t.suffix s else .text s
    | none => ofPlain s

/-! ### Mappings -/

/-- The members that `seen` and the keys and values behind it, in turn, make up. Invalid keys are
passed over, so that the value of one becomes the next key. Of a key that is given again the last
value counts, at the place where it is given. -/
def gather (seen : List (String × YamlValue)) : List YamlValue → List (String × YamlValue)
  | [] => seen
  | .invalid :: nodes => gather seen nodes
  | [_] => seen
  | .text key :: v :: nodes => gather (seen.filter (fun m => m.1 ≠ key) ++ [(key, v)]) nodes
  | _ :: _ :: nodes => gather seen nodes

/-- The mapping that keys and values, in turn, make up. -/
def ofNodes (nodes : List YamlValue) : YamlValue := .mapping (gather [] nodes)

end YamlValue

/-! ## Errors -/

/-- Why a YAML text holds no settings. -/
inductive YamlError where
  | fault (fault : YamlFault)
  | documents (count : Nat)
  | real (text : String)
  deriving DecidableEq, Repr

def YamlError.message : YamlError → String
  | fault f => f.message
  | documents n => "Got " ++ Numeral.text n ++ " YAML documents, expected 1"
  | real s => "Parsing " ++ s ++ " as floating point number failed"

/-! ## Reading tokens

The readers pass on what is left of the tokens. A value that has a name takes its number when it
begins and is entered under it when it is complete; a name used in between stands for nothing. -/

/-- What is left of the tokens of a text, what is wrong behind them, and the names that have been
given. A name given again stands for the later value. -/
structure YamlTokens where
  rest : List (YamlMark × YamlToken)
  fault : Option YamlFault
  /-- The number of the value a name stands for. -/
  names : List (String × Nat) := []
  /-- The values that are complete, by their numbers. -/
  values : List (Nat × YamlValue) := []

namespace YamlTokens

def peek (ts : YamlTokens) : Except YamlFault (YamlMark × YamlToken) :=
  match ts.rest with
  | t :: _ => .ok t
  | [] =>
    let mark : YamlMark := { line := 1, column := 0 }
    .error (ts.fault.getD { info := "unexpected end of stream", mark })

def next (ts : YamlTokens) : YamlTokens := { ts with rest := ts.rest.drop 1 }

/-- Give a name to a value that is about to begin; its number is one more than there are names. -/
def giveName (ts : YamlTokens) (name : String) : Nat × YamlTokens :=
  let number := ts.names.length + 1
  (number, { ts with names := (name, number) :: ts.names })

def complete (ts : YamlTokens) (number : Option Nat) (v : YamlValue) : YamlTokens :=
  match number with
  | some n => { ts with values := (n, v) :: ts.values }
  | none => ts

/-- The value a name stands for, if it has been given. -/
def named? (ts : YamlTokens) (name : String) : Option YamlValue :=
  (ts.names.lookup name).map fun n => (ts.values.lookup n).getD .invalid

/-- The name and the type in front of a value, in either order; of the name only the number of the
value counts. -/
def properties (ts : YamlTokens) :
    Except YamlFault ((Option Nat × Option YamlTag) × YamlTokens) := do
  match (← ts.peek).2 with
  | .anchor name =>
    let (n, ts) := ts.next.giveName name
    match (← ts.peek).2 with
    | .tag type => return ((some n, some type), ts.next)
    | _ => return ((some n, none), ts)
  | .tag type =>
    let ts := ts.next
    match (← ts.peek).2 with
    | .anchor name =>
      let (n, ts) := ts.next.giveName name
      return ((some n, some type), ts)
    | _ => return ((none, some type), ts)
  | _ => return ((none, none), ts)

/-! ## Collections

Collections without brackets are closed by tokens that their columns gave rise to, with one
exception: the items of a sequence that is a value of a mapping need not stand to the right of its
key, and then no token marks where they begin or end. -/

/-- Where a value stands: whether collections without brackets may begin, and whether items may
begin without being indented. -/
structure Place where
  block : Bool
  flat : Bool

abbrev Reader := Place → YamlTokens → Except YamlFault (YamlValue × YamlTokens)

/-- A value, or nothing in front of some tokens. -/
def valueUnless (value : Reader) (place : Place) (absent : YamlToken → Bool) (ts : YamlTokens) :
    Except YamlFault (YamlValue × YamlTokens) := do
  let (_, t) ← ts.peek
  if absent t then return (.null, ts) else value place ts

/-- The tokens that end a key or a value in a mapping without brackets. -/
def endsMember (t : YamlToken) : Bool := t = .key || t = .value || t = .blockEnd

/-- The keys and values of a mapping without brackets, in turn. -/
def blockMapping (value : Reader) :
    Nat → YamlTokens → Except YamlFault (List YamlValue × YamlTokens)
  | 0, ts => .ok ([], ts)
  | fuel + 1, ts => do
    let place : Place := { block := true, flat := true }
    let (mark, t) ← ts.peek
    match t with
    | .blockEnd => return ([], ts.next)
    | .key | .value =>
      let (k, ts) ← if t = .key then valueUnless value place endsMember ts.next
        else pure (YamlValue.null, ts)
      let (_, t) ← ts.peek
      let (v, ts) ← if t = .value then valueUnless value place endsMember ts.next
        else pure (YamlValue.null, ts)
      let (more, ts) ← blockMapping value fuel ts
      return (k :: v :: more, ts)
    | _ => YamlCursor.failAt mark "while parsing a block mapping, did not find expected key"

def blockSequence (value : Reader) :
    Nat → YamlTokens → Except YamlFault (List YamlValue × YamlTokens)
  | 0, ts => .ok ([], ts)
  | fuel + 1, ts => do
    let (mark, t) ← ts.peek
    match t with
    | .blockEnd => return ([], ts.next)
    | .blockEntry =>
      let absent (t : YamlToken) : Bool := t = .blockEntry || t = .blockEnd
      let (v, ts) ← valueUnless value { block := true, flat := false } absent ts.next
      let (more, ts) ← blockSequence value fuel ts
      return (v :: more, ts)
    | _ =>
      YamlCursor.failAt mark "while parsing a block collection, did not find expected '-' indicator"

/-- The items of a sequence that is not indented below its key. -/
def flatSequence (value : Reader) :
    Nat → YamlTokens → Except YamlFault (List YamlValue × YamlTokens)
  | 0, ts => .ok ([], ts)
  | fuel + 1, ts => do
    let (_, t) ← ts.peek
    if t = .blockEntry then
      let absent (t : YamlToken) : Bool :=
        t = .blockEntry || t = .key || t = .value || t = .blockEnd
      let (v, ts) ← valueUnless value { block := true, flat := false } absent ts.next
      let (more, ts) ← flatSequence value fuel ts
      return (v :: more, ts)
    else return ([], ts)

def inBrackets : Place := { block := false, flat := false }

/-- The keys and values of a mapping between brackets, in turn. -/
def flowMapping (value : Reader) :
    Nat → Bool → YamlTokens → Except YamlFault (List YamlValue × YamlTokens)
  | 0, _, ts => .ok ([], ts)
  | fuel + 1, first, ts => do
    let (mark, t) ← ts.peek
    if t = .flowMappingEnd then return ([], ts.next)
    else
      let ts ← if first then pure ts
        else if t = .flowEntry then pure ts.next
        else
          YamlCursor.failAt mark "while parsing a flow mapping, did not find expected ',' or '\x7d'"
      let ends (t : YamlToken) : Bool := t = .flowEntry || t = .flowMappingEnd
      let (_, t) ← ts.peek
      if t = .flowMappingEnd then return ([], ts.next)
      else
        let (k, hasValue, ts) ← if t = .key then do
            let (k, ts) ← valueUnless value inBrackets (fun t => ends t || t = .value) ts.next
            pure (k, true, ts)
          else if t = .value then pure (YamlValue.null, true, ts)
          else do
            let (k, ts) ← value inBrackets ts
            pure (k, false, ts)
        let (_, t) ← ts.peek
        let (v, ts) ← if hasValue && t = .value then valueUnless value inBrackets ends ts.next
          else pure (YamlValue.null, ts)
        let (more, ts) ← flowMapping value fuel false ts
        return (k :: v :: more, ts)

/-- The items of a sequence between brackets. A pair is a mapping of its own. -/
def flowSequence (value : Reader) :
    Nat → Bool → YamlTokens → Except YamlFault (List YamlValue × YamlTokens)
  | 0, _, ts => .ok ([], ts)
  | fuel + 1, first, ts => do
    let (mark, t) ← ts.peek
    if t = .flowSequenceEnd then return ([], ts.next)
    else
      let ts ← if first then pure ts
        else if t = .flowEntry then pure ts.next
        else YamlCursor.failAt mark "while parsing a flow sequence, expected ',' or ']'"
      let ends (t : YamlToken) : Bool := t = .flowEntry || t = .flowSequenceEnd
      let (_, t) ← ts.peek
      if t = .flowSequenceEnd then return ([], ts.next)
      else if t = .key then
        let ts := ts.next
        let (_, t) ← ts.peek
        -- without a key in front of it, the token is passed over as well
        let (k, ts) ← if ends t || t = .value then pure (YamlValue.null, ts.next)
          else value inBrackets ts
        let (_, t) ← ts.peek
        let (v, ts) ← if t = .value then valueUnless value inBrackets ends ts.next
          else pure (YamlValue.null, ts)
        let (more, ts) ← flowSequence value fuel false ts
        return (.ofNodes [k, v] :: more, ts)
      else
        let (v, ts) ← value inBrackets ts
        let (more, ts) ← flowSequence value fuel false ts
        return (v :: more, ts)

/-- A value. Every value takes a token, so the number of tokens bounds how deep values nest. -/
def value : Nat → Reader
  | 0, _, ts => .ok (.null, ts)
  | fuel + 1, place, ts => do
    let (mark, t) ← ts.peek
    match t with
    | .reference name =>
      match ts.named? name with
      | some v => return (v, ts.next)
      | none => YamlCursor.failAt mark "while parsing node, found unknown anchor"
    | _ =>
      let ((number, tag), ts) ← ts.properties
      let rounds := ts.rest.length + 1
      let finish (v : YamlValue) (ts : YamlTokens) : YamlValue × YamlTokens :=
        (v, ts.complete number v)
      let (mark, t) ← ts.peek
      match t with
      | .scalar isPlain s => return finish (.ofScalar isPlain tag s) ts.next
      | .flowSequenceStart =>
        let (xs, ts) ← flowSequence (value fuel) rounds true ts.next
        return finish (.sequence xs) ts
      | .flowMappingStart =>
        let (nodes, ts) ← flowMapping (value fuel) rounds true ts.next
        return finish (.ofNodes nodes) ts
      | t =>
        if t = .blockEntry ∧ place.flat then
          let (xs, ts) ← flatSequence (value fuel) rounds ts
          return finish (.sequence xs) ts
        else if t = .blockSequenceStart ∧ place.block then
          let (xs, ts) ← blockSequence (value fuel) rounds ts.next
          return finish (.sequence xs) ts
        else if t = .blockMappingStart ∧ place.block then
          let (nodes, ts) ← blockMapping (value fuel) rounds ts.next
          return finish (.ofNodes nodes) ts
        else if tag.isSome ∨ number.isSome then return finish (.ofScalar true tag "") ts
        else YamlCursor.failAt mark "while parsing a node, did not find expected node content"

/-! ## Documents -/

def skipAll (t : YamlToken) : Nat → YamlTokens → YamlTokens
  | 0, ts => ts
  | fuel + 1, ts =>
    match ts.rest with
    | (_, u) :: _ => if u = t then skipAll t fuel ts.next else ts
    | [] => ts

/-- The documents of a text. All but the first have to begin with a border. -/
def documents : Nat → Bool → YamlTokens → Except YamlFault (List YamlValue)
  | 0, _, _ => .ok []
  | fuel + 1, first, ts => do
    let rounds := ts.rest.length + 1
    let ts := if first then ts else skipAll .documentEnd rounds ts
    let (_, t) ← ts.peek
    if t = .streamEnd then return []
    else
      let explicit := !first || t = .directive || t = .documentStart
      let ts := if explicit then skipAll .directive rounds ts else ts
      let (mark, t) ← ts.peek
      if explicit ∧ t ≠ .documentStart then
        YamlCursor.failAt mark "did not find expected <document start>"
      else
        let ts := if explicit then ts.next else ts
        let absent (t : YamlToken) : Bool :=
          explicit && (t = .directive || t = .documentStart || t = .documentEnd || t = .streamEnd)
        let (v, ts) ← valueUnless (value rounds) { block := true, flat := false } absent
          { ts with names := [], values := [] }
        let (_, t) ← ts.peek
        let ts := if t = .documentEnd then ts.next else ts
        return v :: (← documents fuel false ts)

end YamlTokens

/-! ## Values of settings

A number with a fraction has been recognised before, but not read. -/

namespace YamlValue

mutual

def datum : YamlValue → Except YamlError Datum
  | .null => .ok .unit
  | .boolean b => .ok (.boolean b)
  | .integer n => .ok (.integer n)
  | .real s =>
    match Real.ofChars? s.toList with
    | some x => .ok (.real x)
    | none => .error (.real s)
  | .text s => .ok (.text s)
  | .sequence xs => do return .sequence (← data xs)
  | .mapping ms => do return .table (← entries ms)
  | .invalid => .ok .unit

def data : List YamlValue → Except YamlError (List Datum)
  | [] => .ok []
  | x :: xs => do
    let d ← datum x
    return d :: (← data xs)

def entries : List (String × YamlValue) → Except YamlError (List (String × Datum))
  | [] => .ok []
  | (key, x) :: ms => do
    let d ← datum x
    return (key, d) :: (← entries ms)

end

end YamlValue

namespace Yaml

/-- Read a YAML text, which may hold one document or none. -/
def parse (text : String) : Except YamlError Datum :=
  let cs := text.toList
  let (rest, fault) := YamlScanner.run (cs.length + 2) { cursor := .start cs }
  match YamlTokens.documents (rest.length + 1) true { rest, fault } with
  | .error f => .error (.fault f)
  | .ok [] => .ok (.table [])
  | .ok [v] => v.datum
  | .ok vs => .error (.documents vs.length)

end Yaml

end VoiceLink
