import VoiceLink.Json.Value
import VoiceLink.Text.Place
import VoiceLink.Text.Quoted

/-!
# What can be wrong with a JSON text

Two families of causes. A text may break the grammar of JSON, or it may be JSON whose shape is not
the one asked for. Both have one wording, and the first carries a place in the text.

A shape fault names what was found and what was expected. It can be met while the text is read, and
then it has a place as well, or in a value that was taken out of the text before, and then it has
none.
-/

namespace VoiceLink

/-! ## Shape faults -/

/-- What was found where something else was asked for. -/
inductive Found where
  | null
  | bool (value : Bool)
  | int (value : Int)
  | real (value : Float)
  | string (value : String)
  | sequence
  | map

def Found.text : Found → String
  | .null => "null"
  | .bool b => "boolean `" ++ (if b then "true" else "false") ++ "`"
  | .int n => "integer `" ++ Numeral.signedText n ++ "`"
  | .real x => "floating point `" ++ Shortest.text Shortest.dataLayout x ++ "`"
  | .string s => "string " ++ Quoted.text s
  | .sequence => "sequence"
  | .map => "map"

def Json.found : Json → Found
  | .null => .null
  | .bool b => .bool b
  | .number (.int n) => .int n
  | .number (.real x) => .real x
  | .string s => .string s
  | .array _ => .sequence
  | .object _ => .map

/-- How a well-formed value can fail to be what is asked for. -/
inductive ShapeFault where
  /-- The value is of another kind. -/
  | invalidType (found : Found) (expected : String)
  /-- The kind is right, the value is not. -/
  | invalidValue (found : Found) (expected : String)
  /-- A sequence has too few or too many elements. -/
  | invalidLength (length : Nat) (expected : String)
  | unknownVariant (name : String) (known : List String)
  | missingField (name : String)
  | duplicateField (name : String)

/-- A list of names for a message: one, two joined by `or`, or `one of` a list. -/
def nameChoice : List String → String
  | [] => "there are no variants"
  | [a] => "expected `" ++ a ++ "`"
  | [a, b] => "expected `" ++ a ++ "` or `" ++ b ++ "`"
  | names => "expected one of " ++ ", ".intercalate (names.map fun n => "`" ++ n ++ "`")

def ShapeFault.message : ShapeFault → String
  | .invalidType found expected => "invalid type: " ++ found.text ++ ", expected " ++ expected
  | .invalidValue found expected => "invalid value: " ++ found.text ++ ", expected " ++ expected
  | .invalidLength n expected => "invalid length " ++ Numeral.text n ++ ", expected " ++ expected
  | .unknownVariant name known => "unknown variant `" ++ name ++ "`, " ++ nameChoice known
  | .missingField name => "missing field `" ++ name ++ "`"
  | .duplicateField name => "duplicate field `" ++ name ++ "`"

/-! ## Causes -/

/-- Why a text was refused. -/
inductive JsonCause where
  | eofInArray
  | eofInObject
  | eofInString
  | eofInValue
  | expectedColon
  | expectedArrayEnd
  | expectedObjectEnd
  | expectedIdent
  | expectedValue
  | invalidEscape
  | invalidNumber
  | numberOutOfRange
  | controlCharacter
  | keyNotString
  | loneSurrogate
  | trailingComma
  | trailingCharacters
  | unfinishedSurrogate
  | tooDeep
  | shape (fault : ShapeFault)

namespace JsonCause

def message : JsonCause → String
  | eofInArray => "EOF while parsing a list"
  | eofInObject => "EOF while parsing an object"
  | eofInString => "EOF while parsing a string"
  | eofInValue => "EOF while parsing a value"
  | expectedColon => "expected `:`"
  | expectedArrayEnd => "expected `,` or `]`"
  | expectedObjectEnd => "expected `,` or `\x7d`"
  | expectedIdent => "expected ident"
  | expectedValue => "expected value"
  | invalidEscape => "invalid escape"
  | invalidNumber => "invalid number"
  | numberOutOfRange => "number out of range"
  | controlCharacter => "control character (\\u0000-\\u001F) found while parsing a string"
  | keyNotString => "key must be a string"
  | loneSurrogate => "lone leading surrogate in hex escape"
  | trailingComma => "trailing comma"
  | trailingCharacters => "trailing characters"
  | unfinishedSurrogate => "unexpected end of hex escape"
  | tooDeep => "recursion limit exceeded"
  | shape fault => fault.message

end JsonCause

/-! ## Classes

A text that ended too early might have gone on well. The other two classes are final: more text
would not have helped. -/

/-- The three classes of causes. -/
inductive JsonCategory where
  /-- The text ended too early. -/
  | eof
  /-- The text is not JSON. -/
  | grammar
  /-- The text is JSON of another shape. -/
  | data
  deriving DecidableEq, Repr

def JsonCause.category : JsonCause → JsonCategory
  | eofInArray | eofInObject | eofInString | eofInValue => .eof
  | shape _ => .data
  | _ => .grammar

/-! ## Errors and their places

While a text is read, an error is a stop: the cause, and what is left of the text. The place is made
of that when the reading is over. -/

/-- A refused text: the cause and where it was noticed. -/
structure JsonError where
  cause : JsonCause
  place : TextPlace

namespace JsonError

/-- The wording of an error, with its place if it has one. -/
def message (e : JsonError) : String :=
  if e.place.line = 0 then e.cause.message
  else e.cause.message ++ " at line " ++ Numeral.text e.place.line ++ " column "
    ++ Numeral.text e.place.column

/-- A fault in a value that was already taken out of the text has no place. -/
def ofShape (fault : ShapeFault) : JsonError := { cause := .shape fault, place := .nowhere }

end JsonError

/-- Where a reader gave up: the cause, what of the text it had not consumed, and how many bytes of
that lie before the place to report. -/
structure Stop where
  cause : JsonCause
  rest : List Char
  ahead : Nat

/-- The error of a stop in a text: `ahead` bytes past what was consumed, but not past the end. -/
def Stop.toError (s : Stop) (text : List Char) : JsonError :=
  let consumed := utf8Length text - utf8Length s.rest
  { cause := s.cause, place := .ofOffset text (consumed + s.ahead) }

end VoiceLink
