import VoiceLink.Message.Audio
import VoiceLink.Message.Envelope

/-!
# Messages of the server

What the server may send as text. Tags this library does not know are accepted and carry nothing;
fields it does not know are ignored.

A client must not break when a server says more than it used to. So nearly every field may be absent
or `null`, an unknown tag is a message of its own and an unknown state of speech is `other`. What is
known is checked: a field of the wrong kind is an error wherever it stands.
-/

namespace VoiceLink

/-- A control message received from the server. -/
inductive ControlMessage where
  | hello (sessionId transport : Option String) (audioParams : Option AudioParams)
  | listen (state : ListenState) (mode : Option ListenMode) (text : Option String)
  | tts (state : TtsState) (text : Option String)
  | stt (text : String)
  | llm (text emotion : Option String)
  | abort (reason : Option String)
  | unknown
  deriving DecidableEq, Repr

namespace ControlMessage

/-! ## Kinds

The tag of a message names its kind, and only the fields of that kind are looked at. -/

inductive Kind where
  | hello
  | listen
  | tts
  | stt
  | llm
  | abort
  | unknown
  deriving DecidableEq, Repr

def Kind.word : Kind → String
  | .hello => "hello"
  | .listen => "listen"
  | .tts => "tts"
  | .stt => "stt"
  | .llm => "llm"
  | .abort => "abort"
  | .unknown => "unknown"

def kind : ControlMessage → Kind
  | .hello .. => .hello
  | .listen .. => .listen
  | .tts .. => .tts
  | .stt .. => .stt
  | .llm .. => .llm
  | .abort .. => .abort
  | .unknown => .unknown

/-- The known kinds by their tags. -/
def kinds : List (String × Kind) :=
  [Kind.hello, .listen, .tts, .stt, .llm, .abort].map fun k => (k.word, k)

def kindOf (tag : String) : Kind := (kinds.lookup tag).getD .unknown

/-! ## Fields -/

/-- The fields of a greeting; the audio parameters go under either of two names. -/
def helloOf (b : Body) : Located ControlMessage :=
  let sessionId := b.defaulted 0 ["session_id"] Json.asString
  let transport := b.defaulted 1 ["transport"] Json.asString
  let params := b.defaulted 2 ["audio_params", "audio_format"] AudioParams.ofJson
  (sessionId.both (transport.both (params.both (b.exhausted 3)))).map
    fun (sessionId, transport, params, _) => .hello sessionId transport params

def listenOf (b : Body) : Located ControlMessage :=
  let record := "struct variant ControlMessage::Listen with 3 elements"
  let state := b.required record 0 ["state"] ListenState.ofJson
  let mode := b.defaulted 1 ["mode"] ListenMode.ofJson
  let text := b.defaulted 2 ["text"] Json.asString
  (state.both (mode.both (text.both (b.exhausted 3)))).map
    fun (state, mode, text, _) => .listen state mode text

def ttsOf (b : Body) : Located ControlMessage :=
  let record := "struct variant ControlMessage::Tts with 2 elements"
  let state := b.required record 0 ["state"] TtsState.ofJson
  let text := b.defaulted 1 ["text"] Json.asString
  (state.both (text.both (b.exhausted 2))).map fun (state, text, _) => .tts state text

/-- The field of a recognition result; an absent text is empty. -/
def sttOf (b : Body) : Located ControlMessage :=
  let text := b.optional 0 ["text"] Json.asString
  (text.both (b.exhausted 1)).map fun (text, _) => .stt (text.getD "")

def llmOf (b : Body) : Located ControlMessage :=
  let text := b.defaulted 0 ["text"] Json.asString
  let emotion := b.defaulted 1 ["emotion"] Json.asString
  (text.both (emotion.both (b.exhausted 2))).map fun (text, emotion, _) => .llm text emotion

def abortOf (b : Body) : Located ControlMessage :=
  let reason := b.defaulted 0 ["reason"] Json.asString
  (reason.both (b.exhausted 1)).map fun (reason, _) => .abort reason

/-- An unknown message may have any members but no elements. -/
def unknownOf (b : Body) : Located ControlMessage := (b.exhausted 0).map fun _ => .unknown

def ofEnvelope (e : Envelope Kind) : Shaped ControlMessage :=
  let fields := match e.kind with
    | .hello => helloOf e.body
    | .listen => listenOf e.body
    | .tts => ttsOf e.body
    | .stt => sttOf e.body
    | .llm => llmOf e.body
    | .abort => abortOf e.body
    | .unknown => unknownOf e.body
  fields.shaped

/-! ## Texts -/

/-- Read a text as a server message. -/
def parse (text : String) : Except JsonError ControlMessage :=
  Envelope.parse "internally tagged enum ControlMessage" (fun tag => .ok (kindOf tag)) ofEnvelope
    text

/-- The wording of a refusal. -/
def refusal (e : JsonError) : String := "malformed control message: " ++ e.message

end ControlMessage

end VoiceLink
