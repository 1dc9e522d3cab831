import VoiceLink.Json.Printer
import VoiceLink.Message.Audio
import VoiceLink.Message.Envelope

/-!
# Messages of the client

Greeting, listen requests and abort. On the wire `type` comes first and the other fields follow in
the order of declaration; an absent optional field is left out.

Messages are written by `toJson` and read by `parse`. The second is there for those who receive what
this client sends; it takes fields in any order, and it is stricter about which may be missing than
the reader of the server's messages is.
-/

namespace VoiceLink

/-! ## Messages -/

/-- The version of the protocol the client announces. -/
def protocolVersion : UInt32 := 1

/-- A control message sent by the client. -/
inductive ClientMessage where
  | hello (deviceId transport : String) (version : UInt32) (audioParams : AudioParams)
  | listen (deviceId : String) (state : ListenState) (mode : Option ListenMode)
      (text : Option String)
  | abort (deviceId : String) (reason : Option String)
  deriving DecidableEq, Repr

namespace ClientMessage

/-- The greeting of this client: over WebSocket, in the current version. -/
def greeting (deviceId : String) (params : AudioParams) : ClientMessage :=
  .hello deviceId "websocket" protocolVersion params

/-! ## Writing -/

/-- A member that is left out where there is no value. -/
def optionalMember (name : String) : Option String → List (String × Json)
  | none => []
  | some s => [(name, .string s)]

def toJson : ClientMessage → Json
  | .hello deviceId transport version params =>
    .object [("type", .string "hello"), ("device_id", .string deviceId),
      ("transport", .string transport), ("version", .nat version.toNat),
      ("audio_params", params.toJson)]
  | .listen deviceId state mode text =>
    .object ([("type", .string "listen"), ("device_id", .string deviceId),
      ("state", .string state.word)] ++ optionalMember "mode" (mode.map ListenMode.word)
      ++ optionalMember "text" text)
  | .abort deviceId reason =>
    .object ([("type", .string "abort"), ("device_id", .string deviceId)]
      ++ optionalMember "reason" reason)

def text (m : ClientMessage) : String := m.toJson.text

/-! ## Reading -/

inductive Kind where
  | hello
  | listen
  | abort
  deriving DecidableEq, Repr

def kinds : List (String × Kind) := [("hello", .hello), ("listen", .listen), ("abort", .abort)]

def helloOf (b : Body) : Located ClientMessage :=
  let record := "struct variant ClientMessage::Hello with 4 elements"
  let deviceId := b.required record 0 ["device_id"] Json.asString
  let transport := b.required record 1 ["transport"] Json.asString
  let version := b.required record 2 ["version"] Json.asUInt32
  let params := b.required record 3 ["audio_params"] AudioParams.ofJson
  (deviceId.both (transport.both (version.both (params.both (b.exhausted 4))))).map
    fun (deviceId, transport, version, params, _) => .hello deviceId transport version params

def listenOf (b : Body) : Located ClientMessage :=
  let record := "struct variant ClientMessage::Listen with 4 elements"
  let deviceId := b.required record 0 ["device_id"] Json.asString
  let state := b.required record 1 ["state"] ListenState.ofJson
  let mode := b.nullable record 2 ["mode"] ListenMode.ofJson
  let text := b.nullable record 3 ["text"] Json.asString
  (deviceId.both (state.both (mode.both (text.both (b.exhausted 4))))).map
    fun (deviceId, state, mode, text, _) => .listen deviceId state mode text

def abortOf (b : Body) : Located ClientMessage :=
  let record := "struct variant ClientMessage::Abort with 2 elements"
  let deviceId := b.required record 0 ["device_id"] Json.asString
  let reason := b.nullable record 1 ["reason"] Json.asString
  (deviceId.both (reason.both (b.exhausted 2))).map
    fun (deviceId, reason, _) => .abort deviceId reason

def ofEnvelope (e : Envelope Kind) : Shaped ClientMessage :=
  match e.kind with
  | .hello => (helloOf e.body).shaped
  | .listen => (listenOf e.body).shaped
  | .abort => (abortOf e.body).shaped

/-- Read a text as a client message. -/
def parse (text : String) : Except JsonError ClientMessage :=
  Envelope.parse "internally tagged enum ClientMessage" (choose kinds) ofEnvelope text

end ClientMessage

end VoiceLink
