import VoiceLink.Audio.Packet
import VoiceLink.Message.Audio
import VoiceLink.Transport.ConnectError
import VoiceLink.Turn.Container
import VoiceLink.Turn.Latency

/-!
# States, errors and the report of a session

The words that the parts of a session share: what goes over the connection, in which states a
session can be, why it ends, and what its owner is told while it lasts (`SessionEvent`) and in the
end (`SessionReport`).

The receive loop is the only one to write a report, and it hands it over whole. Log entries are
those that a caller could act on; progress that is only remarked on is left out.
-/

namespace VoiceLink

/-! ## Life -/

/-- The life of a session. -/
inductive SessionState where
  | connecting
  | helloSent
  | active
  | closing
  | closed
  deriving DecidableEq, Repr

def SessionState.name : SessionState → String
  | connecting => "Connecting"
  | helloSent => "HelloSent"
  | active => "Active"
  | closing => "Closing"
  | closed => "Closed"

/-- The order in which a session goes through its states. -/
def SessionState.rank : SessionState → Nat
  | connecting => 0
  | helloSent => 1
  | active => 2
  | closing => 3
  | closed => 4

/-- Why a receive loop ended. -/
inductive CloseReason where
  /-- The remote side ended the connection. -/
  | transportClosed
  /-- The caller cancelled the session. -/
  | cancelled
  /-- No frame came in for too long. -/
  | idleTimeout
  /-- Reading from the transport failed. -/
  | transportFailed (reason : String)
  deriving DecidableEq, Repr

/-! ## Frames -/

/-- A frame from the remote side. -/
inductive InboundFrame where
  | text (content : String)
  | binary (data : Packet)
  | closed
  | failed (reason : String)
  deriving DecidableEq, Repr

/-- Why a frame ends the receive loop, if it does. -/
def InboundFrame.closeReason? : InboundFrame → Option CloseReason
  | text _ => none
  | binary _ => none
  | closed => some .transportClosed
  | failed reason => some (.transportFailed reason)

/-- A frame to the remote side. -/
inductive OutboundFrame where
  | text (content : String)
  | binary (data : Packet)
  deriving DecidableEq, Repr

/-! ## Errors -/

/-- Why a frame was not sent. -/
inductive SendError where
  | closed
  | transport (reason : String)
  deriving DecidableEq, Repr

def SendError.message : SendError → String
  | closed => "transport is closed"
  | transport reason => "transport send failed: " ++ reason

/-- What ends a session or keeps it from starting. -/
inductive SessionError where
  | connect (error : ConnectError)
  | send (error : SendError)
  | transport (reason : String)
  | decoder (error : AudioError)
  | closed
  deriving DecidableEq, Repr

def SessionError.message : SessionError → String
  | connect e => "failed to connect: " ++ e.message
  | send e => "control message could not be delivered: " ++ e.message
  | transport reason => "transport failed: " ++ reason
  | decoder e => "failed to create audio decoder: " ++ e.message
  | closed => "session already closed"

/-! ## Configuration -/

/-- What one session is configured with. -/
structure SessionConfig where
  /-- The identifier sent with every control message. -/
  deviceId : String := "test-device-001"
  /-- The format of the audio that is sent, announced in the greeting. -/
  audioParams : AudioParams := .opus 16000 1 60
  /-- The format of the server's audio. -/
  outputSampleRate : UInt32 := 24000
  outputChannels : UInt16 := 1
  /-- Where containers go. -/
  outputDir : String := "recordings"
  /-- Whether compressed frames are kept beside each container. -/
  dumpRawOpus : Bool := false
  /-- Milliseconds without a frame after which the session ends. -/
  idleTimeout : Nat := 30000
  listenMode : ListenMode := .manual
  deriving DecidableEq, Repr

/-! ## Events, log and report -/

/-- What the receive loop tells the owner of a session. -/
inductive SessionEvent where
  | flushed (container : ContainerMetadata)
  | flushFailed (reason : String)
  | turnAborted
  deriving DecidableEq, Repr

inductive LogLevel where
  | info
  | warn
  | error
  deriving DecidableEq, Repr

def LogLevel.name : LogLevel → String
  | info => "INFO"
  | warn => "WARN"
  | error => "ERROR"

structure LogEntry where
  level : LogLevel
  text : String
  deriving DecidableEq, Repr

/-- The account of a session. -/
structure SessionReport where
  deviceId : String
  /-- The identifier the server gave in its greeting. -/
  serverSessionId : Option String
  /-- Every state the session went through, in order. -/
  states : List SessionState
  closeReason : Option CloseReason
  framesReceived : Nat
  audioFrames : Nat
  controlMessages : Nat
  decodeErrors : Nat
  parseErrors : Nat
  writeErrors : Nat
  /-- Turns dropped by an abort, a new turn or the end of the session. -/
  discardedTurns : Nat
  containers : List ContainerMetadata
  latency : LatencyTracker
  deriving DecidableEq, Repr

namespace SessionReport

/-- The account of a session in which nothing has happened. -/
def create (deviceId : String) (state : SessionState) (latency : LatencyTracker) : SessionReport :=
  { deviceId, serverSessionId := none, states := [state], closeReason := none, framesReceived := 0,
    audioFrames := 0, controlMessages := 0, decodeErrors := 0, parseErrors := 0, writeErrors := 0,
    discardedTurns := 0, containers := [], latency }

/-- The state a session was in last. -/
def finalState (r : SessionReport) : SessionState := r.states.getLast?.getD .connecting

end SessionReport

end VoiceLink
