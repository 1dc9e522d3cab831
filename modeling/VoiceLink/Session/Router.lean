import VoiceLink.Audio.Codec
import VoiceLink.Message.Control
import VoiceLink.Session.State

/-!
# The router

The router handles one inbound frame at a time. Audio is decoded and collected, control messages
start, finish and abort turns, and a finished turn is written to a container. Everything it tells
the outside is kept in its record: the published state, the events for the session's owner and the
log.

No frame of the connection stops it. A text that is no control message, audio that cannot be decoded
and a turn that cannot be written are counted, told where somebody might care, and left behind; the
next frame finds the router as it would have found it otherwise.
-/

namespace VoiceLink

/-- The state of a router. -/
structure Router where
  config : SessionConfig
  decoder : Decoder
  accumulator : Accumulator
  writer : ContainerWriter
  rawFrames : List Packet
  latency : LatencyTracker
  /-- The state others can watch. -/
  state : SessionState
  report : SessionReport
  /-- All events so far, the first in front. -/
  events : List SessionEvent
  /-- All log entries so far, the first in front. -/
  log : List LogEntry

namespace Router

/-- A router for a configuration, if the decoder supports its output format. -/
def create (codec : Codec) (config : SessionConfig) (state : SessionState) (now : Instant) :
    Except SessionError Router :=
  match Decoder.create codec config.outputSampleRate config.outputChannels with
  | .error e => .error (.decoder e)
  | .ok decoder =>
    let latency := LatencyTracker.create now
    .ok
      { config, decoder
        accumulator := .empty config.outputSampleRate config.outputChannels
        writer := { outputDir := config.outputDir, stem := config.deviceId }
        rawFrames := [], latency, state
        report := .create config.deviceId state latency
        events := [], log := [] }

/-! ## The record -/

def note (r : Router) (level : LogLevel) (text : String) : Router :=
  { r with log := r.log ++ [{ level, text }] }

def emit (r : Router) (e : SessionEvent) : Router := { r with events := r.events ++ [e] }

def account (r : Router) (change : SessionReport → SessionReport) : Router :=
  { r with report := change r.report }

/-- Go to a state, publish it and record it; the current state is not entered again. -/
def transition (r : Router) (next : SessionState) : Router :=
  if r.state = next then r
  else
    { r with state := next, report := { r.report with states := r.report.states ++ [next] } }

/-- How many frames have been handled. -/
def handled (r : Router) : Nat :=
  r.report.audioFrames + r.report.controlMessages + r.report.parseErrors

/-! ## Turns

There is always a turn, from the last boundary on. It may be finished by the server's word that it
has stopped to speak, and then it becomes a container; or dropped, when another one starts, when it
is aborted, or with the session. A turn without audio counts for nothing when it is dropped, but it
is written when it is finished. -/

def resetAudio (r : Router) : Router :=
  { r with accumulator := r.accumulator.reset, rawFrames := [] }

def startLatency (r : Router) (now : Instant) : Router :=
  { r with latency := r.latency.startTurn now }

/-- Count a turn that is dropped, if it had any audio. -/
def countDiscarded (r : Router) : Router :=
  if r.accumulator.isEmpty then r
  else r.account fun a => { a with discardedTurns := a.discardedTurns + 1 }

/-- Keep the compressed frames of the turn that was just written, where that is asked for. -/
def dumpRaw (r : Router) (d : Disk) : Router × Disk :=
  if r.config.dumpRawOpus then
    match r.writer.writeRaw d r.rawFrames with
    | (.ok _, d) => (r, d)
    | (.error e, d) => (r.note .warn ("Failed to save raw Opus frames: " ++ e.message), d)
  else (r, d)

/-- Write the collected turn to a container and start over, whether or not that succeeds. -/
def flush (r : Router) (d : Disk) (now : Instant) : Router × Disk :=
  let (r, d) :=
    match r.writer.write d r.accumulator.snapshot with
    | (.ok container, writer, d) =>
      -- the packets are kept before anybody is told that there is a container
      let (r, d) := { r with writer }.dumpRaw d
      ((r.account fun a => { a with containers := a.containers ++ [container] }).emit
        (.flushed container), d)
    | (.error e, writer, d) =>
      let r := { r with writer }.note .error ("Failed to write container: " ++ e.message)
      ((r.account fun a => { a with writeErrors := a.writeErrors + 1 }).emit
        (.flushFailed e.message), d)
  -- a failure is no reason to keep the audio: the next turn starts empty
  (r.resetAudio.startLatency now, d)

/-- The server starts to speak: what was collected and not finished is dropped. The request stays
the origin of the first frame's delay. -/
def startTurn (r : Router) : Router :=
  let r :=
    if r.accumulator.isEmpty then r
    else r.note .warn ("New turn started, discarding "
      ++ Numeral.text r.accumulator.stats.outputBytes ++ " unflushed bytes")
  r.countDiscarded.resetAudio

/-- The server aborts the turn. -/
def abortTurn (r : Router) (now : Instant) : Router :=
  (r.countDiscarded.resetAudio.startLatency now).emit .turnAborted

/-! ## Frames -/

/-- The server's greeting: a format other than the decoder's is only remarked on. -/
def greet (r : Router) (sessionId : Option String) (params : Option AudioParams) : Router :=
  let rate := r.decoder.format.rate.hz
  let channels := r.decoder.format.channels.count
  let r := match params with
    | none => r
    | some p =>
      if p.sampleRate.toNat = rate ∧ p.channels.toNat = channels then r
      else r.note .warn ("Server announced " ++ Numeral.text p.sampleRate.toNat ++ "Hz/"
        ++ Numeral.text p.channels.toNat ++ "ch, decoding at " ++ Numeral.text rate ++ "Hz/"
        ++ Numeral.text channels ++ "ch")
  match sessionId with
  | none => r
  | some id => r.account fun a => { a with serverSessionId := some id }

def handleMessage (r : Router) (d : Disk) (now : Instant) : ControlMessage → Router × Disk
  | .tts .stop _ => r.flush d now
  | .tts .start _ => (r.startTurn, d)
  | .tts _ _ => (r, d)
  | .abort _ => (r.abortTurn now, d)
  | .hello sessionId _ params => (r.greet sessionId params, d)
  | .stt _ => (r, d)
  | .llm _ _ => (r, d)
  | .listen _ _ _ => (r, d)
  | .unknown => (r, d)

/-- Handle one text frame. A text that is no control message is counted and dropped. -/
def handleText (r : Router) (d : Disk) (now : Instant) (text : String) : Router × Disk :=
  match ControlMessage.parse text with
  | .error e =>
    let r := r.note .warn ("Discarding control message: " ++ ControlMessage.refusal e)
    (r.account fun a => { a with parseErrors := a.parseErrors + 1 }, d)
  | .ok message =>
    (r.account fun a => { a with controlMessages := a.controlMessages + 1 }).handleMessage d now
      message

/-- Handle one audio frame. A frame that cannot be decoded is counted and skipped. -/
def handleAudio (r : Router) (now : Instant) (packet : Packet) : Router :=
  -- the frame has arrived, whether or not it can be decoded
  let (_, latency) := r.latency.recordFrame now
  let r := { r with latency }.account fun a => { a with audioFrames := a.audioFrames + 1 }
  let r := if r.config.dumpRawOpus then { r with rawFrames := r.rawFrames ++ [packet] } else r
  match r.decoder.decode packet with
  | (.ok frame, decoder) =>
    let (_, accumulator) := r.accumulator.append packet.length frame.pcm
    { r with decoder, accumulator }
  | (.error e, decoder) =>
    let r := { r with decoder }.note .warn
      ("Skipping audio frame " ++ Numeral.text r.report.audioFrames ++ ": " ++ e.message)
    r.account fun a => { a with decodeErrors := a.decodeErrors + 1 }

def handle (r : Router) (d : Disk) (now : Instant) : InboundFrame → Router × Disk
  | .text content => r.handleText d now content
  | .binary data => (r.handleAudio now data, d)
  | .closed => (r, d)
  | .failed _ => (r, d)

/-! ## The end -/

/-- End the session: audio that was not finished is dropped. -/
def close (r : Router) (reason : CloseReason) : Router :=
  let r := (r.transition .closing).countDiscarded.resetAudio.transition .closed
  r.account fun a => { a with closeReason := some reason, latency := r.latency }

end Router

end VoiceLink
