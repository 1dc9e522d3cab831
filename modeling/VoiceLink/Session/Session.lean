import VoiceLink.Session.Loop
import VoiceLink.Session.Sender
import VoiceLink.Text.Duration
import VoiceLink.Transport.Handshake

/-!
# A voice session

A session joins the sender on the caller's side with the receive loop. A control message that cannot
be delivered ends the session. Time is that of the receive loop.

The two sides share little: the loop tells the caller through the events in its router's record, and
the caller tells the loop by cancelling it and by publishing when it has asked for something. A call
that waits is written out as what the loop does meanwhile (`settle`, `sleep`) and what the caller
finds then.
-/

namespace VoiceLink

/-- The state of a session. -/
structure Session where
  config : SessionConfig
  codec : Codec
  channel : Channel
  loop : Loop
  /-- How many of the router's events the caller has taken. -/
  taken : Nat := 0

/-- A session that did not start: the error, the closed channel, and what was logged. -/
structure StartFailure where
  error : SessionError
  channel : Channel
  log : List LogEntry

namespace Session

/-- The sender of a configuration. -/
def senderOf (config : SessionConfig) : ControlSender :=
  { deviceId := config.deviceId, audioParams := config.audioParams }

def sender (s : Session) : ControlSender := senderOf s.config

/-! ## Starting

The format is checked before anything is sent. A session that could not start has closed its channel
and gives back what it had logged. -/

/-- Start a session on a channel: check the output format, greet, then begin to receive. -/
def start (codec : Codec) (channel : Channel) (config : SessionConfig) (time : Nat) :
    Except StartFailure Session :=
  match Router.create codec config .connecting (time * 1000000) with
  | .error error =>
    .error
      { error, channel := channel.close
        log := [{ level := .error, text := "Failed to set up session: " ++ error.message }] }
  | .ok router =>
    match channel.send (ControlSender.frame (senderOf config).hello) with
    | (.error e, channel) =>
      let router := router.note .error ("Failed to send hello: " ++ e.message)
      .error { error := .send e, channel := channel.close, log := router.log }
    | (.ok (), channel) =>
      .ok { config, codec, channel, loop := .start (router.transition .helloSent) time {} }

/-! ## While it lasts -/

def state (s : Session) : SessionState := s.loop.router.state

def note (s : Session) (level : LogLevel) (text : String) : Session :=
  { s with loop := { s.loop with router := s.loop.router.note level text } }

/-- Let the receive loop run until it has to wait. -/
def settle (s : Session) (d : Disk) : Session × Disk :=
  let (loop, d) := s.loop.settle d
  ({ s with loop }, d)

/-- Let time pass. -/
def sleep (s : Session) (d : Disk) (milliseconds : Nat) : Session × Disk :=
  let (loop, d) := s.loop.sleep d milliseconds
  ({ s with loop }, d)

def mark (s : Session) : Session := { s with loop := s.loop.publishMark.2 }

/-- Ask the receive loop to end. -/
def terminate (s : Session) : Session := { s with loop := s.loop.cancel }

/-! ## Sending

Control messages go through `sendControl`, which cancels the receive loop if one cannot be
delivered. A frame of a recording that cannot be delivered does the same, but only `streamRecording`
knows that it belongs to one. -/

def send (s : Session) (frame : OutboundFrame) : Except SendError Unit × Session :=
  let (result, channel) := s.channel.send frame
  (result, { s with channel })

/-- Send one control message; a failure ends the session. -/
def sendControl (s : Session) (m : ClientMessage) : Except SendError Unit × Session :=
  match s.send (ControlSender.frame m) with
  | (.ok (), s) => (.ok (), s)
  | (.error e, s) =>
    let s := s.note .error
      ("Control message not delivered, terminating session: " ++ e.message)
    (.error e, s.terminate)

/-- Ask the server to listen. -/
def listenStart (s : Session) : Except SendError Unit × Session :=
  s.sendControl (s.sender.listenStart s.config.listenMode)

/-- End the caller's turn; the reply's delay is measured from here. -/
def listenStop (s : Session) : Except SendError Unit × Session :=
  s.mark.sendControl (s.sender.listenStop s.config.listenMode)

/-- Send a text in place of speech; the reply's delay is measured from here. -/
def listenDetect (s : Session) (text : String) : Except SendError Unit × Session :=
  s.mark.sendControl (s.sender.listenDetect text)

/-- Ask the server to abort the turn; nothing is dropped on this side until it says so. -/
def abort (s : Session) (reason : Option String) : Except SendError Unit × Session :=
  s.sendControl (s.sender.abort reason)

/-- Greet again, past the session: a failure does not end it. -/
def senderHello (s : Session) : Except SendError Unit × Session :=
  s.send (ControlSender.frame s.sender.hello)

def sendFrame (s : Session × Disk) (frame : OutboundFrame) :
    Except SendError Unit × Session × Disk :=
  let (result, session) := s.1.send frame
  (result, session, s.2)

/-- Wait for a frame duration where the recording is paced. -/
def pause (pace : Bool) (milliseconds : Nat) (s : Session × Disk) : Session × Disk :=
  if pace then s.1.sleep s.2 milliseconds else s

/-- Stream a recording between a request to listen and its end. A frame that cannot be sent ends the
session; a recording that cannot be used does not. -/
def streamRecording (s : Session) (d : Disk) (path : String) (pace : Bool) :
    Except StreamError Nat × Session × Disk :=
  match s.listenStart with
  | (.error e, s) => (.error (.control e), s, d)
  | (.ok (), s) =>
    match s.sender.packets s.codec d path with
    -- listening is left as it is: nothing is sent for a recording that cannot be used
    | .error e => (.error e, s, d)
    | .ok packets =>
      let duration := s.config.audioParams.frameDuration.toNat
      match ControlSender.stream sendFrame (pause pace duration) (s, d) 0 packets with
      | (.error e, s, d) => (.error e, s.terminate, d)
      | (.ok count, s, d) =>
        match s.listenStop with
        | (.error e, s) => (.error (.control e), s, d)
        | (.ok (), s) => (.ok count, s, d)

/-! ## Waiting for a container

The caller takes events in the order in which they were told, and keeps count of them. A container
that is among them is returned at once; otherwise the receive loop runs, and only when it can do
nothing but wait does time pass. -/

/-- Take events up to the next container. Turns that were aborted are passed over, failures to write
are logged. -/
def takeEvents (s : Session) : List SessionEvent → Option ContainerMetadata × Session
  | [] => (none, s)
  | e :: rest =>
    let s := { s with taken := s.taken + 1 }
    match e with
    | .flushed container => (some container, s)
    | .flushFailed reason => (s.note .warn ("Flush failed: " ++ reason)).takeEvents rest
    | .turnAborted => s.takeEvents rest

def pending (s : Session) : List SessionEvent := s.loop.router.events.drop s.taken

/-- Wait for the next container where the receive loop can only wait as well. It ends, or the time
is over, and that is logged. -/
def waitIdle (s : Session) (d : Disk) (timeout : Nat) :
    Option ContainerMetadata × Session × Disk :=
  if s.loop.ended then (none, s, d)
  else
    let idle := s.loop.deadline.getD (s.loop.time + s.config.idleTimeout) - s.loop.time
    -- the loop gives up before the caller does, and its end may have brought something
    if idle < timeout then
      let (s, d) := s.sleep d idle
      let (container, s) := s.takeEvents s.pending
      (container, s, d)
    else
      let s := { s with loop := s.loop.elapse timeout }
      let text := "No flushed response within " ++ DurationText.ofMilliseconds timeout
      (none, s.note .warn text, d)

/-- Wait for the next container. It may be there already, or come of what the receive loop has still
to handle. -/
def nextFlush (s : Session) (d : Disk) (timeout : Nat) :
    Option ContainerMetadata × Session × Disk :=
  match s.takeEvents s.pending with
  | (some container, s) => (some container, s, d)
  | (none, s) =>
    let (s, d) := s.settle d
    match s.takeEvents s.pending with
    | (some container, s) => (some container, s, d)
    | (none, s) => s.waitIdle d timeout

/-! ## Ending -/

/-- Let the receive loop end on its own: by what is in its queue, or by its idle timeout. -/
def runOut (s : Session) (d : Disk) : Session × Disk :=
  let (s, d) := s.settle d
  match s.loop.deadline with
  | some deadline => s.sleep d (deadline - s.loop.time)
  | none => (s, d)

/-- Close the channel and give the account of the receive loop. -/
def join (s : Session) : Except SessionError SessionReport × Session :=
  let result := s.loop.outcome.getD (.error .closed)
  (result, { s with channel := s.channel.close })

/-- Cancel the session, and end it. -/
def close (s : Session) (d : Disk) : Except SessionError SessionReport × Session × Disk :=
  let (s, d) := s.terminate.settle d
  let (result, s) := s.join
  (result, s, d)

/-- Wait until the session ends on its own. -/
def wait (s : Session) (d : Disk) : Except SessionError SessionReport × Session × Disk :=
  let (s, d) := s.runOut d
  let (result, s) := s.join
  (result, s, d)

/-! ## Connecting -/

/-- Connect to the server of some settings and start a session with it. What the server is going to
send comes along. -/
def connect (network : Network) (codec : Codec) (c : ClientSettings) (drawn : String) (time : Nat) :
    Except StartFailure (Session × List InboundFrame) :=
  match network.connect c.server drawn with
  | .error e => .error { error := .connect e, channel := {}, log := [] }
  | .ok peer => do
    let s ← start codec peer.channel c.session time
    return (s, peer.replies)

end Session

end VoiceLink
