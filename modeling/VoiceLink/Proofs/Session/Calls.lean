import VoiceLink.Proofs.Session.Runs
import VoiceLink.Session.Session

/-!
# Runs of a session

Three parties take part in a session: the caller, the receive loop and the peer. `Session.Step`
lists what each of them can do without being interrupted, and a run is any list of these. A
recording that is streamed is no single step, since frames come in between two of its packets; nor
is a wait. An observer writes down every send together with what came of it (`Sent`).

`Watched.stepped` says once what a step can be; what is true of runs is proved by its three cases.

Nobody has to wait for anybody here. A step that is not possible when its turn comes does nothing,
and what would be a wait is just the time in which the others take theirs.
-/

namespace VoiceLink

namespace Session

/-! ## What is sent

A session and the sender inside it are two ways to the same channel. Only a failure of the first
cancels the session, so a send is written down with the way it went. -/

/-- What a caller asks of the server. -/
inductive Request where
  | listenStart
  | listenStop
  | listenDetect (text : String)
  | abort (reason : Option String)
  deriving DecidableEq, Repr

def Request.message (c : SessionConfig) : Request → ClientMessage
  | listenStart => .listen c.deviceId .start (some c.listenMode) none
  | listenStop => .listen c.deviceId .stop (some c.listenMode) none
  | listenDetect text => .listen c.deviceId .detect none (some text)
  | abort reason => .abort c.deviceId reason

def ask (s : Session) : Request → Except SendError Unit × Session
  | .listenStart => s.listenStart
  | .listenStop => s.listenStop
  | .listenDetect text => s.listenDetect text
  | .abort reason => s.abort reason

/-- What goes out in one frame. -/
inductive Outgoing where
  | request (q : Request)
  | message (m : ClientMessage)
  | packet (p : Packet)
  deriving DecidableEq, Repr

/-- The frame that something goes out in. -/
def Outgoing.frame (c : SessionConfig) : Outgoing → OutboundFrame
  | request q => ControlSender.frame (q.message c)
  | message m => ControlSender.frame m
  | packet p => .binary p

/-- A send, and what came of it. -/
structure Sent where
  outgoing : Outgoing
  /-- Whether it went past the session, through its sender. -/
  direct : Bool
  result : Except SendError Unit

def Sent.made (o : Outgoing) : Sent := ⟨o, false, .ok ()⟩

def Sent.failed (o : Outgoing) (e : SendError) : Sent := ⟨o, false, .error e⟩

/-- Whether a send was accepted. -/
def Sent.accepted (x : Sent) : Bool := x.result.isOk

/-- Whether a send of the session failed. -/
def Sent.isSessionFailure (x : Sent) : Bool := !x.direct && !x.result.isOk

/-- The two ways to end a session that give its report. -/
inductive Ending where
  /-- End it now. -/
  | close
  /-- Let it end on its own. What happens while that is waited for belongs to the run before. -/
  | wait
  deriving DecidableEq, Repr

def sendPacket (s : Session) (p : Packet) : Except SendError Unit × Session :=
  let (result, s) := s.send (.binary p)
  (result, if result.isOk then s else s.terminate)

def conclude (s : Session) (d : Disk) :
    Ending → Except SessionError SessionReport × Session × Disk
  | .close => s.close d
  | .wait => s.wait d

/-! ## Runs

`streams` holds what is left of the recordings, so more than one may be under way. What is recorded
of the receive loop is what an observer of the loop alone would see (`Watched.view`). -/

/-- What can happen to a receive loop without the caller. -/
inductive LoopEvent where
  | deliver (frame : InboundFrame)
  | hangUp
  | elapse (milliseconds : Nat)
  | poll
  deriving DecidableEq, Repr

/-- The event as a step of the loop. -/
def LoopEvent.step : LoopEvent → Loop.Step
  | deliver frame => .deliver frame
  | hangUp => .hangUp
  | elapse milliseconds => .elapse milliseconds
  | poll => .poll

/-- What one of the parties can do. -/
inductive Step where
  /-- The caller makes a request. -/
  | request (q : Request)
  /-- The caller sends something past the session. -/
  | direct (o : Outgoing)
  /-- The caller begins to stream a recording. -/
  | stream (path : String)
  /-- A recording goes on: its next packet is sent or, behind the last, the end of listening. -/
  | streamNext (i : Nat)
  /-- The caller takes the events that are there, up to the next container. -/
  | takeEvents
  /-- The caller has waited for a container in vain. -/
  | giveUp (milliseconds : Nat)
  /-- The caller closes the transport. -/
  | closeTransport
  /-- The peer accepts no more frames. -/
  | peerHangUp
  /-- The peer accepts frames again. Within the program it never does, but sends over a network may
  fail now and then. -/
  | peerReturns
  /-- Something happens to the receive loop. -/
  | loop (e : LoopEvent)
  deriving DecidableEq, Repr

/-- A session, and what an observer has seen of it. -/
structure Watched where
  session : Session
  disk : Disk
  /-- The frames that were delivered, the first in front. -/
  delivered : List InboundFrame := []
  /-- The frames that were handed to the router, the first in front. -/
  handled : List InboundFrame := []
  /-- When the receive loop took a frame last; before the first, when it was started. -/
  lastTaken : Nat
  /-- The sends, the first in front. -/
  sent : List Sent := []
  /-- The recordings that are being streamed, with the packets that are left. -/
  streams : List (List Packet) := []

namespace Watched

def start (s : Session) (d : Disk) : Watched :=
  { session := s, disk := d, lastTaken := s.loop.time }

/-- What the observer has seen of the receive loop. -/
def view (w : Watched) : Loop.Watched :=
  { loop := w.session.loop, disk := w.disk, delivered := w.delivered, handled := w.handled
    lastTaken := w.lastTaken }

/-- The same session where something has happened to the receive loop. -/
def withView (w : Watched) (l : Loop.Watched) : Watched :=
  { w with
    session := { w.session with loop := l.loop }, disk := l.disk, delivered := l.delivered
    handled := l.handled, lastTaken := l.lastTaken }

/-- The session has sent something; it is written down. -/
def record (w : Watched) (o : Outgoing) (made : Except SendError Unit × Session) :
    Except SendError Unit × Watched :=
  (made.1, { w with session := made.2, sent := w.sent ++ [⟨o, false, made.1⟩] })

def request (w : Watched) (q : Request) : Except SendError Unit × Watched :=
  w.record (.request q) (w.session.ask q)

/-- Send one packet of a recording. -/
def sendPacket (w : Watched) (p : Packet) : Except SendError Unit × Watched :=
  w.record (.packet p) (w.session.sendPacket p)

def step (w : Watched) : Step → Watched
  | .request q => (w.request q).2
  | .direct o =>
    let (result, session) := w.session.send (o.frame w.session.config)
    { w with session, sent := w.sent ++ [⟨o, true, result⟩] }
  | .stream path =>
    let (result, w') := w.request .listenStart
    let begun := match result, w'.session.sender.packets w'.session.codec w'.disk path with
      | .ok (), .ok packets => [packets]
      | _, _ => []
    { w' with streams := w.streams ++ begun }
  | .streamNext i =>
    match w.streams[i]? with
    | none => w
    | some [] => { (w.request .listenStop).2 with streams := w.streams.eraseIdx i }
    | some (p :: rest) =>
      let (result, w') := w.sendPacket p
      { w' with streams := if result.isOk then w.streams.set i rest else w.streams.eraseIdx i }
  | .takeEvents => { w with session := (w.session.takeEvents w.session.pending).2 }
  | .giveUp milliseconds =>
    let text := "No flushed response within " ++ DurationText.ofMilliseconds milliseconds
    { w with session := w.session.note .warn text }
  | .closeTransport => { w with session := { w.session with channel := w.session.channel.close } }
  | .peerHangUp => { w with session := { w.session with channel := w.session.channel.peerHangUp } }
  | .peerReturns =>
    let channel := { w.session.channel with peerListens := true }
    { w with session := { w.session with channel } }
  | .loop e => w.withView (w.view.step e.step)

/-- The session is ended. -/
def conclude (w : Watched) (ending : Ending) : Watched :=
  let (_, session, disk) := w.session.conclude w.disk ending
  { w with session, disk }

def run (w : Watched) (steps : List Step) : Watched := steps.foldl step w

@[simp]
theorem run_concat (w : Watched) (steps : List Step) (s : Step) :
    w.run (steps ++ [s]) = (w.run steps).step s := by
  simp [run]

@[simp]
theorem run_append (w : Watched) (steps later : List Step) :
    w.run (steps ++ later) = (w.run steps).run later := by
  simp [run]

/-- The receive loop runs on its own. -/
theorem run_loop (w : Watched) (events : List LoopEvent) :
    w.run (events.map .loop) = w.withView (w.view.run (events.map LoopEvent.step)) := by
  induction events generalizing w with
  | nil => rfl
  | cons e events ih => exact ih _

end Watched

/-! ## What the caller does to a session

All calls have this in common: the receive loop is left alone, apart from three fields that are
there for the caller to write to. -/

/-- The caller leaves the receive loop alone but for the token, the mark and the log. -/
structure Beside (s s' : Session) : Prop where
  config_eq : s'.config = s.config
  codec_eq : s'.codec = s.codec
  loop_eq : ∃ log mark cancelled, s'.loop =
    { s.loop with router := { s.loop.router with log }, mark, cancelled }

namespace Beside

variable {s s' s'' : Session}

theorem refl (s : Session) : s.Beside s := ⟨rfl, rfl, _, _, _, rfl⟩

theorem trans (h : s.Beside s') (h' : s'.Beside s'') : s.Beside s'' := by
  obtain ⟨log, mark, cancelled, loop⟩ := h.loop_eq
  obtain ⟨log', mark', cancelled', loop'⟩ := h'.loop_eq
  refine ⟨h'.config_eq.trans h.config_eq, h'.codec_eq.trans h.codec_eq, log', mark', cancelled', ?_⟩
  rw [loop', loop]

theorem outcome_eq (h : s.Beside s') : s'.loop.outcome = s.loop.outcome := by
  obtain ⟨log, mark, cancelled, loop⟩ := h.loop_eq
  rw [loop]

theorem report_eq (h : s.Beside s') : s'.loop.router.report = s.loop.router.report := by
  obtain ⟨log, mark, cancelled, loop⟩ := h.loop_eq
  rw [loop]

theorem events_eq (h : s.Beside s') : s'.loop.router.events = s.loop.router.events := by
  obtain ⟨log, mark, cancelled, loop⟩ := h.loop_eq
  rw [loop]

end Beside

variable (s : Session)

theorem note_beside (level : LogLevel) (text : String) : s.Beside (s.note level text) :=
  ⟨rfl, rfl, _, _, _, rfl⟩

/-- A mark is published, or nobody takes it up any more. -/
theorem mark_beside : s.Beside s.mark := by
  refine ⟨rfl, rfl, ?_⟩
  simp only [mark, Loop.publishMark]
  split <;> exact ⟨_, _, _, rfl⟩

theorem terminate_beside : s.Beside s.terminate := ⟨rfl, rfl, _, _, _, rfl⟩

@[simp]
theorem mark_cancelled : s.mark.loop.cancelled = s.loop.cancelled := by
  simp only [mark, Loop.publishMark]
  split <;> rfl

/-- A session has started when its channel has taken the greeting, and nothing is cancelled yet. -/
theorem start_eq_ok {codec : Codec} {channel : Channel} {config : SessionConfig} {time : Nat}
    {s : Session} (h : start codec channel config time = .ok s) :
    channel.send (ControlSender.frame (senderOf config).hello) = (.ok (), s.channel) ∧
      s.config = config ∧ s.loop.cancelled = false := by
  unfold start at h
  split at h
  · cases h
  · split at h
    · cases h
    · next channel' sent =>
      cases h
      exact ⟨sent, rfl, rfl⟩

/-- What a send does to a session. -/
structure Sends (s : Session) (frame : OutboundFrame) (result : Except SendError Unit)
    (s' : Session) : Prop where
  result_eq : result = (s.channel.send frame).1
  channel_eq : s'.channel = (s.channel.send frame).2
  beside : s.Beside s'

variable {s}

/-- A message is sent; the session is to end if that fails. -/
theorem sendControl_sends (m : ClientMessage) :
    s.Sends (ControlSender.frame m) (s.sendControl m).1 (s.sendControl m).2 ∧
      (s.sendControl m).2.loop.cancelled =
        (s.loop.cancelled || !(s.sendControl m).1.isOk) := by
  cases sent : s.channel.send (ControlSender.frame m) with
  | mk result channel =>
      cases result with
      | ok u =>
          simp only [sendControl, send, sent]
          refine ⟨⟨by rw [sent], by rw [sent], ⟨rfl, rfl, _, _, _, rfl⟩⟩, ?_⟩
          simp [Except.isOk, Except.toBool]
      | error e =>
          simp only [sendControl, send, sent]
          refine ⟨⟨by rw [sent], by rw [sent]; rfl, ⟨rfl, rfl, _, _, _, rfl⟩⟩, ?_⟩
          simp [terminate, Loop.cancel, Except.isOk, Except.toBool]

theorem Sends.of_mark {frame : OutboundFrame} {result : Except SendError Unit} {s' : Session}
    (h : s.mark.Sends frame result s') : s.Sends frame result s' :=
  ⟨h.result_eq, h.channel_eq, s.mark_beside.trans h.beside⟩

/-- A request is sent as its message; the session is to end if that fails. -/
theorem ask_sends (q : Request) :
    s.Sends (ControlSender.frame (q.message s.config)) (s.ask q).1 (s.ask q).2 ∧
      (s.ask q).2.loop.cancelled = (s.loop.cancelled || !(s.ask q).1.isOk) := by
  cases q with
  | listenStart => exact sendControl_sends _
  | abort reason => exact sendControl_sends _
  | listenStop =>
      obtain ⟨sends, cancelled⟩ :=
        s.mark.sendControl_sends (s.sender.listenStop s.config.listenMode)
      exact ⟨sends.of_mark, cancelled.trans (by rw [mark_cancelled]; rfl)⟩
  | listenDetect text =>
      obtain ⟨sends, cancelled⟩ := s.mark.sendControl_sends (s.sender.listenDetect text)
      exact ⟨sends.of_mark, cancelled.trans (by rw [mark_cancelled]; rfl)⟩

theorem send_sends (frame : OutboundFrame) :
    s.Sends frame (s.send frame).1 (s.send frame).2 :=
  ⟨rfl, rfl, ⟨rfl, rfl, _, _, _, rfl⟩⟩

/-- A packet is sent; the session is to end if that fails. -/
theorem sendPacket_sends (p : Packet) :
    s.Sends (.binary p) (s.sendPacket p).1 (s.sendPacket p).2 ∧
      (s.sendPacket p).2.loop.cancelled = (s.loop.cancelled || !(s.sendPacket p).1.isOk) := by
  have sends := s.send_sends (.binary p)
  have live : (s.send (.binary p)).2.loop.cancelled = s.loop.cancelled := rfl
  simp only [sendPacket]
  generalize s.send (.binary p) = made at sends live ⊢
  cases made.1.isOk with
  | true => exact ⟨sends, by simpa using live⟩
  | false =>
      refine ⟨⟨sends.result_eq, sends.channel_eq, sends.beside.trans (terminate_beside _)⟩, ?_⟩
      simp [terminate, Loop.cancel]

/-- Events are taken and remarked on; nothing else happens. -/
theorem takeEvents_beside (events : List SessionEvent) :
    s.Beside (s.takeEvents events).2 ∧ (s.takeEvents events).2.channel = s.channel ∧
      (s.takeEvents events).2.loop.cancelled = s.loop.cancelled := by
  induction events generalizing s with
  | nil => exact ⟨.refl s, rfl, rfl⟩
  | cons e events ih =>
      have counted : s.Beside { s with taken := s.taken + 1 } := ⟨rfl, rfl, _, _, _, rfl⟩
      cases e with
      | flushed m => exact ⟨counted, rfl, rfl⟩
      | turnAborted =>
          obtain ⟨rest, channel, cancelled⟩ := ih (s := { s with taken := s.taken + 1 })
          exact ⟨counted.trans rest, channel, cancelled⟩
      | flushFailed reason =>
          let noted := note { s with taken := s.taken + 1 } .warn ("Flush failed: " ++ reason)
          obtain ⟨rest, channel, cancelled⟩ := ih (s := noted)
          exact ⟨(counted.trans (note_beside _ _ _)).trans rest, channel, cancelled⟩

namespace Watched

/-! ## What a step can be

A send, something that nobody outside can see, or an event of the loop. Invariants of a session are
proved by these three cases. -/

/-- What can be seen after a step: something was sent, or nothing was and the channel is as closed
as before, or something has happened to the receive loop. -/
inductive Stepped (w : Watched) : Watched → Prop where
  | sent (x : Sent) (s : Session) (streams : List (List Packet))
      (sends : w.session.Sends (x.outgoing.frame w.session.config) x.result s)
      (cancelled : s.loop.cancelled = (w.session.loop.cancelled || x.isSessionFailure)) :
      Stepped w { w with session := s, sent := w.sent ++ [x], streams }
  | quiet (s : Session) (beside : w.session.Beside s)
      (cancelled : s.loop.cancelled = w.session.loop.cancelled)
      (accepted : s.channel.accepted = w.session.channel.accepted)
      (closed : w.session.channel.closed = true → s.channel.closed = true) :
      Stepped w { w with session := s }
  | loop (e : LoopEvent) : Stepped w (w.withView (w.view.step e.step))

variable (w : Watched)

theorem stepped_request (q : Request) (streams : List (List Packet)) :
    w.Stepped { (w.request q).2 with streams } := by
  obtain ⟨sends, cancelled⟩ := w.session.ask_sends q
  exact .sent ⟨.request q, false, _⟩ _ streams sends cancelled

theorem stepped_sendPacket (p : Packet) (streams : List (List Packet)) :
    w.Stepped { (w.sendPacket p).2 with streams } := by
  obtain ⟨sends, cancelled⟩ := w.session.sendPacket_sends p
  exact .sent ⟨.packet p, false, _⟩ _ streams sends cancelled

/-- Every step is one of these. -/
theorem stepped (s : Step) : w.Stepped (w.step s) := by
  cases s with
  | request q => exact w.stepped_request q w.streams
  | direct o =>
      refine .sent ⟨o, true, _⟩ _ w.streams (w.session.send_sends _) ?_
      simp [Sent.isSessionFailure]
  | stream path => exact w.stepped_request .listenStart _
  | streamNext i =>
      simp only [step]
      -- there is no such recording, nothing is left of it, or there is a next packet
      split
      · exact .quiet w.session (.refl _) rfl rfl id
      · exact w.stepped_request .listenStop _
      · exact w.stepped_sendPacket _ _
  | takeEvents =>
      obtain ⟨beside, channel, cancelled⟩ := takeEvents_beside (s := w.session) w.session.pending
      exact .quiet _ beside cancelled (by rw [channel]) (by rw [channel]; exact id)
  | giveUp milliseconds => exact .quiet _ (note_beside _ _ _) rfl rfl id
  | closeTransport => exact .quiet _ ⟨rfl, rfl, _, _, _, rfl⟩ rfl rfl fun _ => rfl
  | peerHangUp => exact .quiet _ ⟨rfl, rfl, _, _, _, rfl⟩ rfl rfl id
  | peerReturns => exact .quiet _ ⟨rfl, rfl, _, _, _, rfl⟩ rfl rfl id
  | loop e => exact .loop e

end Watched

end Session

end VoiceLink
