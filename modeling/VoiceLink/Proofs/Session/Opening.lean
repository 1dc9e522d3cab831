import VoiceLink.Proofs.Audio.Hearing
import VoiceLink.Proofs.Session.Outbound
import VoiceLink.Proofs.Session.Stages

/-!
# Starting a session

To start a session is to make its router, to greet, to publish that, and only then to set the
receive loop going. `Session.start` does all of it at once. Here these are steps of their own,
between which frames come in, the peer hangs up and others close the channel, as they like: an
`Attempt`. Left to itself it does what `Session.start` does (`Attempt.run_alone`), and whatever
happens in between, it comes to one of two ends: a session that has greeted and nothing else, or an
error and a closed channel (`Session.start_all_or_nothing`).

The invariant goes by stages: each says what the peer has been sent, what came of it, and that
nobody has taken a frame. Errors carry their reason with them from the stage in which they came up
(`Reason`).
-/

namespace VoiceLink

/-! ## Routers and results

A start can fail in two places. Which of the two it is can be told from its arguments alone: the
format comes first, and then the channel. -/

namespace Router

/-- There is a router where there is a decoder; it is connecting. -/
theorem create_eq_ok {codec : Codec} {config : SessionConfig} {state : SessionState}
    {now : Instant} {r : Router} (h : create codec config state now = .ok r) :
    AudioFormat.Supported config.outputSampleRate config.outputChannels ∧
      r.statePart = ⟨state, [state], 0⟩ := by
  unfold create at h
  split at h
  · cases h
  · next decoder made =>
    cases h
    exact ⟨Decoder.create_isOk_iff.1 ⟨decoder, made⟩, rfl⟩

/-- A router that cannot be made lacks a decoder for the output format. -/
theorem create_eq_error {codec : Codec} {config : SessionConfig} {state : SessionState}
    {now : Instant} {error : SessionError} (h : create codec config state now = .error error) :
    ¬ AudioFormat.Supported config.outputSampleRate config.outputChannels ∧
      error = .decoder (.unsupportedFormat config.outputSampleRate config.outputChannels) := by
  unfold create at h
  split at h
  · next e failed =>
    cases h
    constructor
    · intro supported
      obtain ⟨decoder, made⟩ := Decoder.create_isOk_iff.2 supported
      cases made.symm.trans failed
    · unfold Decoder.create at failed
      split at failed
      · cases failed
      · cases failed
        rfl
  · cases h

/-- The state part of a router that a receive loop is set going with. -/
theorem statePart_opened {r : Router} (h : r.statePart = ⟨.connecting, [.connecting], 0⟩)
    (now : Instant) :
    ((r.transition .helloSent).startLatency now).statePart = .ofCourse 0 false := by
  rw [statePart_startLatency, statePart_transition, h]
  rfl

end Router

namespace Session

/-- The same session where frames had come in before it was started. -/
def receiving (s : Session) (inbound : List InboundFrame) (inboundOpen : Bool) : Session :=
  { s with loop := { s.loop with queue := inbound, channelOpen := inboundOpen } }

section

variable {codec : Codec} {channel : Channel} {config : SessionConfig} {time : Nat}

/-- The output format is looked at first. -/
theorem start_unsupported_iff :
    (∃ log, start codec channel config time = .error
        ⟨.decoder (.unsupportedFormat config.outputSampleRate config.outputChannels),
          channel.close, log⟩) ↔
      ¬ AudioFormat.Supported config.outputSampleRate config.outputChannels := by
  rw [start]
  cases created : Router.create codec config .connecting (time * 1000000) with
  | error error =>
      obtain ⟨unsupported, rfl⟩ := Router.create_eq_error created
      exact ⟨fun _ => unsupported, fun _ => ⟨_, rfl⟩⟩
  | ok router =>
      have supported := (Router.create_eq_ok created).1
      refine ⟨?_, fun unsupported => absurd supported unsupported⟩
      rintro ⟨log, h⟩
      dsimp only at h
      split at h <;> cases h

/-- Of a format that is supported, it is the channel that decides. -/
theorem start_refused_iff :
    (∃ log, start codec channel config time = .error ⟨.send .closed, channel.close, log⟩) ↔
      AudioFormat.Supported config.outputSampleRate config.outputChannels ∧
        (channel.closed ∨ ¬ channel.peerListens) := by
  rw [start]
  cases created : Router.create codec config .connecting (time * 1000000) with
  | error error =>
      obtain ⟨unsupported, rfl⟩ := Router.create_eq_error created
      refine ⟨?_, fun h => absurd h.1 unsupported⟩
      rintro ⟨log, h⟩
      cases h
  | ok router =>
      have supported := (Router.create_eq_ok created).1
      by_cases refuses : channel.closed ∨ ¬ channel.peerListens
      · refine ⟨fun _ => ⟨supported, refuses⟩, fun _ => ?_⟩
        simp only [Channel.send, if_pos refuses]
        exact ⟨_, rfl⟩
      · refine ⟨?_, fun h => absurd h.2 refuses⟩
        simp only [Channel.send, if_neg refuses]
        rintro ⟨log, h⟩
        cases h

end

/-! ## A start in steps

The stages of `Session.start`, each of which can be interrupted. Frames that come in wait on the
connection, for there is no loop yet. -/

/-- A connection without a receive loop. -/
structure Connection where
  channel : Channel
  disk : Disk
  time : Nat := 0
  /-- The frames that have come in, the first in front. -/
  inbound : List InboundFrame := []
  /-- Whether more can come in. -/
  inboundOpen : Bool := true
  /-- What came of the greeting, once it was sent. -/
  greeting : Option (Except SendError Unit) := none

namespace Connection

/-- What can happen on the inbound side: frames wait, and nobody takes them. -/
def receive (c : Connection) : Loop.Step → Connection
  | .deliver f => if c.inboundOpen then { c with inbound := c.inbound ++ [f] } else c
  | .hangUp => { c with inboundOpen := false }
  | .elapse milliseconds => { c with time := c.time + milliseconds }
  | _ => c

/-- What can happen to a connection. There is no session to ask anything of. -/
def happen (c : Connection) : Step ⊕ Loop.Step → Connection
  | .inl .closeTransport => { c with channel := c.channel.close }
  | .inl .peerHangUp => { c with channel := c.channel.peerHangUp }
  | .inl .peerReturns => { c with channel := { c.channel with peerListens := true } }
  | .inl (.loop e) => c.receive e.step
  | .inr e => c.receive e
  | .inl _ => c

end Connection

/-- How far a start has come. -/
inductive StartStage where
  /-- Nothing has been done. -/
  | begun
  /-- There is a router, so the output format is supported. -/
  | checked (router : Router)
  /-- The channel has taken the greeting. -/
  | greeted (router : Router)
  /-- The state says so. -/
  | published (router : Router)
  /-- Something went wrong, and the channel is to be closed. -/
  | failing (error : SessionError) (log : List LogEntry)

/-- The steps that are left from a stage on, at most. -/
def StartStage.left : StartStage → Nat
  | begun => 4
  | checked _ => 3
  | greeted _ => 2
  | published _ | failing _ _ => 1

/-- A start of a session, while it goes on and afterwards. -/
inductive Attempt where
  | opening (c : Connection) (stage : StartStage)
  /-- It has given back an error. -/
  | failed (c : Connection) (error : SessionError) (log : List LogEntry)
  /-- It has given back a session, for which things have gone on since. -/
  | started (c : Connection) (s : Session) (w : Watched)

/-- What can happen during a start and after it. -/
inductive Attempt.Move where
  /-- The start goes on. -/
  | proceed
  | happen (e : Step ⊕ Loop.Step)
  deriving DecidableEq

/-- The next step of a start. A connection that is given up can receive nothing more. -/
def Connection.proceed (codec : Codec) (config : SessionConfig) (c : Connection) :
    StartStage → Attempt
  | .begun =>
    match Router.create codec config .connecting (c.time * 1000000) with
    | .error error =>
      let entry : LogEntry :=
        { level := .error, text := "Failed to set up session: " ++ error.message }
      .opening c (.failing error [entry])
    | .ok router => .opening c (.checked router)
  | .checked router =>
    match c.channel.send (ControlSender.frame (senderOf config).hello) with
    | (.error e, channel) =>
      let router := router.note .error ("Failed to send hello: " ++ e.message)
      .opening { c with channel, greeting := some (.error e) } (.failing (.send e) router.log)
    | (.ok (), channel) =>
      .opening { c with channel, greeting := some (.ok ()) } (.greeted router)
  | .greeted router => .opening c (.published (router.transition .helloSent))
  | .published router =>
    let s : Session := { config, codec, channel := c.channel, loop := .start router c.time {} }
    let s := s.receiving c.inbound c.inboundOpen
    .started c s { Watched.start s c.disk with delivered := c.inbound }
  | .failing error log =>
    .failed { c with channel := c.channel.close, inboundOpen := false } error log

namespace Attempt

def fresh (c : Connection) : Attempt := .opening { c with greeting := none } .begun

def step (codec : Codec) (config : SessionConfig) : Attempt → Move → Attempt
  | .opening c stage, .proceed => c.proceed codec config stage
  | .opening c stage, .happen e => .opening (c.happen e) stage
  | .failed c error log, .happen e => .failed (c.happen e) error log
  | .started c s w, .happen e => .started c s (w.happen e)
  | a, .proceed => a

def run (codec : Codec) (config : SessionConfig) (a : Attempt) (moves : List Move) : Attempt :=
  moves.foldl (step codec config) a

@[simp]
theorem run_concat (codec : Codec) (config : SessionConfig) (a : Attempt) (moves : List Move)
    (m : Move) :
    a.run codec config (moves ++ [m]) = (a.run codec config moves).step codec config m := by
  simp [run]

/-- The connection; behind a start that has succeeded, as the receive loop found it. -/
def connection : Attempt → Connection
  | .opening c _ | .failed c _ _ | .started c _ _ => c

def result : Attempt → Option (Except StartFailure Session)
  | .opening _ _ => none
  | .failed c error log => some (.error { error, channel := c.channel, log })
  | .started _ s _ => some (.ok s)

variable {codec : Codec} {config : SessionConfig}

/-- Left to itself, a start takes four steps and does what `Session.start` does. -/
theorem run_alone (codec : Codec) (config : SessionConfig) (c : Connection) :
    ((fresh c).run codec config (List.replicate 4 .proceed)).result =
      some ((start codec c.channel config c.time).map (·.receiving c.inbound c.inboundOpen)) := by
  rw [start]
  cases created : Router.create codec config .connecting (c.time * 1000000) with
  | error error => simp [run, fresh, step, Connection.proceed, created, result, Except.map]
  | ok router =>
      cases sent : c.channel.send (ControlSender.frame (senderOf config).hello) with
      | mk answer channel =>
          cases answer <;>
            simp [run, fresh, step, Connection.proceed, created, sent, result, Except.map]

/-! ## How long a start takes

A start has no loop, so its stages can be counted down. The others cannot hold it up. -/

def left : Attempt → Nat
  | .opening _ stage => stage.left
  | .failed .. | .started .. => 0

theorem left_eq_zero {a : Attempt} (h : a.left = 0) : a.result ≠ none := by
  cases a with
  | opening c stage => cases stage <;> cases h
  | failed c error log => exact Option.some_ne_none _
  | started c s w => exact Option.some_ne_none _

theorem left_proceed (a : Attempt) : (a.step codec config .proceed).left ≤ a.left - 1 := by
  cases a with
  | failed c error log => exact Nat.le_refl _
  | started c s w => exact Nat.le_refl _
  | opening c stage =>
      cases stage with
      | begun =>
          simp only [step, Connection.proceed]
          split <;> simp [left, StartStage.left]
      | checked router =>
          simp only [step, Connection.proceed]
          split <;> simp [left, StartStage.left]
      | greeted router => exact Nat.le_refl _
      | published router => exact Nat.le_refl _
      | failing error log => exact Nat.le_refl _

/-- What happens to the connection does not hold a start up. -/
theorem left_happen (a : Attempt) (e : Step ⊕ Loop.Step) :
    (a.step codec config (.happen e)).left = a.left := by
  cases a <;> rfl

theorem left_run (a : Attempt) (moves : List Move) :
    (a.run codec config moves).left ≤ a.left - moves.count .proceed := by
  induction moves using List.reverseRecOn with
  | nil => exact Nat.le_refl _
  | append_singleton moves m ih =>
      rw [run_concat, List.count_append]
      cases m with
      | happen e =>
          rw [left_happen]
          simpa using ih
      | proceed =>
          have next : ((a.run codec config moves).step codec config .proceed).left ≤
              (a.run codec config moves).left - 1 := left_proceed _
          have one : [Move.proceed].count .proceed = 1 := rfl
          omega

end Attempt

/-! ## What a start leaves behind

The two ends, and the way there. A connection that was given up stays so, and a session that was
given back goes on as any session; this takes the statement from the end of the start to any time
later. -/

/-- Why a start fails, with what came of the greeting. -/
inductive Reason (config : SessionConfig) :
    SessionError → Option (Except SendError Unit) → Prop where
  /-- There is no decoder for the output format. No greeting is sent. -/
  | unsupported
      (h : ¬ AudioFormat.Supported config.outputSampleRate config.outputChannels) :
      Reason config
        (.decoder (.unsupportedFormat config.outputSampleRate config.outputChannels)) none
  /-- The output format is supported, but the channel does not take the greeting. -/
  | refused (h : AudioFormat.Supported config.outputSampleRate config.outputChannels)
      (e : SendError) : Reason config (.send e) (some (.error e))

/-- A connection later on: `frames` are all that was sent on it, nothing was written, and the frames
that had come in still wait. -/
structure Connection.Used (c : Connection) (frames : List OutboundFrame)
    (greeting : Option (Except SendError Unit)) (c' : Connection) : Prop where
  accepted_eq : c'.channel.accepted = c.channel.accepted ++ frames
  greeting_eq : c'.greeting = greeting
  disk_eq : c'.disk = c.disk
  inbound_prefix : c.inbound <+: c'.inbound

namespace Connection

variable {c c' : Connection} {frames : List OutboundFrame}
  {greeting : Option (Except SendError Unit)}

theorem receive_used (c : Connection) (e : Loop.Step) : c.Used [] c.greeting (c.receive e) := by
  have same : c.Used [] c.greeting c := ⟨(List.append_nil _).symm, rfl, rfl, List.prefix_rfl⟩
  cases e with
  | deliver f =>
      rw [receive]
      split
      · exact ⟨(List.append_nil _).symm, rfl, rfl, List.prefix_append _ _⟩
      · exact same
  | hangUp => exact ⟨(List.append_nil _).symm, rfl, rfl, List.prefix_rfl⟩
  | elapse milliseconds => exact ⟨(List.append_nil _).symm, rfl, rfl, List.prefix_rfl⟩
  | cancel | publishMark | dropMark | poll => exact same

/-- Nothing is sent and nothing is taken where only the start could do that. -/
theorem happen_used (c : Connection) (e : Step ⊕ Loop.Step) :
    c.Used [] c.greeting (c.happen e) := by
  have same : c.Used [] c.greeting c := ⟨(List.append_nil _).symm, rfl, rfl, List.prefix_rfl⟩
  cases e with
  | inr e => exact c.receive_used e
  | inl s =>
      cases s with
      | loop e => exact c.receive_used e.step
      | closeTransport | peerHangUp | peerReturns =>
          exact ⟨(List.append_nil _).symm, rfl, rfl, List.prefix_rfl⟩
      | request | direct | stream | streamNext | takeEvents | giveUp => exact same

theorem Used.happen (h : c.Used frames greeting c') (e : Step ⊕ Loop.Step) :
    c.Used frames greeting (c'.happen e) := by
  have used := c'.happen_used e
  exact
    { accepted_eq := by rw [used.accepted_eq, h.accepted_eq, List.append_nil]
      greeting_eq := used.greeting_eq.trans h.greeting_eq
      disk_eq := used.disk_eq.trans h.disk_eq
      inbound_prefix := h.inbound_prefix.trans used.inbound_prefix }

/-- The greeting is sent, and what comes of it is written down. -/
theorem Used.greet (h : c.Used [] none c') (frame : OutboundFrame) :
    let sent := c'.channel.send frame
    c.Used (if sent.1.isOk then [frame] else []) (some sent.1)
      { c' with channel := sent.2, greeting := some sent.1 } where
  accepted_eq := by rw [Channel.send_accepted, h.accepted_eq, List.append_nil]
  greeting_eq := rfl
  disk_eq := h.disk_eq
  inbound_prefix := h.inbound_prefix

/-- A connection that was given up: both of its sides are closed. -/
structure GivenUp (c : Connection) : Prop where
  closed : c.channel.closed = true
  shut : c.inboundOpen = false

/-- A connection stays given up, and nothing comes in any more. -/
theorem GivenUp.happen (h : c.GivenUp) (e : Step ⊕ Loop.Step) :
    (c.happen e).GivenUp ∧ (c.happen e).inbound = c.inbound := by
  have received (e : Loop.Step) : (c.receive e).GivenUp ∧ (c.receive e).inbound = c.inbound := by
    cases e with
    | deliver f =>
        rw [receive, if_neg (by simp [h.shut])]
        exact ⟨h, rfl⟩
    | hangUp => exact ⟨⟨h.closed, rfl⟩, rfl⟩
    | elapse milliseconds => exact ⟨⟨h.closed, h.shut⟩, rfl⟩
    | cancel | publishMark | dropMark | poll => exact ⟨h, rfl⟩
  cases e with
  | inr e => exact received e
  | inl s =>
      cases s with
      | loop e => exact received e.step
      | closeTransport => exact ⟨⟨rfl, h.shut⟩, rfl⟩
      | peerHangUp | peerReturns => exact ⟨⟨h.closed, h.shut⟩, rfl⟩
      | request | direct | stream | streamNext | takeEvents | giveUp => exact ⟨h, rfl⟩

end Connection

/-- A session as a start gives it back: it has greeted, and every frame that has come in is still
there for the receive loop. -/
structure Given (config : SessionConfig) (c : Connection) (s : Session) : Prop where
  supported : AudioFormat.Supported config.outputSampleRate config.outputChannels
  accepted_eq : s.channel.accepted = c.channel.accepted
  statePart_eq : s.loop.router.statePart = .ofCourse 0 false
  queue_eq : s.loop.queue = c.inbound

/-- What is true of a start on a connection, stage by stage. -/
inductive Attempt.Sound (codec : Codec) (config : SessionConfig) (c : Connection) :
    Attempt → Prop where
  | begun {c'} (used : c.Used [] none c') : Sound codec config c (.opening c' .begun)
  | checked {c' router now} (used : c.Used [] none c')
      (created : Router.create codec config .connecting now = .ok router) :
      Sound codec config c (.opening c' (.checked router))
  | greeted {c' router now}
      (used : c.Used [ControlSender.frame (senderOf config).hello] (some (.ok ())) c')
      (created : Router.create codec config .connecting now = .ok router) :
      Sound codec config c (.opening c' (.greeted router))
  | published {c' router now}
      (used : c.Used [ControlSender.frame (senderOf config).hello] (some (.ok ())) c')
      (created : Router.create codec config .connecting now = .ok router) :
      Sound codec config c (.opening c' (.published (router.transition .helloSent)))
  | failing {c' error log greeting} (used : c.Used [] greeting c')
      (reason : Reason config error greeting) :
      Sound codec config c (.opening c' (.failing error log))
  | failed {c' error log greeting} (used : c.Used [] greeting c')
      (reason : Reason config error greeting) (givenUp : c'.GivenUp) :
      Sound codec config c (.failed c' error log)
  | started {c' s w}
      (used : c.Used [ControlSender.frame (senderOf config).hello] (some (.ok ())) c')
      (given : Given config c' s) (charted : w.view.Charted)
      (grown : s.loop.router.report.states <+: w.session.loop.router.report.states) :
      Sound codec config c (.started c' s w)

namespace Attempt

variable {codec : Codec} {config : SessionConfig} {c : Connection} {a : Attempt}

theorem fresh_sound (codec : Codec) (config : SessionConfig) (c : Connection) :
    (fresh c).Sound codec config c :=
  .begun ⟨(List.append_nil _).symm, rfl, rfl, List.prefix_rfl⟩

theorem Sound.happen (h : a.Sound codec config c) (e : Step ⊕ Loop.Step) :
    (a.step codec config (.happen e)).Sound codec config c := by
  cases h with
  | begun used => exact .begun (used.happen e)
  | checked used created => exact .checked (used.happen e) created
  | greeted used created => exact .greeted (used.happen e) created
  | published used created => exact .published (used.happen e) created
  | failing used reason => exact .failing (used.happen e) reason
  | failed used reason givenUp => exact .failed (used.happen e) reason (givenUp.happen e).1
  | started used given charted grown =>
      obtain ⟨charted', grown'⟩ := Watched.charted_happen charted e
      exact .started used given charted' (grown.trans grown')

theorem Sound.proceed (h : a.Sound codec config c) :
    (a.step codec config .proceed).Sound codec config c := by
  cases h with
  | failed used reason givenUp => exact .failed used reason givenUp
  | started used given charted grown => exact .started used given charted grown
  | @begun c' used =>
      simp only [step, Connection.proceed]
      cases created : Router.create codec config .connecting (c'.time * 1000000) with
      | ok router => exact .checked used created
      | error error =>
          obtain ⟨unsupported, rfl⟩ := Router.create_eq_error created
          exact .failing used (.unsupported unsupported)
  | @checked c' router now used created =>
      -- the one frame that a start sends
      have greeted := used.greet (ControlSender.frame (senderOf config).hello)
      simp only [step, Connection.proceed]
      cases sent : c'.channel.send (ControlSender.frame (senderOf config).hello) with
      | mk answer channel =>
          rw [sent] at greeted
          cases answer with
          | ok u => exact .greeted greeted created
          | error e => exact .failing greeted (.refused (Router.create_eq_ok created).1 e)
  | greeted used created => exact .published used created
  | published used created =>
      obtain ⟨supported, chart⟩ := Router.create_eq_ok created
      have opened := Router.statePart_opened chart
      refine .started used ⟨supported, rfl, opened _, rfl⟩ ⟨opened _, ?_, rfl, ?_⟩ List.prefix_rfl
      · intro report given
        cases given
      · intro f handled
        cases handled
  | failing used reason =>
      exact .failed ⟨used.accepted_eq, used.greeting_eq, used.disk_eq, used.inbound_prefix⟩ reason
        ⟨rfl, rfl⟩

theorem Sound.run (h : a.Sound codec config c) (moves : List Move) :
    (a.run codec config moves).Sound codec config c := by
  induction moves using List.reverseRecOn with
  | nil => exact h
  | append_singleton moves m ih =>
      rw [run_concat]
      cases m with
      | proceed => exact ih.proceed
      | happen e => exact ih.happen e

/-- A start that has failed stays so, and nobody takes the frames that had come in. -/
theorem failed_run (codec : Codec) (config : SessionConfig) {error : SessionError}
    {log : List LogEntry} (givenUp : c.GivenUp) (later : List Move) :
    ∃ c', (failed c error log).run codec config later = .failed c' error log ∧ c'.GivenUp ∧
      c'.inbound = c.inbound := by
  induction later using List.reverseRecOn with
  | nil => exact ⟨c, rfl, givenUp, rfl⟩
  | append_singleton later m ih =>
      obtain ⟨c', hrun, givenUp', inbound⟩ := ih
      rw [run_concat, hrun]
      cases m with
      | proceed => exact ⟨c', rfl, givenUp', inbound⟩
      | happen e =>
          obtain ⟨still, same⟩ := givenUp'.happen e
          exact ⟨c'.happen e, rfl, still, same.trans inbound⟩

/-- A session that was given back goes on. -/
theorem started_run (codec : Codec) (config : SessionConfig) (c : Connection) (s : Session)
    (w : Watched) (later : List Move) :
    ∃ w', (started c s w).run codec config later = .started c s w' := by
  induction later using List.reverseRecOn with
  | nil => exact ⟨w, rfl⟩
  | append_singleton later m ih =>
      obtain ⟨w', hrun⟩ := ih
      rw [run_concat, hrun]
      cases m with
      | proceed => exact ⟨w', rfl⟩
      | happen e => exact ⟨w'.happen e, rfl⟩

/-- What a failed start leaves behind: nothing has been sent or written, nothing can be sent, and
the frames are where they were. -/
theorem Sound.failed_later {c' : Connection} {error : SessionError} {log : List LogEntry}
    (h : Sound codec config c (.failed c' error log)) (later : List Move) :
    ∃ c'', (Attempt.failed c' error log).run codec config later = .failed c'' error log ∧
      c''.channel.accepted = c.channel.accepted ∧
      (∀ frame, c''.channel.send frame = (.error .closed, c''.channel)) ∧
      c''.inbound = c'.inbound ∧ c''.disk = c.disk := by
  have whole := h.run later
  cases h with
  | failed used reason givenUp =>
      obtain ⟨c'', hrun, givenUp', inbound⟩ := failed_run codec config givenUp later
      rw [hrun] at whole
      cases whole with
      | failed used' _ _ =>
          have accepted := used'.accepted_eq.trans (List.append_nil _)
          exact ⟨c'', hrun, accepted, Channel.send_of_closed givenUp'.closed, inbound,
            used'.disk_eq⟩

/-- What a start that has succeeded leads to: the greeting is what is published until the receive
loop takes a frame or ends. -/
theorem Sound.started_later {c' : Connection} {s : Session} {w : Watched}
    (h : Sound codec config c (.started c' s w)) (later : List Move) :
    ∃ w', (Attempt.started c' s w).run codec config later = .started c' s w' ∧
      [.connecting, .helloSent] <+: w'.session.loop.router.report.states ∧
      (w'.handled = [] → w'.session.loop.ended = false → w'.session.state = .helloSent) := by
  obtain ⟨w', hrun⟩ := started_run codec config c' s w later
  have whole := h.run later
  rw [hrun] at whole
  cases whole with
  | started used given charted grown =>
      have states : s.loop.router.report.states = [.connecting, .helloSent] :=
        congrArg Router.StatePart.states given.statePart_eq
      refine ⟨w', hrun, states ▸ grown, fun nothing live => ?_⟩
      have chart : w'.session.state = _ := congrArg Router.StatePart.state charted.statePart_eq
      rw [chart]
      show (Router.StatePart.ofCourse w'.handled.length w'.session.loop.ended).state = _
      rw [nothing, live]
      rfl

end Attempt

/-- **A start is all or nothing.** Whatever else happens meanwhile, a start comes to an end. If it
fails, the output format is not supported, or it is and the channel did not take the greeting: the
peer has been sent nothing, nobody takes the frames that have come in, nothing is written, and
whatever is sent on the channel later is told that it is closed. If it succeeds, the peer has been
sent the greeting and nothing else, all frames that have come in are there for the receive loop, and
until it takes the first of them the state says that the session has greeted. -/
theorem start_all_or_nothing (codec : Codec) (config : SessionConfig) (c : Connection)
    (moves : List Attempt.Move) :
    let supported := AudioFormat.Supported config.outputSampleRate config.outputChannels
    let unsupported : SessionError :=
      .decoder (.unsupportedFormat config.outputSampleRate config.outputChannels)
    let hello := ControlSender.frame (senderOf config).hello
    let run := Attempt.run codec config
    let a := run (.fresh c) moves
    -- left to itself, it is `start`
    ((run (.fresh c) (List.replicate 4 .proceed)).result =
        some ((start codec c.channel config c.time).map (·.receiving c.inbound c.inboundOpen)) ∧
      ((∃ log, start codec c.channel config c.time =
        .error ⟨unsupported, c.channel.close, log⟩) ↔ ¬ supported) ∧
      ((∃ log, start codec c.channel config c.time =
        .error ⟨.send .closed, c.channel.close, log⟩) ↔
          supported ∧ (c.channel.closed ∨ ¬ c.channel.peerListens))) ∧
    (4 ≤ moves.count .proceed → a.result ≠ none) ∧
    (∀ failure, a.result = some (.error failure) →
      Reason config failure.error a.connection.greeting ∧
      ∀ later, ∃ c', run a later = .failed c' failure.error failure.log ∧
        c'.channel.accepted = c.channel.accepted ∧
        (∀ frame, c'.channel.send frame = (.error .closed, c'.channel)) ∧
        c.inbound <+: a.connection.inbound ∧ c'.inbound = a.connection.inbound ∧
        c'.disk = c.disk) ∧
    ∀ s, a.result = some (.ok s) →
      (supported ∧ a.connection.greeting = some (.ok ())) ∧
      s.channel.accepted = c.channel.accepted ++ [hello] ∧
      (∃ text, hello = .text text ∧
        ClientMessage.parse text = .ok (.greeting config.deviceId config.audioParams)) ∧
      (c.inbound <+: a.connection.inbound ∧ s.loop.queue = a.connection.inbound) ∧
      s.state = .helloSent ∧
      ∀ later, ∃ w, run a later = .started a.connection s w ∧
        [.connecting, .helloSent] <+: w.session.loop.router.report.states ∧
        (w.handled = [] → w.session.loop.ended = false → w.session.state = .helloSent) := by
  intro supported unsupported hello run a
  have sound : a.Sound codec config c := (Attempt.fresh_sound codec config c).run moves
  refine ⟨⟨Attempt.run_alone codec config c, start_unsupported_iff, start_refused_iff⟩, ?_, ?_, ?_⟩
  · intro often
    apply Attempt.left_eq_zero
    have bound : a.left ≤ 4 - moves.count .proceed := Attempt.left_run _ moves
    omega
  · intro failure hresult
    generalize a = b at sound hresult
    have behind := sound
    cases sound with
    | failed used reason givenUp =>
        cases hresult
        refine ⟨used.greeting_eq ▸ reason, fun later => ?_⟩
        obtain ⟨c', hrun, accepted, refused, inbound, disk⟩ := behind.failed_later later
        exact ⟨c', hrun, accepted, refused, used.inbound_prefix, inbound, disk⟩
    | _ => cases hresult
  · intro s hresult
    generalize a = b at sound hresult
    have behind := sound
    cases sound with
    | started used given charted grown =>
        cases hresult
        refine ⟨⟨given.supported, used.greeting_eq⟩, ?_, ⟨_, rfl, ClientMessage.parse_text _⟩,
          ⟨used.inbound_prefix, given.queue_eq⟩, ?_, behind.started_later⟩
        · rw [given.accepted_eq, used.accepted_eq]
        · exact congrArg Router.StatePart.state given.statePart_eq
    | _ => cases hresult

/-- A frame has come in early. Where the peer hangs up before it is greeted, the frame stays where
it is; where it does not, the frame is there for the receive loop. -/
theorem start_all_or_nothing_early_frame :
    let c : Connection :=
      { channel := {}, disk := { tree := .empty, cwd := [] }, inbound := [.text "early"] }
    let run := Attempt.run .silent {}
    let refused := run (.fresh c)
      [.proceed, .happen (.inl .peerHangUp), .proceed, .proceed, .happen (.inr .poll), .proceed]
    let begun := run (.fresh c) (List.replicate 4 .proceed)
    (refused.result ≠ none ∧ ∃ failure, refused.result = some (.error failure) ∧
      failure.error = .send .closed ∧
      ∀ later, ∃ c', run refused later = .failed c' failure.error failure.log ∧
        c'.channel.accepted = [] ∧ c'.inbound = [.text "early"]) ∧
    ∃ s, begun.result = some (.ok s) ∧ s.channel.accepted.length = 1 ∧
      s.loop.queue = [.text "early"] ∧
      ∃ w, run begun [.happen (.inl .closeTransport)] = .started begun.connection s w ∧
        w.session.state = .helloSent := by
  intro c run refused begun
  obtain ⟨-, ends, failed, -⟩ := start_all_or_nothing .silent {} c
    [.proceed, .happen (.inl .peerHangUp), .proceed, .proceed, .happen (.inr .poll), .proceed]
  obtain ⟨-, -, -, started⟩ := start_all_or_nothing .silent {} c (List.replicate 4 .proceed)
  have refusedAt : ∃ failure, refused.result = some (.error failure) := ⟨_, rfl⟩
  have begunAt : ∃ s, begun.result = some (.ok s) := ⟨_, rfl⟩
  obtain ⟨failure, hfailure⟩ := refusedAt
  obtain ⟨s, hs⟩ := begunAt
  obtain ⟨-, rest⟩ := failed failure hfailure
  obtain ⟨-, accepted, -, ⟨-, queue⟩, -, goesOn⟩ := started s hs
  obtain ⟨w, hw, -, greeted⟩ := goesOn [.happen (.inl .closeTransport)]
  refine ⟨⟨ends (by decide), failure, hfailure, ?_, fun later => ?_⟩, s, hs, ?_, queue, w, hw, ?_⟩
  · cases hfailure
    rfl
  · obtain ⟨c', hrun, sent, -, -, inbound, -⟩ := rest later
    exact ⟨c', hrun, sent, inbound⟩
  · rw [accepted]
    rfl
  · obtain ⟨-, -, rfl⟩ := Attempt.started.inj hw
    exact greeted rfl rfl

end Session

end VoiceLink
