import VoiceLink.Proofs.Session.Pacing

/-!
# Beginnings and ends of listening

Before a recording the server is asked to listen, and behind it to stop. A call that comes back to
a session that is not cancelled has done both (`Session.streamRecording_brackets`), with one
exception: where the recording or the format cannot be used, the server has been asked to listen,
and nothing asks it to stop (`Session.streamRecording_unended`).

Both are proved by following the call through its stages. Where a call has got to decides what it
has sent, so the frames that ask for listening can be counted at its end.
-/

namespace VoiceLink

/-! ## What frames say about listening

The peer sees frames, and which of them ask for something. Frames of others may come in between, so
only those of the call are counted. -/

/-- Which state of listening a frame asks for. -/
def OutboundFrame.listenState? : OutboundFrame → Option ListenState
  | .text content =>
    match ClientMessage.parse content with
    | .ok (.listen _ state _ _) => some state
    | _ => none
  | .binary _ => none

/-- How many frames ask for a state of listening. -/
def listens (state : ListenState) (frames : List OutboundFrame) : Nat :=
  frames.countP fun f => f.listenState? == some state

variable {state : ListenState}

theorem listens_append (frames frames' : List OutboundFrame) :
    listens state (frames ++ frames') = listens state frames + listens state frames' :=
  List.countP_append

/-- Audio asks for nothing. -/
theorem listens_packets (packets : List Packet) : listens state (packets.map .binary) = 0 := by
  rw [listens, List.countP_eq_zero]
  intro f hf
  obtain ⟨p, -, rfl⟩ := List.mem_map.1 hf
  exact Bool.false_ne_true

theorem listens_message (deviceId : String) (state' : ListenState) (mode : Option ListenMode)
    (text : Option String) :
    listens state [ControlSender.frame (.listen deviceId state' mode text)] =
      if state' = state then 1 else 0 := by
  simp [listens, ControlSender.frame, OutboundFrame.listenState?, ClientMessage.parse_text]

namespace Session

namespace Streaming

/-! ## What a call leaves behind

When the session is not cancelled no send of the call has failed. Then there are only two ends to
it. -/

def received (c : Streaming) : List OutboundFrame :=
  (c.log.filter Sent.accepted).map fun x => x.outgoing.frame c.watched.session.config

/-- Without a failed send a call has found its recording useless, or has sent everything. -/
theorem Reached.settled {found : Option (Except StreamError (List Packet))} {log : List Sent}
    {result : Except StreamError Nat} (h : Reached found log (.done result))
    (sound : ¬ log.any Sent.isSessionFailure = true) :
    (∃ e, found = some (.error e) ∧ log = [.made (.request .listenStart)]) ∨
      ∃ packets, found = some (.ok packets) ∧ log = (sends packets).map .made := by
  have failed (o : Outgoing) (e : SendError) : (Sent.failed o e).isSessionFailure = true := rfl
  cases h with
  | refused e => exact absurd (by simp [failed]) sound
  | done packets result log h begun =>
      cases h with
      | refused e => cases begun
      | unusable e h => exact .inl ⟨e, congrArg some h, rfl⟩
      | cut before packet rest e h => exact absurd (by simp [failed]) sound
      | unended all e h => exact absurd (by simp [failed]) sound
      | whole all h => exact .inr ⟨all, congrArg some h, by simp [sends]⟩

variable {c : Streaming}

/-- What the peer has received from a call that has come back while the session goes on: the
beginning of listening alone, or everything. -/
theorem Follows.received_eq (hc : c.Follows) {result : Except StreamError Nat}
    (stage : c.stage = .done result) (live : c.watched.session.loop.cancelled = false) :
    (∃ e, c.found = some (.error e) ∧
        c.received = [(Outgoing.request .listenStart).frame c.watched.session.config]) ∨
      ∃ packets, c.found = some (.ok packets) ∧
        c.received = plan c.watched.session.config packets := by
  have reached := hc.reached
  rw [stage] at reached
  have sound : ¬ c.log.any Sent.isSessionFailure = true := fun failed =>
    Bool.false_ne_true (live.symm.trans (hc.cancelled failed))
  rcases reached.settled sound with ⟨e, found, log_eq⟩ | ⟨packets, found, log_eq⟩
  · refine .inl ⟨e, found, ?_⟩
    rw [received, log_eq]
    rfl
  · refine .inr ⟨packets, found, ?_⟩
    rw [received, log_eq, frames_made, map_frame_sends]

/-- A recording is played between a beginning and an end of listening. -/
theorem listens_plan (config : SessionConfig) (packets : List Packet) :
    listens .start (plan config packets) = 1 ∧ listens .stop (plan config packets) = 1 := by
  have split : plan config packets =
      [ControlSender.frame (.listen config.deviceId .start (some config.listenMode) none)] ++
        packets.map .binary ++
        [ControlSender.frame (.listen config.deviceId .stop (some config.listenMode) none)] := rfl
  rw [split]
  simp only [listens_append, listens_packets, listens_message]
  decide

end Streaming

/-- **Beginnings and ends of listening.** Streaming a recording is one run of a call that nobody
interferes with. Whatever else happens to the session, sends by others among it: when the call has
come back and the session is not cancelled, the peer has been asked once by the call to begin to
listen; and unless the recording or the format could not be used, it has been asked once to stop. If
they could not, it has not been asked. -/
theorem streamRecording_brackets (w : Watched) (path : String) (pace : Bool) :
    let call := Streaming.start w path pace
    (∃ moves, (∀ m ∈ moves, m.interferes = false) ∧
      let c := call.run moves
      (c.watched.session, c.watched.disk) = (w.session.streamRecording w.disk path pace).2 ∧
        c.stage = .done (w.session.streamRecording w.disk path pace).1) ∧
    ∀ moves result, (call.run moves).stage = .done result →
      (call.run moves).watched.session.loop.cancelled = false →
      let c := call.run moves
      let unusable := ∃ d, c.source = some d ∧
        w.session.sender.Refuses w.session.codec d path
      ((∀ m ∈ moves, m.interferes = false) →
        c.watched.session.channel.accepted = w.session.channel.accepted ++ c.received) ∧
        listens .start c.received = 1 ∧ (¬ unusable → listens .stop c.received = 1) ∧
        (unusable → listens .stop c.received = 0) := by
  intro call
  obtain ⟨moves, quiet, -, streamed⟩ := Streaming.exists_run w path pace
  refine ⟨⟨moves, quiet, streamed⟩, fun moves result stage live => ?_⟩
  intro c unusable
  have follows : c.Follows := Streaming.run_follows (Streaming.start_follows w path pace) moves
  refine ⟨Streaming.run_alone (Streaming.start_alone w path pace), ?_⟩
  have found : c.found =
      c.source.map fun d => w.session.sender.packets w.session.codec d path :=
    (call.run_same moves).found_eq_map
  rcases follows.received_eq stage live with ⟨e, error, received⟩ | ⟨packets, ok, received⟩
  · -- the recording was refused where it was found
    obtain ⟨d, source, refused⟩ := Option.map_eq_some_iff.1 (found.symm.trans error)
    have useless : unusable := ⟨d, source, ControlSender.packets_eq_error.1 ⟨e, refused⟩⟩
    rw [received]
    refine ⟨?_, fun usable => absurd useless usable, fun _ => ?_⟩
    · exact listens_message _ _ _ _
    · exact listens_message _ _ _ _
  · rw [received]
    obtain ⟨begins, ends⟩ := Streaming.listens_plan c.watched.session.config packets
    refine ⟨begins, fun _ => ends, fun ⟨d, source, refuses⟩ => ?_⟩
    -- what a call has read is not refused
    obtain ⟨e, refused⟩ := ControlSender.packets_eq_error.2 refuses
    rw [source, Option.map_some, refused] at found
    cases ok.symm.trans found

/-- A recording that is missing: the call fails, the session goes on, and the server has been asked
to listen. -/
theorem streamRecording_brackets_missing :
    ∃ s, Session.start .silent {} {} 0 = .ok s ∧
      let c := (Streaming.start (Watched.start s { tree := .empty, cwd := [] }) "a.wav" false).run
        [.go, .go]
      (∃ result, c.stage = .done result) ∧ c.watched.session.loop.cancelled = false ∧
        listens .start c.received = 1 ∧ listens .stop c.received = 0 := by
  have started : ∃ s, Session.start .silent {} {} 0 = .ok s := ⟨_, rfl⟩
  obtain ⟨s, started⟩ := started
  have went : ∃ d e,
      let c := (Streaming.start (Watched.start s { tree := .empty, cwd := [] }) "a.wav" false).run
        [.go, .go]
      c.source = some d ∧ Recording.load d "a.wav" = .error e ∧
        c.stage = .done (.error (.recording e)) ∧ c.watched.session.loop.cancelled = false := by
    cases started
    exact ⟨_, _, rfl, rfl, rfl, rfl⟩
  obtain ⟨d, e, source, missing, stage, live⟩ := went
  obtain ⟨-, left⟩ :=
    streamRecording_brackets (Watched.start s { tree := .empty, cwd := [] }) "a.wav" false
  obtain ⟨-, begins, -, ends⟩ := left [.go, .go] _ stage live
  exact ⟨s, started, ⟨_, stage⟩, live, begins, ends ⟨d, source, .inl ⟨e, missing⟩⟩⟩

/-- The server is left listening to a session that goes on: the recording is missing, the call comes
back with an error and the session is not cancelled, but nothing has asked the server to stop. -/
theorem streamRecording_unended :
    ∃ s, Session.start .silent {} {} 0 = .ok s ∧
      let called := s.streamRecording { tree := .empty, cwd := [] } "a.wav" false
      called.1.isOk = false ∧ called.2.1.loop.cancelled = false ∧
        ∃ frames, called.2.1.channel.accepted = s.channel.accepted ++ frames ∧
          listens .start frames = 1 ∧ listens .stop frames = 0 := by
  have started : ∃ s, Session.start .silent {} {} 0 = .ok s := ⟨_, rfl⟩
  obtain ⟨s, started⟩ := started
  refine ⟨s, started, ?_⟩
  cases started
  exact ⟨rfl, rfl, _, rfl, listens_message _ _ _ _, listens_message _ _ _ _⟩

end Session

end VoiceLink
