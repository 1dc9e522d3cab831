import VoiceLink.Proofs.Message.Client
import VoiceLink.Proofs.Session.Waiting

/-!
# What the peer is sent

The frames that the peer accepts are those of the sends that came back with success, in the order of
the calls, behind the greeting of the start. Nothing else puts a frame on the channel, and nothing
does any more once the session has been concluded (`Session.run_accepted`).

Everything is read off the log of sends that a run keeps. For single requests that log is written by
the step itself; streaming a recording is many sends in one call, and that the session's own
`streamRecording` is a run whose log holds just these is part of the theorem
(`Watched.streamRecording_leads`).
-/

namespace VoiceLink

/-! ## Channels and frames

A channel that is closed accepts nothing. Before that, what it accepts is what was sent with
success. -/

namespace Channel

variable {c : Channel}

@[simp]
theorem send_accepted (c : Channel) (frame : OutboundFrame) :
    (c.send frame).2.accepted = c.accepted ++ if (c.send frame).1.isOk then [frame] else [] := by
  unfold send
  split
  · simp [Except.isOk, Except.toBool]
  · simp [Except.isOk, Except.toBool]

theorem send_of_closed (h : c.closed = true) (frame : OutboundFrame) :
    c.send frame = (.error .closed, c) := by
  rw [send, if_pos (.inl h)]

end Channel

namespace Session

/-- A frame carries what was to be sent: a message is read back from its text, a packet is as it
was. -/
inductive Outgoing.GoesAs (c : SessionConfig) : Outgoing → OutboundFrame → Prop where
  | request (q : Request) (text : String) (h : ClientMessage.parse text = .ok (q.message c)) :
      GoesAs c (.request q) (.text text)
  | message (m : ClientMessage) (text : String) (h : ClientMessage.parse text = .ok m) :
      GoesAs c (.message m) (.text text)
  | packet (p : Packet) : GoesAs c (.packet p) (.binary p)

theorem Outgoing.goesAs_frame (c : SessionConfig) (o : Outgoing) : o.GoesAs c (o.frame c) := by
  cases o with
  | request q => exact .request q _ (ClientMessage.parse_text _)
  | message m => exact .message m _ (ClientMessage.parse_text m)
  | packet p => exact .packet p

/-- What went out: the greeting, then every send that was accepted. -/
def Watched.outgoing (c : SessionConfig) (w : Watched) : List Outgoing :=
  .message (.greeting c.deviceId c.audioParams) :: (w.sent.filter Sent.accepted).map Sent.outgoing

namespace Watched

variable {c : SessionConfig} {accepted : List OutboundFrame} {w : Watched}

/-! ## While the session lasts

One invariant for the log and the channel: the frames are those of the log. -/

/-- The peer has been sent what went out, behind what it had accepted before. -/
structure Traced (c : SessionConfig) (accepted : List OutboundFrame) (w : Watched) : Prop where
  config_eq : w.session.config = c
  accepted_eq : w.session.channel.accepted = accepted ++ (w.outgoing c).map (Outgoing.frame c)

theorem start_traced {codec : Codec} {channel : Channel} {time : Nat} {s : Session}
    (h : Session.start codec channel c time = .ok s) (d : Disk) :
    (start s d).Traced c channel.accepted := by
  obtain ⟨greeted, config, -⟩ := start_eq_ok h
  refine ⟨config, ?_⟩
  show s.channel.accepted = _
  have accepted := channel.send_accepted (ControlSender.frame (senderOf c).hello)
  rw [greeted] at accepted
  exact accepted

/-- A step leaves what was accepted and what went out in agreement. -/
theorem Traced.step (hw : w.Traced c accepted) (s : Step) : (w.step s).Traced c accepted := by
  have stepped := w.stepped s
  generalize w.step s = w' at stepped ⊢
  cases stepped with
  | loop e => exact ⟨hw.config_eq, hw.accepted_eq⟩
  | quiet s beside cancelled same closed =>
      exact ⟨beside.config_eq.trans hw.config_eq, same.trans hw.accepted_eq⟩
  | sent x s streams sends cancelled =>
      -- the frame is accepted and the send counts, or neither
      refine ⟨sends.beside.config_eq.trans hw.config_eq, ?_⟩
      show s.channel.accepted = _
      rw [sends.channel_eq, Channel.send_accepted, ← sends.result_eq, hw.accepted_eq, hw.config_eq]
      cases accepted : x.result.isOk <;> simp [outgoing, Sent.accepted, accepted]

theorem Traced.run (hw : w.Traced c accepted) (steps : List Step) :
    (w.run steps).Traced c accepted := by
  induction steps using List.reverseRecOn with
  | nil => exact hw
  | append_singleton steps s ih =>
      rw [run_concat]
      exact ih.step s

/-- The receive loop does not touch the channel. -/
theorem run_loop_channel (w : Watched) (events : List LoopEvent) :
    (w.run (events.map .loop)).session.channel = w.session.channel := by
  rw [run_loop]
  rfl

/-! ## Once the channel is closed

Nobody opens it again. -/

/-- From one moment to another nothing was accepted, and whoever tried to send was told so. -/
def Silent (w w' : Watched) : Prop :=
  w'.session.channel.accepted = w.session.channel.accepted ∧
    ∃ log, w'.sent = w.sent ++ log ∧ ∀ x ∈ log, x.result = .error .closed

theorem closed_step (h : w.session.channel.closed = true) (s : Step) :
    (w.step s).session.channel.closed = true ∧ w.Silent (w.step s) := by
  have stepped := w.stepped s
  generalize w.step s = w' at stepped ⊢
  have none : ∃ log, w.sent = w.sent ++ log ∧ ∀ x ∈ log, x.result = .error .closed :=
    ⟨[], (List.append_nil _).symm, nofun⟩
  cases stepped with
  | loop e => exact ⟨h, rfl, none⟩
  | quiet s beside cancelled same closed => exact ⟨closed h, same, none⟩
  | sent x s streams sends cancelled =>
      have refused := Channel.send_of_closed h (x.outgoing.frame w.session.config)
      have channel : s.channel = w.session.channel := by rw [sends.channel_eq, refused]
      refine ⟨channel ▸ h, congrArg Channel.accepted channel, [x], rfl, ?_⟩
      intro y hy
      rw [List.mem_singleton.1 hy, sends.result_eq, refused]

theorem closed_run (h : w.session.channel.closed = true) (steps : List Step) :
    (w.run steps).session.channel.closed = true ∧ w.Silent (w.run steps) := by
  induction steps using List.reverseRecOn with
  | nil => exact ⟨h, rfl, [], (List.append_nil _).symm, nofun⟩
  | append_singleton steps s ih =>
      obtain ⟨closed, same, log, sent, refused⟩ := ih
      obtain ⟨closed', same', log', sent', refused'⟩ := closed_step closed s
      rw [run_concat]
      refine ⟨closed', same'.trans same, log ++ log', ?_, ?_⟩
      · rw [sent', sent, List.append_assoc]
      · intro x hx
        exact (List.mem_append.1 hx).elim (refused x) (refused' x)

end Watched

/-- However a session is ended, its channel is closed behind it. -/
theorem conclude_channel (s : Session) (d : Disk) (ending : Ending) :
    (s.conclude d ending).2.1.channel = s.channel.close := by
  cases ending with
  | close => rfl
  | wait =>
      show (s.runOut d).1.channel.close = _
      simp only [runOut]
      split <;> rfl

/-- **What the peer accepts.** Whatever the caller, the receive loop and the peer do to a session
that was started on a channel: what the peer accepts is the greeting and, one frame each and in
order, what those sends were for that came back with success. Streaming a recording is more steps of
such a run, and what it sends in them is what its result says. The receive loop sends nothing. When
the session has been ended, be it with a report or with an error, every send is told that the
channel is closed and nothing is accepted any more. -/
theorem run_accepted {codec : Codec} {channel : Channel} {c : SessionConfig} {time : Nat}
    {s : Session} (h : Session.start codec channel c time = .ok s) (d : Disk) (steps : List Step) :
    let w := (Watched.start s d).run steps
    (∃ frames, w.session.channel.accepted = channel.accepted ++ frames ∧
      List.Forall₂ (Outgoing.GoesAs c) (w.outgoing c) frames) ∧
      (∀ path pace, ∃ log more,
        let streamed := w.session.streamRecording w.disk path pace
        Watched.Streamed (w.session.sender.packets w.session.codec w.disk path) streamed.1 log ∧
          (w.run more).session = streamed.2.1 ∧ (w.run more).disk = streamed.2.2 ∧
          (w.run more).sent = w.sent ++ log) ∧
      (∀ events : List LoopEvent,
        (w.run (events.map .loop)).session.channel = w.session.channel) ∧
      ∀ ending later, w.Silent ((w.conclude ending).run later) := by
  intro w
  have traced := (Watched.start_traced h d).run steps
  refine ⟨⟨_, traced.accepted_eq, ?_⟩, ?_, w.run_loop_channel, ?_⟩
  · rw [List.forall₂_map_right_iff]
    exact List.forall₂_same.2 fun o _ => o.goesAs_frame c
  · intro path pace
    obtain ⟨log, leads, streamed⟩ :=
      Watched.streamRecording_leads w.session w.disk path pace w.streams
    obtain ⟨more, session, disk, -, sent⟩ := leads w rfl rfl rfl
    exact ⟨log, more, streamed, session, disk, sent⟩
  · intro ending later
    have channel := conclude_channel w.session w.disk ending
    have closed : (w.conclude ending).session.channel.closed = true := by
      rw [Watched.conclude, channel]
      rfl
    obtain ⟨-, same, log, sent, refused⟩ := Watched.closed_run closed later
    refine ⟨same.trans ?_, log, sent, refused⟩
    rw [Watched.conclude, channel]
    rfl

/-- The peer hangs up between two sends: the second is refused, and so is what is sent behind the
end. -/
theorem run_accepted_peer_hung_up :
    ∃ s, Session.start .silent {} {} 0 = .ok s ∧
      let w := (Watched.start s { tree := .empty, cwd := [] }).run
        [.request .listenStart, .loop (.deliver .closed), .direct (.packet [1]), .peerHangUp,
          .request .listenStop]
      (∃ frames, w.session.channel.accepted = frames ∧
        List.Forall₂ (Outgoing.GoesAs {})
          [.message (.greeting "test-device-001" (.opus 16000 1 60)), .request .listenStart,
            .packet [1]] frames) ∧
        w.Silent ((w.conclude .wait).run [.direct (.packet [2])]) := by
  have started : ∃ s, Session.start .silent {} {} 0 = .ok s := ⟨_, rfl⟩
  obtain ⟨s, started⟩ := started
  obtain ⟨⟨frames, accepted, carried⟩, -, -, silent⟩ :=
    run_accepted started { tree := .empty, cwd := [] }
      [.request .listenStart, .loop (.deliver .closed), .direct (.packet [1]), .peerHangUp,
        .request .listenStop]
  refine ⟨s, started, ⟨frames, accepted, ?_⟩, silent .wait _⟩
  cases started
  exact carried

end Session

end VoiceLink
