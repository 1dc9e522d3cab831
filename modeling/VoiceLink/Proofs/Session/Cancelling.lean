import VoiceLink.Proofs.Session.Accounting
import VoiceLink.Proofs.Session.Waiting

/-!
# Sends that end a session

A session is cancelled by its own sends when they fail, and by nothing else short of being ended.
Streaming a recording can fail in many ways, and only those behind which a send has failed count.
Once cancelled, the receive loop goes through one more round at most, and that one handles nothing.
`Session.run_cancelled` puts this together.

Cancelling is nothing but setting a token. The receive loop sees it at the beginning of a round, in
front of everything that waits in its queue. This is why a frame that was delivered before the
failure may still never be handled.
-/

namespace VoiceLink

/-! ## A cancelled loop

From the token on there is one thing left to do, and it may already have been done: the loop may
have ended for another reason before it came to look. -/

namespace Loop

/-- A report of a cancellation: what was received and written is what the loop had come to. -/
structure CancelledReport (l : Loop) (report : SessionReport) : Prop where
  closeReason_eq : report.closeReason = some .cancelled
  containers_eq : report.containers = l.router.report.containers
  framesReceived_eq : report.framesReceived = l.router.report.framesReceived

/-- What has become of a cancelled loop after some time: it may have ended, with a report that says
so; it has not handled anything. -/
structure Idle (l l' : Loop) : Prop where
  cancelled : l'.cancelled = true
  events_eq : l'.router.events = l.router.events
  containers_eq : l'.router.report.containers = l.router.report.containers
  framesReceived_eq : l'.router.report.framesReceived = l.router.report.framesReceived
  outcome : l'.outcome = l.outcome ∨
    (l.outcome = none ∧ ∃ report, l'.outcome = some (.ok report) ∧ l.CancelledReport report)

namespace Idle

variable {l l' l'' : Loop}

theorem refl (h : l.cancelled = true) : l.Idle l := ⟨h, rfl, rfl, rfl, .inl rfl⟩

theorem trans (h : l.Idle l') (h' : l'.Idle l'') : l.Idle l'' where
  cancelled := h'.cancelled
  events_eq := h'.events_eq.trans h.events_eq
  containers_eq := h'.containers_eq.trans h.containers_eq
  framesReceived_eq := h'.framesReceived_eq.trans h.framesReceived_eq
  outcome := by
    -- the loop ends in one of the two halves at most
    rcases h'.outcome with same | ⟨none, report, ended, rest⟩
    · exact same ▸ h.outcome
    · rcases h.outcome with same' | ⟨-, report', ended', -⟩
      · exact .inr ⟨same'.symm.trans none, report, ended, rest.closeReason_eq,
          rest.containers_eq.trans h.containers_eq,
          rest.framesReceived_eq.trans h.framesReceived_eq⟩
      · cases none.symm.trans ended'

end Idle

variable {l : Loop}

/-- A cancelled loop that is not at its end comes to it in the next round. -/
def lastRound (l : Loop) : Loop := if l.ended then l else l.arm.finish .cancelled

@[simp]
theorem lastRound_ended : l.lastRound.ended = true := by
  unfold lastRound
  split
  · assumption
  · rfl

theorem poll_of_cancelled (h : l.cancelled = true) (d : Disk) : l.poll d = (l.lastRound, d) := by
  cases hended : l.ended with
  | true => rw [poll_of_ended hended, lastRound, if_pos hended]
  | false =>
      rw [poll_of_stop hended (round_of_cancelled (l.arm_cancelled.trans h)), lastRound,
        if_neg (by simp [hended])]

theorem settle_of_cancelled (h : l.cancelled = true) (d : Disk) :
    l.settle d = (l.lastRound, d) := by
  rw [settle, polls_succ, poll_of_cancelled h, polls_of_ended lastRound_ended]

theorem idle_lastRound (h : l.cancelled = true) : l.Idle l.lastRound := by
  unfold lastRound
  split
  · exact .refl h
  · next running =>
    have audio : (l.arm.router.close .cancelled).audioPart = l.router.audioPart.dropTurn := by
      rw [Router.audioPart_close, arm_router]
    have control : (l.arm.router.close .cancelled).controlPart = l.router.controlPart := by
      rw [Router.controlPart_close, arm_router]
    have events := congrArg Router.AudioPart.events audio
    have containers := congrArg Router.AudioPart.containers audio
    have framesReceived := congrArg Router.ControlPart.framesReceived control
    refine ⟨l.arm_cancelled.trans h, events, containers, framesReceived, .inr ⟨?_, ?_⟩⟩
    · simpa [ended] using running
    · exact ⟨_, rfl, rfl, containers, framesReceived⟩

/-- Whatever happens to a cancelled loop, it handles nothing. -/
theorem Watched.idle_step {w : Watched} (h : w.loop.cancelled = true) (s : Step) :
    w.loop.Idle (w.step s).loop ∧ (w.step s).handled = w.handled ∧ (w.step s).disk = w.disk := by
  obtain ⟨cancelled, handled⟩ := Watched.cancelled_step h s
  by_cases hs : s = .poll
  · subst hs
    have round := w.run_polls 1
    rw [polls_succ, poll_of_cancelled h] at round
    obtain ⟨loop, disk⟩ := Prod.mk.inj round
    refine ⟨?_, handled, disk⟩
    change (w.step .poll).loop = _ at loop
    rw [loop]
    exact idle_lastRound h
  · have outside := w.step_outside hs
    refine ⟨⟨cancelled, ?_, ?_, ?_, .inl outside.outcome_eq⟩, handled, outside.disk_eq⟩ <;>
      rw [outside.router_eq]

end Loop

/-! ## Which sends cancel

The sends of a session are in the log of the observer, those of a recording under its own. So
whether a session is cancelled can be read off the log. -/

/-- The send error behind what went wrong with a recording. -/
def StreamError.sendError? : StreamError → Option SendError
  | frame _ e => some e
  | control e => some e
  | _ => none

/-- Reading and encoding a recording sends nothing. -/
theorem ControlSender.packets_error {sender : ControlSender} {codec : Codec} {d : Disk}
    {path : String} {e : StreamError} (h : sender.packets codec d path = .error e) :
    e.sendError? = none := by
  unfold packets at h
  split at h
  · cases h
    rfl
  · dsimp only at h
    split at h
    · cases h
      rfl
    · split at h
      · cases h
        rfl
      · split at h
        · cases h
          rfl
        · cases h

namespace Session

namespace Watched

/-- A recording makes a send fail where its error has a send error behind it. -/
theorem Streamed.failure_iff {packets : Except StreamError (List Packet)}
    {result : Except StreamError Nat} {log : List Sent} (h : Streamed packets result log)
    (unsent : ∀ e, packets = .error e → e.sendError? = none) :
    log.any Sent.isSessionFailure = true ↔
      ∃ e, result = .error e ∧ e.sendError?.isSome = true := by
  have made (o : Outgoing) : (Sent.made o).isSessionFailure = false := rfl
  have failed (o : Outgoing) (e : SendError) : (Sent.failed o e).isSessionFailure = true := rfl
  cases h with
  | refused e => simp [failed, StreamError.sendError?]
  | unusable e h => simp [made, unsent e h]
  | cut done packet rest e h => simp [failed, StreamError.sendError?]
  | unended all e h => simp [failed, StreamError.sendError?]
  | whole all h => simp [made]

variable {w : Watched}

/-- The receive loop does not cancel itself. -/
theorem loop_cancelled (l : Loop.Watched) (e : LoopEvent) :
    (l.step e.step).loop.cancelled = l.loop.cancelled := by
  cases e with
  | hangUp => rfl
  | elapse milliseconds => rfl
  | deliver f =>
      simp only [LoopEvent.step, Loop.Watched.step, Loop.deliver]
      split <;> rfl
  | poll =>
      have polled := l.polled
      rw [LoopEvent.step]
      generalize l.step .poll = l' at polled ⊢
      cases polled with
      | ended hended => rfl
      | took live f round router same now mark => rfl
      | stopped live reason round => exact l.loop.arm_cancelled
      | waited live round => exact l.loop.arm_cancelled

/-- A send cancels where it is one of the session's and fails, and no other step does. -/
theorem cancelled_step (hw : w.session.loop.cancelled = w.sent.any Sent.isSessionFailure)
    (s : Step) :
    (w.step s).session.loop.cancelled = (w.step s).sent.any Sent.isSessionFailure := by
  have stepped := w.stepped s
  generalize w.step s = w' at stepped ⊢
  cases stepped with
  | loop e => exact (loop_cancelled w.view e).trans hw
  | quiet s beside cancelled accepted closed => exact cancelled.trans hw
  | sent x s streams sends cancelled =>
      show s.loop.cancelled = (w.sent ++ [x]).any Sent.isSessionFailure
      rw [cancelled, hw, List.any_append]
      simp

/-- A session is cancelled when one of its own sends has failed. -/
theorem cancelled_run (hw : w.session.loop.cancelled = w.sent.any Sent.isSessionFailure)
    (steps : List Step) :
    (w.run steps).session.loop.cancelled = (w.run steps).sent.any Sent.isSessionFailure := by
  induction steps using List.reverseRecOn with
  | nil => exact hw
  | append_singleton steps s ih =>
      rw [run_concat]
      exact cancelled_step ih s

/-! ## After a cancellation

Time may pass and sends may be tried; the loop stays where it was, but for its last round. -/

/-- Nothing has been handled and nothing has been written since. -/
structure Still (w w' : Watched) : Prop where
  idle : w.session.loop.Idle w'.session.loop
  handled_eq : w'.handled = w.handled
  disk_eq : w'.disk = w.disk

theorem Still.trans {w' w'' : Watched} (h : w.Still w') (h' : w'.Still w'') : w.Still w'' :=
  ⟨h.idle.trans h'.idle, h'.handled_eq.trans h.handled_eq, h'.disk_eq.trans h.disk_eq⟩

theorem idle_of_beside {s s' : Session} (h : s'.loop.cancelled = true) (beside : s.Beside s') :
    s.loop.Idle s'.loop where
  cancelled := h
  events_eq := beside.events_eq
  containers_eq := by rw [beside.report_eq]
  framesReceived_eq := by rw [beside.report_eq]
  outcome := .inl beside.outcome_eq

/-- A step of a session that is cancelled leaves everything but its end where it is. -/
theorem still_step (h : w.session.loop.cancelled = true) (s : Step) : w.Still (w.step s) := by
  have stepped := w.stepped s
  generalize w.step s = w' at stepped ⊢
  cases stepped with
  | sent x s streams sends cancelled =>
      have live : s.loop.cancelled = true := by rw [cancelled, h, Bool.true_or]
      exact ⟨idle_of_beside live sends.beside, rfl, rfl⟩
  | quiet s beside cancelled accepted closed =>
      exact ⟨idle_of_beside (cancelled.trans h) beside, rfl, rfl⟩
  | loop e =>
      obtain ⟨idle, handled, disk⟩ := Loop.Watched.idle_step (w := w.view) h e.step
      exact ⟨idle, handled, disk⟩

theorem still_run (h : w.session.loop.cancelled = true) (steps : List Step) :
    w.Still (w.run steps) := by
  induction steps using List.reverseRecOn with
  | nil => exact ⟨.refl h, rfl, rfl⟩
  | append_singleton steps s ih =>
      rw [run_concat]
      exact ih.trans (still_step ih.idle.cancelled s)

end Watched

/-- A receive loop that has ended lets time pass and does nothing else. -/
theorem sleep_of_ended {s : Session} (h : s.loop.ended = true) (d : Disk) (milliseconds : Nat) :
    s.sleep d milliseconds = ({ s with loop := s.loop.elapse milliseconds }, d) := by
  have settled : s.loop.settle d = (s.loop, d) := Loop.polls_of_ended h _
  have elapsed : (s.loop.elapse milliseconds).settle d = (s.loop.elapse milliseconds, d) :=
    Loop.polls_of_ended (l := s.loop.elapse milliseconds) h _
  rw [sleep, Loop.sleep, settled]
  dsimp only
  rw [elapsed]

/-- However a cancelled session is ended, its receive loop goes through its last round. -/
theorem conclude_of_cancelled {s : Session} (h : s.loop.cancelled = true) (d : Disk)
    (ending : Ending) :
    ∃ time, s.conclude d ending = (s.loop.lastRound.outcome.getD (.error .closed),
      { s with loop := { s.loop.lastRound with time }, channel := s.channel.close }, d) := by
  have settled : s.settle d = ({ s with loop := s.loop.lastRound }, d) := by
    rw [settle, Loop.settle_of_cancelled h]
  cases ending with
  | close =>
      -- it is cancelled once more, which changes nothing
      have terminated : s.terminate = s := by rw [terminate, Loop.cancel, ← h]
      rw [conclude, close, terminated, settled]
      exact ⟨_, rfl⟩
  | wait =>
      have ended : ({ s with loop := s.loop.lastRound } : Session).loop.ended = true :=
        Loop.lastRound_ended
      rw [conclude, wait, runOut, settled]
      dsimp only
      -- if there is a deadline left, time passes up to it, but the loop has ended
      split
      · rw [sleep_of_ended ended]
        exact ⟨_, rfl⟩
      · exact ⟨_, rfl⟩

/-- What a session that was cancelled gives back when it is ended: what its receive loop had come to
before, or a report of the cancellation. -/
def EndsCancelled (l : Loop) (result : Except SessionError SessionReport) : Prop :=
  match l.outcome with
  | some outcome => result = outcome
  | none => ∃ report, result = .ok report ∧ l.CancelledReport report

theorem endsCancelled_of_idle {l l' : Loop} (h : l.Idle l') (ended : l'.ended = true) :
    EndsCancelled l (l'.outcome.getD (.error .closed)) := by
  unfold EndsCancelled
  rcases h.outcome with same | ⟨none, report, outcome, rest⟩
  · rw [Loop.ended, same] at ended
    obtain ⟨outcome, some⟩ := Option.isSome_iff_exists.1 ended
    rw [same, some]
    rfl
  · rw [none, outcome]
    exact ⟨report, rfl, rest⟩

/-- **Failed sends.** In whatever order things happen to a session that was started: it is cancelled
when one of its own sends has failed, and only then. So streaming a recording cancels it when there
is a send error behind the error that comes back, and waiting for a container never does. From the
cancellation on no frame is handled, no container is written and the owner is told nothing, to the
end of the session; and however that comes about, the report says that the session was cancelled,
unless the receive loop had ended before. -/
theorem run_cancelled {codec : Codec} {channel : Channel} {c : SessionConfig} {time : Nat}
    {s : Session} (h : Session.start codec channel c time = .ok s) (d : Disk) (steps : List Step) :
    let w := (Watched.start s d).run steps
    (w.session.loop.cancelled = true ↔ ∃ x ∈ w.sent, x.isSessionFailure = true) ∧
      (∀ path pace, (w.session.streamRecording w.disk path pace).2.1.loop.cancelled = true ↔
        w.session.loop.cancelled = true ∨
          ∃ e, (w.session.streamRecording w.disk path pace).1 = .error e ∧
            e.sendError?.isSome = true) ∧
      (∀ timeout, (w.session.nextFlush w.disk timeout).2.1.loop.cancelled =
        w.session.loop.cancelled) ∧
      (w.session.loop.cancelled = true → ∀ later, w.Still (w.run later) ∧ ∀ ending,
        w.Still ((w.run later).conclude ending) ∧
          EndsCancelled w.session.loop
            ((w.run later).session.conclude (w.run later).disk ending).1) := by
  intro w
  have fresh : (Watched.start s d).session.loop.cancelled =
      (Watched.start s d).sent.any Sent.isSessionFailure := (start_eq_ok h).2.2
  have cancelled : w.session.loop.cancelled = w.sent.any Sent.isSessionFailure :=
    Watched.cancelled_run fresh steps
  refine ⟨by rw [cancelled, List.any_eq_true], ?_, ?_, ?_⟩
  · -- a recording is some steps more, and the same holds after these
    intro path pace
    obtain ⟨log, leads, streamed⟩ :=
      Watched.streamRecording_leads w.session w.disk path pace w.streams
    obtain ⟨more, session, -, -, sent⟩ := leads w rfl rfl rfl
    have after := Watched.cancelled_run cancelled more
    rw [session, sent, List.any_append, ← cancelled] at after
    rw [after, Bool.or_eq_true, streamed.failure_iff fun e => ControlSender.packets_error]
  · intro timeout
    obtain ⟨more, session, -, -, sent⟩ :=
      Watched.nextFlush_leads w.session w.disk timeout w rfl rfl rfl
    have after := Watched.cancelled_run cancelled more
    rw [session, sent, List.append_nil, ← cancelled] at after
    exact after
  · intro live later
    have still := Watched.still_run live later
    refine ⟨still, fun ending => ?_⟩
    obtain ⟨time, concluded⟩ :=
      conclude_of_cancelled still.idle.cancelled (w.run later).disk ending
    -- whatever is done to end it, the loop has one round left
    have idle := still.idle.trans (Loop.idle_lastRound still.idle.cancelled)
    rw [Watched.conclude, concluded]
    refine ⟨⟨?_, still.handled_eq, still.disk_eq⟩, endsCancelled_of_idle idle Loop.lastRound_ended⟩
    exact { idle with }

/-- The peer has hung up with a frame on its way: the request that fails leaves it where it is. -/
theorem run_cancelled_frame_queued :
    ∃ s, Session.start .silent {} {} 0 = .ok s ∧
      let w := (Watched.start s { tree := .empty, cwd := [] }).run
        [.loop (.deliver (.binary [])), .peerHangUp, .request .listenStart]
      w.session.loop.cancelled = true ∧ w.session.loop.queue = [.binary []] ∧
        (∀ later, (w.run later).handled = []) ∧
        ∃ report, (w.session.conclude w.disk .wait).1 = .ok report ∧
          report.closeReason = some .cancelled ∧ report.framesReceived = 0 := by
  have started : ∃ s, Session.start .silent {} {} 0 = .ok s := ⟨_, rfl⟩
  obtain ⟨s, started⟩ := started
  obtain ⟨-, -, -, after⟩ := run_cancelled started { tree := .empty, cwd := [] }
    [.loop (.deliver (.binary [])), .peerHangUp, .request .listenStart]
  refine ⟨s, started, ?_⟩
  cases started
  refine ⟨rfl, rfl, fun later => (after rfl later).1.handled_eq, ?_⟩
  obtain ⟨report, ended, cancelled⟩ := ((after rfl []).2 .wait).2
  exact ⟨report, ended, cancelled.closeReason_eq, cancelled.framesReceived_eq⟩

end Session

end VoiceLink
