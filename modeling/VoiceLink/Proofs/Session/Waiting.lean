import VoiceLink.Proofs.Session.Calls

/-!
# Operations that wait

Waiting for a container and streaming a recording take time, and the receive loop goes on meanwhile.
Both are runs of the steps that cannot be interrupted (`Watched.Leads`), so what is proved of runs
holds of them too: `Watched.nextFlush_leads` for a container, and `Watched.streamRecording_leads`
for a recording, with what is sent for it.

The functions run by recursion on what is left to wait for or to send, and so do these proofs. Where
a function goes on, its run is put behind the run so far (`Leads.trans`).
-/

namespace VoiceLink

namespace Session

namespace Watched

/-! ## Runs of steps

A run is known by where it starts and ends and by what it sends. From which state of the observer it
starts does not matter. -/

/-- Wherever a run has come to a session and a disk `p` with what is left of the recordings, some
more steps come to `p'`; on the way `log` is sent. -/
def Leads (p : Session × Disk) (streams : List (List Packet)) (log : List Sent)
    (p' : Session × Disk) (streams' : List (List Packet)) : Prop :=
  ∀ w : Watched, w.session = p.1 → w.disk = p.2 → w.streams = streams →
    ∃ steps, (w.run steps).session = p'.1 ∧ (w.run steps).disk = p'.2 ∧
      (w.run steps).streams = streams' ∧ (w.run steps).sent = w.sent ++ log

variable {p p' p'' : Session × Disk} {streams streams' streams'' : List (List Packet)}
  {log log' : List Sent}

theorem Leads.refl (p : Session × Disk) (streams : List (List Packet)) :
    Leads p streams [] p streams :=
  fun _ session disk left => ⟨[], session, disk, left, (List.append_nil _).symm⟩

theorem Leads.trans (h : Leads p streams log p' streams')
    (h' : Leads p' streams' log' p'' streams'') :
    Leads p streams (log ++ log') p'' streams'' := by
  intro w session disk left
  obtain ⟨steps, session, disk, left, sent⟩ := h w session disk left
  obtain ⟨later, session, disk, left, sent'⟩ := h' _ session disk left
  refine ⟨steps ++ later, ?_⟩
  rw [run_append]
  exact ⟨session, disk, left, by rw [sent', sent, List.append_assoc]⟩

/-- Settling is going through a round for every frame that is queued, and one to wait. -/
theorem run_rounds (w : Watched) :
    let rounds := List.replicate (w.session.loop.queue.length + 1) LoopEvent.poll
    (w.run (rounds.map .loop)).session = (w.session.settle w.disk).1 ∧
      (w.run (rounds.map .loop)).disk = (w.session.settle w.disk).2 ∧
      (w.run (rounds.map .loop)).streams = w.streams ∧
      (w.run (rounds.map .loop)).sent = w.sent := by
  intro rounds
  have settled := w.view.run_polls (w.session.loop.queue.length + 1)
  rw [run_loop, List.map_replicate, LoopEvent.step]
  generalize w.view.run (List.replicate (w.session.loop.queue.length + 1) .poll) = l at settled
  have loop : w.session.loop.settle w.disk = (l.loop, l.disk) := settled.symm
  simp only [settle, loop, withView, and_self]

/-- Settling is a run of rounds. -/
theorem run_settle (w : Watched) :
    ∃ events : List LoopEvent,
      (w.run (events.map .loop)).session = (w.session.settle w.disk).1 ∧
      (w.run (events.map .loop)).disk = (w.session.settle w.disk).2 ∧
      (w.run (events.map .loop)).streams = w.streams ∧
      (w.run (events.map .loop)).sent = w.sent :=
  ⟨_, w.run_rounds⟩

theorem settle_leads (s : Session) (d : Disk) : Leads (s, d) streams [] (s.settle d) streams := by
  rintro w rfl rfl left
  obtain ⟨events, session, disk, streams, sent⟩ := w.run_settle
  refine ⟨events.map .loop, session, disk, streams.trans left, ?_⟩
  rw [sent, List.append_nil]

theorem elapse_leads (s : Session) (d : Disk) (milliseconds : Nat) :
    Leads (s, d) streams [] ({ s with loop := s.loop.elapse milliseconds }, d) streams := by
  rintro w rfl rfl left
  exact ⟨[.loop (.elapse milliseconds)], rfl, rfl, left, (List.append_nil _).symm⟩

theorem sleep_leads (s : Session) (d : Disk) (milliseconds : Nat) :
    Leads (s, d) streams [] (s.sleep d milliseconds) streams :=
  ((settle_leads s d).trans (elapse_leads _ _ milliseconds)).trans (settle_leads _ _)

theorem pause_leads (pace : Bool) (milliseconds : Nat) (p : Session × Disk) :
    Leads p streams [] (pause pace milliseconds p) streams := by
  cases pace with
  | true => exact sleep_leads p.1 p.2 milliseconds
  | false => exact .refl p streams

theorem takeEvents_leads (s : Session) (d : Disk) :
    Leads (s, d) streams [] ((s.takeEvents s.pending).2, d) streams := by
  rintro w rfl rfl left
  exact ⟨[.takeEvents], rfl, rfl, left, (List.append_nil _).symm⟩

theorem giveUp_leads (s : Session) (d : Disk) (milliseconds : Nat) :
    Leads (s, d) streams []
      (s.note .warn ("No flushed response within " ++ DurationText.ofMilliseconds milliseconds), d)
      streams := by
  rintro w rfl rfl left
  exact ⟨[.giveUp milliseconds], rfl, rfl, left, (List.append_nil _).symm⟩

/-! ## Waiting for a container

While the caller waits, the loop settles and time passes, and neither sends anything. -/

theorem waitIdle_leads (s : Session) (d : Disk) (timeout : Nat) :
    Leads (s, d) streams [] (s.waitIdle d timeout).2 streams := by
  unfold waitIdle
  dsimp only
  split
  · exact .refl _ _
  · split
    · exact (sleep_leads s d _).trans (takeEvents_leads _ _)
    · exact (elapse_leads s d timeout).trans (giveUp_leads _ _ timeout)

/-- Waiting for a container is taking events and, where that is not enough, letting the receive loop
go on and then time pass; then either events are taken again, or the caller gives up. -/
theorem nextFlush_leads (s : Session) (d : Disk) (timeout : Nat) :
    Leads (s, d) streams [] (s.nextFlush d timeout).2 streams := by
  have taken : Leads (s, d) streams [] ((s.takeEvents s.pending).2, d) streams :=
    takeEvents_leads s d
  unfold nextFlush
  generalize s.takeEvents s.pending = first at taken
  obtain ⟨container | container, s₁⟩ := first
  · -- none was there, so the loop goes on with what has come in
    have settled := taken.trans (settle_leads s₁ d)
    dsimp only
    generalize s₁.settle d = p at settled ⊢
    have again := settled.trans (takeEvents_leads p.1 p.2)
    generalize p.1.takeEvents p.1.pending = second at again ⊢
    obtain ⟨container | container, s₂⟩ := second
    · exact again.trans (waitIdle_leads s₂ p.2 timeout)
    · exact again
  · exact taken

/-! ## Streaming a recording

A recording that is streamed has a place among those under way, which is emptied packet by packet
and given up when a send fails. -/

theorem request_leads (s : Session) (d : Disk) (q : Request) :
    Leads (s, d) streams [⟨.request q, false, (s.ask q).1⟩] ((s.ask q).2, d) streams := by
  rintro w rfl rfl left
  exact ⟨[.request q], rfl, rfl, left, rfl⟩

/-- The next packet of a recording is sent. -/
theorem packet_leads {s s' : Session} {packet : Packet}
    (h : s.send (.binary packet) = (.ok (), s')) (d : Disk) (before : List (List Packet))
    (rest : List Packet) :
    Leads (s, d) (before ++ [packet :: rest]) [.made (.packet packet)] (s', d)
      (before ++ [rest]) := by
  rintro w rfl rfl left
  refine ⟨[.streamNext before.length], ?_⟩
  simp [run, step, left, sendPacket, record, Session.sendPacket, h, Except.isOk, Except.toBool,
    Sent.made]

/-- The next packet cannot be sent, and the recording is given up. -/
theorem packet_leads_failed {s s' : Session} {packet : Packet} {e : SendError}
    (h : s.send (.binary packet) = (.error e, s')) (d : Disk) (before : List (List Packet))
    (rest : List Packet) :
    Leads (s, d) (before ++ [packet :: rest]) [.failed (.packet packet) e] (s'.terminate, d)
      before := by
  rintro w rfl rfl left
  refine ⟨[.streamNext before.length], ?_⟩
  simp [run, step, left, sendPacket, record, Session.sendPacket, h, Except.isOk, Except.toBool,
    Sent.failed, List.eraseIdx_append_of_length_le]

/-- The packets of a recording are sent one after the other, up to the first that fails. -/
theorem stream_leads (before : List (List Packet)) (pace : Bool) (duration : Nat)
    (p : Session × Disk) (index : Nat) (packets : List Packet) :
    match ControlSender.stream sendFrame (pause pace duration) p index packets with
    | (.ok count, p') => count = index + packets.length ∧
        Leads p (before ++ [packets]) (packets.map fun packet => .made (.packet packet)) p'
          (before ++ [[]])
    | (.error e, p') => ∃ done packet rest cause, packets = done ++ packet :: rest ∧
        e = .frame (index + done.length) cause ∧
        Leads p (before ++ [packets])
          (done.map (fun packet => .made (.packet packet)) ++ [.failed (.packet packet) cause])
          (p'.1.terminate, p'.2) before := by
  induction packets generalizing p index with
  | nil => exact ⟨rfl, .refl p _⟩
  | cons packet packets ih =>
      obtain ⟨s, d⟩ := p
      simp only [ControlSender.stream, sendFrame]
      cases sent : s.send (.binary packet) with
      | mk result s₁ =>
          cases result with
          | error e =>
              exact ⟨[], packet, packets, e, rfl, rfl, packet_leads_failed sent d before packets⟩
          | ok u =>
              -- this packet and the pause behind it, then the others
              have first := (packet_leads sent d before packets).trans (pause_leads pace duration _)
              have rest := ih (pause pace duration (s₁, d)) (index + 1)
              dsimp only
              generalize ControlSender.stream sendFrame (pause pace duration)
                (pause pace duration (s₁, d)) (index + 1) packets = streamed at rest ⊢
              obtain ⟨e | count, p'⟩ := streamed
              · obtain ⟨done, last, left, cause, rfl, rfl, leads⟩ := rest
                refine ⟨packet :: done, last, left, cause, rfl, ?_, first.trans leads⟩
                rw [List.length_cons, Nat.add_assoc, Nat.add_comm 1]
              · obtain ⟨rfl, leads⟩ := rest
                refine ⟨?_, first.trans leads⟩
                rw [List.length_cons, Nat.add_assoc, Nat.add_comm 1]

/-- What is sent for a recording, by what comes of it. -/
inductive Streamed (packets : Except StreamError (List Packet)) :
    Except StreamError Nat → List Sent → Prop where
  /-- The beginning of listening cannot be sent. -/
  | refused (e : SendError) :
      Streamed packets (.error (.control e)) [.failed (.request .listenStart) e]
  /-- The recording cannot be used. -/
  | unusable (e : StreamError) (h : packets = .error e) :
      Streamed packets (.error e) [.made (.request .listenStart)]
  /-- A packet cannot be sent. -/
  | cut (done : List Packet) (packet : Packet) (rest : List Packet) (e : SendError)
      (h : packets = .ok (done ++ packet :: rest)) :
      Streamed packets (.error (.frame done.length e))
        (.made (.request .listenStart) :: done.map (fun packet => .made (.packet packet)) ++
          [.failed (.packet packet) e])
  /-- The end of listening cannot be sent. -/
  | unended (all : List Packet) (e : SendError) (h : packets = .ok all) :
      Streamed packets (.error (.control e))
        (.made (.request .listenStart) :: all.map (fun packet => .made (.packet packet)) ++
          [.failed (.request .listenStop) e])
  /-- Everything is sent. -/
  | whole (all : List Packet) (h : packets = .ok all) :
      Streamed packets (.ok all.length)
        (.made (.request .listenStart) :: all.map (fun packet => .made (.packet packet)) ++
          [.made (.request .listenStop)])

/-- Listening begins, and the recording is read. -/
theorem begin_leads {s s' : Session} (h : s.listenStart = (.ok (), s')) (d : Disk) (path : String)
    (before : List (List Packet)) :
    Leads (s, d) before [.made (.request .listenStart)] (s', d)
      (before ++ (s'.sender.packets s'.codec d path).toOption.toList) := by
  rintro w rfl rfl left
  refine ⟨[.stream path], ?_⟩
  have asked : w.session.ask .listenStart = (.ok (), s') := h
  simp only [run, List.foldl_cons, List.foldl_nil, step, request, record, asked, left]
  cases s'.sender.packets s'.codec w.disk path <;> simp [Except.toOption, Sent.made]

/-- Behind its last packet a recording ends listening. -/
theorem end_leads (s : Session) (d : Disk) (before : List (List Packet)) :
    Leads (s, d) (before ++ [[]]) [⟨.request .listenStop, false, s.listenStop.1⟩]
      (s.listenStop.2, d) before := by
  rintro w rfl rfl left
  refine ⟨[.streamNext before.length], ?_⟩
  have ends : w.session.ask .listenStop = w.session.listenStop := rfl
  simp [run, step, left, request, record, ends, List.eraseIdx_append_of_length_le]

/-- Streaming a recording is a run of steps. -/
theorem streamRecording_leads (s : Session) (d : Disk) (path : String) (pace : Bool)
    (before : List (List Packet)) :
    ∃ log, Leads (s, d) before log (s.streamRecording d path pace).2 before ∧
      Streamed (s.sender.packets s.codec d path) (s.streamRecording d path pace).1 log := by
  have beside : s.Beside s.listenStart.2 := (s.ask_sends .listenStart).1.beside
  -- the request in front does not change what the recording is read as
  have same : s.listenStart.2.sender.packets s.listenStart.2.codec =
      s.sender.packets s.codec := by
    simp only [sender, beside.config_eq, beside.codec_eq]
  unfold streamRecording
  rw [← same]
  cases begun : s.listenStart with
  | mk result s₁ =>
      cases result with
      | error e =>
          have asked : Leads (s, d) before [⟨.request .listenStart, false, s.listenStart.1⟩]
              (s.listenStart.2, d) before :=
            request_leads s d .listenStart
          rw [begun] at asked
          exact ⟨_, asked, .refused e⟩
      | ok u =>
          have first := begin_leads begun d path before
          dsimp only
          generalize s₁.sender.packets s₁.codec d path = packets at first
          cases packets with
          | error e =>
              rw [Except.toOption, Option.toList, List.append_nil] at first
              exact ⟨_, first, .unusable e rfl⟩
          | ok packets =>
              have body :=
                stream_leads before pace s₁.config.audioParams.frameDuration.toNat (s₁, d) 0 packets
              dsimp only
              generalize ControlSender.stream _ _ _ _ packets = streamed at body ⊢
              obtain ⟨e | count, s₂, d₂⟩ := streamed
              · obtain ⟨done, packet, rest, cause, rfl, rfl, leads⟩ := body
                rw [Nat.zero_add]
                exact ⟨_, first.trans leads, .cut done packet rest cause rfl⟩
              · obtain ⟨rfl, leads⟩ := body
                have whole := (first.trans leads).trans (end_leads s₂ d₂ before)
                dsimp only
                cases ends : s₂.listenStop with
                | mk result s₃ =>
                    rw [ends] at whole
                    cases result with
                    | error e => exact ⟨_, whole, .unended packets e rfl⟩
                    | ok u =>
                        rw [Nat.zero_add]
                        exact ⟨_, whole, .whole packets rfl⟩

end Watched

end Session

end VoiceLink
