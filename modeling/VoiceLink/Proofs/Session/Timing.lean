import VoiceLink.Proofs.Session.Runs

/-!
# Where the delay of a reply is counted from

The first packet of a reply is measured from an origin, and the later ones from each other. Four
things set the origin, in different places: the loop begins to run, it takes up a request when the
next frame comes in, a turn is finished, a turn is aborted. `Cue` names them and `Cue.timing` says
from their order alone what is measured; `Loop.run_timing` says that the tracker measures just this,
whatever else happens in between.

An origin that is set makes the packets before it irrelevant. So only the order of cues counts, and
of each packet only which cues are behind it.
-/

namespace VoiceLink

/-! ## Cues

What is measured is a function of the cues, with no tracker in it. -/

/-- What matters to the timing of audio. -/
inductive Cue where
  /-- The caller has asked for something; it counts from the next frame on. -/
  | request (sentAt : Instant)
  | packet (now : Instant)
  /-- A turn was finished or aborted. -/
  | turnEnd (now : Instant)
  deriving DecidableEq, Repr

namespace Cue

def origin? : Cue → Option Instant
  | request sentAt => some sentAt
  | packet _ => none
  | turnEnd now => some now

def packet? : Cue → Option Instant
  | request _ => none
  | packet now => some now
  | turnEnd _ => none

/-- The origin that was set last. -/
def origin (started : Instant) (cues : List Cue) : Instant :=
  (cues.filterMap origin?).getLast?.getD started

/-- The packets since the origin was set. -/
def packets (cues : List Cue) : List Instant :=
  (cues.rtakeWhile fun c => c.origin?.isNone).filterMap packet?

/-- What is measured at a packet that comes now: the time since the origin, or since the packet
before. -/
def timing (started : Instant) (cues : List Cue) (now : Instant) : FrameTiming :=
  match (packets cues).getLast? with
  | none => .first (now - origin started cues)
  | some last => .gap (now - last)

variable {started o : Instant} {cues : List Cue} {c : Cue}

theorem origin_concat (h : c.origin? = some o) : origin started (cues ++ [c]) = o := by
  simp [origin, h]

theorem packets_concat (h : c.origin?.isSome) : packets (cues ++ [c]) = [] := by
  simp [packets, Option.isSome_iff_ne_none.1 h]

theorem origin_packet (now : Instant) :
    origin started (cues ++ [.packet now]) = origin started cues := by
  simp [origin, origin?]

theorem packets_packet (now : Instant) :
    packets (cues ++ [.packet now]) = packets cues ++ [now] := by
  simp [packets, origin?, packet?]

end Cue

namespace LatencyTracker

def follow (t : LatencyTracker) : Cue → LatencyTracker
  | .request sentAt => t.startTurn sentAt
  | .packet now => (t.recordFrame now).2
  | .turnEnd now => t.startTurn now

/-- A tracker has the origin of some cues, and their last packet. -/
structure Of (started : Instant) (cues : List Cue) (t : LatencyTracker) : Prop where
  turnStarted_eq : t.turnStarted = Cue.origin started cues
  lastFrame_eq : t.lastFrame = (Cue.packets cues).getLast?

variable {t : LatencyTracker} {started : Instant} {cues : List Cue}

theorem Of.follow (h : t.Of started cues) (c : Cue) : (t.follow c).Of started (cues ++ [c]) := by
  cases c with
  | request sentAt =>
      refine ⟨(Cue.origin_concat rfl).symm, ?_⟩
      rw [Cue.packets_concat rfl]
      rfl
  | turnEnd now =>
      refine ⟨(Cue.origin_concat rfl).symm, ?_⟩
      rw [Cue.packets_concat rfl]
      rfl
  | packet now =>
      have kept : (t.recordFrame now).2.turnStarted = t.turnStarted ∧
          (t.recordFrame now).2.lastFrame = some now := by
        unfold recordFrame
        split <;> exact ⟨rfl, rfl⟩
      refine ⟨?_, ?_⟩
      · rw [Cue.origin_packet, ← h.turnStarted_eq]
        exact kept.1
      · rw [Cue.packets_packet, List.getLast?_concat]
        exact kept.2

/-- What a tracker measures is said by the cues. -/
theorem Of.timing (h : t.Of started cues) (now : Instant) :
    (t.recordFrame now).1 = Cue.timing started cues now := by
  unfold recordFrame Cue.timing
  rw [← h.lastFrame_eq, ← h.turnStarted_eq]
  cases t.lastFrame <;> rfl

end LatencyTracker

/-- The cue in a frame that is handled now. -/
def InboundFrame.cue? (now : Instant) : InboundFrame → Option Cue
  | binary _ => some (.packet now)
  | text content =>
    match Boundary.ofText? content with
    | some .stop => some (.turnEnd now)
    | some .abort => some (.turnEnd now)
    | some .start => none
    | none => none
  | closed => none
  | failed _ => none

/-! ## Routers

Everything a router does to its tracker, one function after the other. Only the end of a turn and a
packet change it. -/

namespace Router

variable (r : Router) (d : Disk) (now : Instant)

@[simp]
theorem latency_transition (next : SessionState) : (r.transition next).latency = r.latency := by
  unfold transition
  split <;> rfl

@[simp]
theorem latency_countDiscarded : r.countDiscarded.latency = r.latency := by
  unfold countDiscarded
  split <;> rfl

@[simp]
theorem latency_resetAudio : r.resetAudio.latency = r.latency := rfl

theorem latency_startTurn : r.startTurn.latency = r.latency := by
  rw [startTurn, latency_resetAudio, latency_countDiscarded]
  split <;> rfl

theorem latency_abortTurn : (r.abortTurn now).latency = r.latency.startTurn now := by
  show (r.countDiscarded.resetAudio.startLatency now).latency = _
  rw [startLatency, latency_resetAudio, latency_countDiscarded]

theorem latency_close (reason : CloseReason) : (r.close reason).latency = r.latency := by
  show ((r.transition .closing).countDiscarded.resetAudio.transition .closed).latency = _
  simp

theorem latency_dumpRaw : (r.dumpRaw d).1.latency = r.latency := by
  unfold dumpRaw
  split
  · split <;> rfl
  · rfl

/-- Written or not, a turn that is finished sets the origin. -/
theorem latency_flush : (r.flush d now).1.latency = r.latency.startTurn now := by
  cases written : r.writer.write d r.accumulator.snapshot with
  | mk result rest =>
      obtain ⟨w, d'⟩ := rest
      cases result with
      | error e =>
          simp only [flush, written]
          rfl
      | ok m =>
          simp only [flush, written]
          show ({ r with writer := w }.dumpRaw d').1.latency.startTurn now = _
          rw [latency_dumpRaw]

/-- Decoded or not, a packet is measured. -/
theorem latency_handleAudio (p : Packet) :
    (r.handleAudio now p).latency = (r.latency.recordFrame now).2 := by
  unfold handleAudio
  cases decoded : r.decoder.decode p with
  | mk result decoder =>
      cases dump : r.config.dumpRawOpus <;> cases result <;> simp [account, note, decoded, dump]

theorem latency_greet (sessionId : Option String) (params : Option AudioParams) :
    (r.greet sessionId params).latency = r.latency := by
  cases params with
  | none => cases sessionId <;> rfl
  | some p => cases sessionId <;> dsimp only [greet] <;> split <;> rfl

theorem latency_handleText (content : String) (h : Boundary.ofText? content = none) :
    (r.handle d now (.text content)).1.latency = r.latency := by
  simp only [handle, handleText]
  unfold Boundary.ofText? at h
  cases parsed : ControlMessage.parse content with
  | error e => rfl
  | ok m =>
      rw [parsed] at h
      cases m with
      | hello sessionId transport params => exact latency_greet _ sessionId params
      | tts state text => cases state <;> first | rfl | cases h
      | abort reason => cases h
      | _ => rfl

/-- A router's tracker follows the cue of a frame, and only that. -/
theorem latency_handle (f : InboundFrame) :
    (r.handle d now f).1.latency = (f.cue? now).elim r.latency r.latency.follow := by
  cases f with
  | closed => rfl
  | failed reason => rfl
  | binary p => exact r.latency_handleAudio now p
  | text content =>
      cases boundary : Boundary.ofText? content with
      | none =>
          simp only [InboundFrame.cue?, boundary]
          exact r.latency_handleText d now content boundary
      | some kind =>
          rw [handle_boundary r d now boundary]
          simp only [InboundFrame.cue?, boundary]
          cases kind with
          | stop => exact r.countControl.latency_flush d now
          | start => exact r.countControl.latency_startTurn
          | abort => exact r.countControl.latency_abortTurn now

end Router

/-! ## Loops

A request is pending until the next frame, and a second one takes its place. So the last one that
was published is the one that counts, at the time at which it was made. -/

/-- Something that matters to the timing, as it comes to a running loop. -/
inductive Occurrence where
  | publish (sentAt : Instant)
  | frame (now : Instant) (f : InboundFrame)
  deriving DecidableEq, Repr

def Occurrence.cue? : Occurrence → Option Cue
  | publish sentAt => some (.request sentAt)
  | frame now f => f.cue? now

/-- The cues a loop has had: the request that was pending when it began, and what has come since. -/
def Occurrence.cues (pending : Option Instant) (past : List Occurrence) : List Cue :=
  pending.toList.map .request ++ past.filterMap cue?

namespace Loop

/-- A loop that begins to run, with a request that was published before or without. -/
def begin (router : Router) (started : Instant) (pending : Option Instant) : Loop :=
  { router := router.startLatency started, mark := { pending } }

def publish (l : Loop) (sentAt : Instant) : Loop :=
  { l with mark := { l.mark with pending := some sentAt } }

def receiveAt (l : Loop) (d : Disk) (now : Instant) (f : InboundFrame) : Loop × Disk :=
  ({ l.prepare with router := (l.prepare.router.handle d now f).1 },
    (l.prepare.router.handle d now f).2)

def happen (s : Loop × Disk) : Occurrence → Loop × Disk
  | .publish sentAt => (s.1.publish sentAt, s.2)
  | .frame now f => s.1.receiveAt s.2 now f

def happenAll (s : Loop × Disk) (occurrences : List Occurrence) : Loop × Disk :=
  occurrences.foldl happen s

theorem receive_eq_receiveAt (l : Loop) (d : Disk) (f : InboundFrame) :
    l.receive d f = l.receiveAt d l.prepare.instant f := rfl

/-- The caller of a loop is there, and once it has taken up what is pending, its tracker has the
origin of some cues. -/
structure Timed (started : Instant) (cues : List Cue) (l : Loop) : Prop where
  alive : l.mark.alive = true
  latency : l.takeMark.router.latency.Of started cues

variable {started : Instant} {cues : List Cue} {l l' : Loop} {d : Disk}

theorem takeMark_latency (alive : l.mark.alive = true) :
    l.takeMark.router.latency =
      l.mark.pending.elim l.router.latency l.router.latency.startTurn := by
  unfold takeMark
  cases l.mark.pending with
  | none => rfl
  | some sentAt =>
      simp only [alive, ↓reduceIte]
      rfl

theorem Timed.of_same (h : l.Timed started cues) (mark : l'.mark = l.mark)
    (latency : l'.router.latency = l.router.latency) : l'.Timed started cues := by
  have alive : l'.mark.alive = true := mark ▸ h.alive
  refine ⟨alive, ?_⟩
  rw [takeMark_latency alive, mark, latency, ← takeMark_latency h.alive]
  exact h.latency

/-- Making ready for a frame takes up what is pending, and nothing else is measured. -/
theorem prepare_latency (alive : l.mark.alive = true) :
    l.prepare.router.latency =
      l.mark.pending.elim l.router.latency l.router.latency.startTurn := by
  have active : (if l.router.state = .helloSent then l.router.transition .active
      else l.router).latency = l.router.latency := by
    split
    · exact l.router.latency_transition .active
    · rfl
  rw [← active]
  exact takeMark_latency alive

theorem prepare_mark (alive : l.mark.alive = true) : l.prepare.mark = {} := by
  rw [prepare, takeMark]
  cases pending : l.mark.pending with
  | none =>
      rw [TurnMark.mk.injEq]
      exact ⟨pending, alive⟩
  | some sentAt => simp [alive]

theorem Timed.prepare (h : l.Timed started cues) : l.prepare.router.latency.Of started cues := by
  rw [prepare_latency h.alive, ← takeMark_latency h.alive]
  exact h.latency

theorem Timed.receiveAt (h : l.Timed started cues) (now : Instant) (f : InboundFrame) :
    (l.receiveAt d now f).1.Timed started (cues ++ (f.cue? now).toList) := by
  have marked : (l.receiveAt d now f).1.mark = {} := prepare_mark h.alive
  have alive : (l.receiveAt d now f).1.mark.alive = true := by rw [marked]
  refine ⟨alive, ?_⟩
  rw [takeMark_latency alive, marked, Option.elim_none]
  show (l.prepare.router.handle d now f).1.latency.Of started _
  rw [Router.latency_handle]
  cases f.cue? now with
  | none => simpa using h.prepare
  | some c => exact h.prepare.follow c

/-- A request that is published sets the origin, and one that was pending is forgotten. -/
theorem Timed.publish (h : l.Timed started cues) (sentAt : Instant) :
    (l.publish sentAt).Timed started (cues ++ [.request sentAt]) := by
  have alive : (l.publish sentAt).mark.alive = true := h.alive
  refine ⟨alive, ?_⟩
  rw [takeMark_latency alive]
  refine ⟨(Cue.origin_concat rfl).symm, ?_⟩
  rw [Cue.packets_concat rfl]
  rfl

theorem Timed.happenAll {s : Loop × Disk} (h : s.1.Timed started cues)
    (occurrences : List Occurrence) :
    (Loop.happenAll s occurrences).1.Timed started
      (cues ++ occurrences.filterMap Occurrence.cue?) := by
  induction occurrences using List.reverseRecOn with
  | nil => simpa [Loop.happenAll] using h
  | append_singleton occurrences o ih =>
      have last : [o].filterMap Occurrence.cue? = o.cue?.toList := by
        cases found : o.cue? <;> simp [found]
      have more : Loop.happenAll s (occurrences ++ [o]) =
          happen (Loop.happenAll s occurrences) o := by
        simp [Loop.happenAll]
      rw [List.filterMap_append, last, ← List.append_assoc, more]
      cases o with
      | publish sentAt => exact ih.publish sentAt
      | frame now f => exact ih.receiveAt now f

theorem begin_timed (router : Router) (started : Instant) (pending : Option Instant) :
    (begin router started pending).Timed started (pending.toList.map .request) := by
  refine ⟨rfl, ?_⟩
  rw [takeMark_latency rfl]
  cases pending with
  | none => exact ⟨rfl, rfl⟩
  | some sentAt => exact ⟨rfl, rfl⟩

/-- Making ready for a frame takes no time. -/
theorem prepare_instant (l : Loop) : l.prepare.instant = l.instant := by
  have marked (l' : Loop) : l'.takeMark.instant = l'.instant := by
    unfold takeMark
    split
    · split <;> rfl
    · rfl
  have active : (if l.router.state = .helloSent then l.router.transition .active
      else l.router).handled = l.router.handled := by
    split
    · unfold Router.transition
      split <;> rfl
    · rfl
  rw [prepare, marked]
  exact congrArg (l.time * 1000000 + ·) active

/-! ## Runs

The instants of a run are those of its clock. If the caller drops its mark nothing is pending any
more, so that step is left out. -/

namespace Watched

/-- What a step of a run is to the timing. -/
def occurrence? (w : Watched) : Step → Option Occurrence
  | .publishMark => if w.loop.publishMark.1 then some (.publish w.loop.instant) else none
  | .poll => w.loop.taken?.map fun f => .frame w.loop.instant f
  | .deliver _ => none
  | .hangUp => none
  | .cancel => none
  | .dropMark => none
  | .elapse _ => none

def occurrences (w : Watched) : List Step → List Occurrence
  | [] => []
  | s :: steps => (w.occurrence? s).toList ++ (w.step s).occurrences steps

variable {w : Watched} {started : Instant} {cues : List Cue}

theorem poll_of_taken {f : InboundFrame} (h : w.loop.taken? = some f) :
    (w.step .poll).loop = ({ w.loop.arm with
      queue := w.loop.queue.tail, deadline := none }.receiveAt w.disk w.loop.instant f).1 := by
  have live : w.loop.ended = false := by
    by_contra ended
    simp [taken?, ended] at h
  have round : w.loop.arm.round = .take f := by
    simp only [taken?, live, Bool.false_eq_true, ↓reduceIte] at h
    split at h
    · next taken =>
      cases h
      exact taken
    · cases h
  let l : Loop := { w.loop.arm with queue := w.loop.queue.tail, deadline := none }
  have same : l.instant = w.loop.instant := by
    show w.loop.arm.time * 1000000 + w.loop.arm.router.handled = _
    rw [arm_time, arm_router]
    rfl
  have received : l.receive w.disk f =
      ((l.receiveAt w.disk w.loop.instant f).1, (l.receiveAt w.disk w.loop.instant f).2) := by
    rw [receive_eq_receiveAt, prepare_instant, same]
  rw [step_poll_of_take live round received]

/-- Whatever step is taken, the tracker has the origin of the cues and of the one in the step. -/
theorem step_timed (h : w.loop.Timed started cues) {s : Step} (stays : s ≠ .dropMark) :
    (w.step s).loop.Timed started (cues ++ ((w.occurrence? s).bind Occurrence.cue?).toList) := by
  have silent {l : Loop} (mark : l.mark = w.loop.mark)
      (latency : l.router.latency = w.loop.router.latency) :
      l.Timed started (cues ++ ((none : Option Occurrence).bind Occurrence.cue?).toList) := by
    simpa using h.of_same mark latency
  cases s with
  | deliver f =>
      apply silent
      · simp only [step, deliver]
        split <;> rfl
      · simp only [step, deliver]
        split <;> rfl
  | hangUp => exact silent rfl rfl
  | cancel => exact silent rfl rfl
  | dropMark => exact absurd rfl stays
  | elapse milliseconds => exact silent rfl rfl
  | publishMark =>
      simp only [step, occurrence?, publishMark]
      split
      · exact silent rfl rfl
      · exact h.publish w.loop.instant
  | poll =>
      cases taken : w.loop.taken? with
      | some f =>
          rw [poll_of_taken taken]
          simp only [occurrence?, taken]
          -- arming does not touch what is measured
          have armed : Timed started cues
              { w.loop.arm with queue := w.loop.queue.tail, deadline := none } :=
            h.of_same w.loop.arm_mark (congrArg Router.latency w.loop.arm_router)
          exact armed.receiveAt w.loop.instant f
      | none =>
          simp only [occurrence?, taken, Option.map_none]
          cases hended : w.loop.ended with
          | true =>
              rw [step_poll_of_ended hended]
              exact silent rfl rfl
          | false =>
              cases round : w.loop.arm.round with
              | take f => simp [taken?, hended, round] at taken
              | stop reason =>
                  rw [step_poll_of_stop hended round]
                  refine silent w.loop.arm_mark ?_
                  show (w.loop.arm.router.close reason).latency = _
                  rw [Router.latency_close, arm_router]
              | wait =>
                  rw [step_poll_of_wait hended round]
                  exact silent w.loop.arm_mark (congrArg Router.latency w.loop.arm_router)

/-- The occurrences of a run say what will be measured after it. -/
theorem run_timed (h : w.loop.Timed started cues) (steps : List Step) (stays : .dropMark ∉ steps) :
    (w.run steps).loop.Timed started
      (cues ++ (w.occurrences steps).filterMap Occurrence.cue?) := by
  induction steps generalizing w cues with
  | nil => simpa [occurrences, run] using h
  | cons s steps ih =>
      rw [List.mem_cons, not_or] at stays
      have rest := ih (step_timed h (Ne.symm stays.1)) stays.2
      rw [List.append_assoc] at rest
      have first : (w.occurrence? s).toList.filterMap Occurrence.cue? =
          ((w.occurrence? s).bind Occurrence.cue?).toList := by
        cases w.occurrence? s with
        | none => rfl
        | some o => cases found : o.cue? <;> simp [found]
      rw [occurrences, List.filterMap_append, first]
      exact rest

end Watched

/-- **What is measured at a packet.** Let requests and frames come to a running loop in any order
and at any instants. A packet that is handled next is measured from the origin that was set last, or
from the packet before if there was one since, and nothing else has a say in it. The same holds for
the instants at which the loop itself publishes requests and takes frames. -/
theorem run_timing (router : Router) (d : Disk) (pending : Option Instant) :
    (∀ (started : Instant) (past : List Occurrence) (now : Instant) (p : Packet),
      let s := happenAll (begin router started pending, d) past
      let measured := s.1.prepare.router.latency.recordFrame now
      measured.1 = Cue.timing started (Occurrence.cues pending past) now ∧
        (s.1.receiveAt s.2 now (.binary p)).1.router.latency = measured.2) ∧
    ∀ (time : Nat) (steps : List Step), .dropMark ∉ steps →
      let first := Watched.start router d time { pending }
      let w := first.run steps
      let measured := w.loop.prepare.router.latency.recordFrame w.loop.instant
      ∀ p, w.loop.taken? = some (.binary p) →
        measured.1 = Cue.timing (time * 1000000 + router.handled)
            (Occurrence.cues pending (first.occurrences steps)) w.loop.instant ∧
          (w.step .poll).loop.router.latency = measured.2 := by
  constructor
  · intro started past now p s measured
    have begun : (begin router started pending, d).1.Timed started (pending.toList.map .request) :=
      begin_timed router started pending
    have timed := begun.happenAll past
    exact ⟨timed.prepare.timing now, s.1.prepare.router.latency_handleAudio now p⟩
  · intro time steps alive first w measured p taken
    have begun : first.loop.Timed (time * 1000000 + router.handled) (pending.toList.map .request) :=
      (begin_timed router _ pending).of_same rfl rfl
    have timed := Watched.run_timed begun steps alive
    refine ⟨timed.prepare.timing w.loop.instant, ?_⟩
    let l : Loop := { w.loop.arm with queue := w.loop.queue.tail, deadline := none }
    have armed : l.mark = w.loop.mark := w.loop.arm_mark
    have same : l.prepare.router.latency = w.loop.prepare.router.latency := by
      rw [prepare_latency timed.alive, prepare_latency (armed ▸ timed.alive), armed]
      show w.loop.mark.pending.elim w.loop.arm.router.latency _ = _
      rw [arm_router]
    rw [Watched.poll_of_taken taken]
    show (l.prepare.router.handleAudio w.loop.instant p).latency = _
    rw [Router.latency_handleAudio, same]

/-- A request is taken up by a text. The packet after it is measured from the instant the request
was made, though the text itself, a `tts start`, was handled later. -/
theorem run_timing_request_before_start :
    ∃ r, Router.create .silent {} .active 0 = .ok r ∧
      let w := (Watched.start r { tree := .empty, cwd := [] } 0 {}).run
        [.elapse 5, .publishMark, .elapse 10,
          .deliver (.text "\x7b\"type\":\"tts\",\"state\":\"start\"\x7d"), .poll,
          .elapse 7, .deliver (.binary [0xe0])]
      (w.loop.prepare.router.latency.recordFrame w.loop.instant).1 = .first 17000001 := by
  have created : ∃ r, Router.create .silent {} .active 0 = .ok r := ⟨_, rfl⟩
  obtain ⟨r, created⟩ := created
  obtain ⟨-, run⟩ := run_timing r { tree := .empty, cwd := [] } none
  obtain ⟨measured, -⟩ := run 0
    [.elapse 5, .publishMark, .elapse 10,
      .deliver (.text "\x7b\"type\":\"tts\",\"state\":\"start\"\x7d"), .poll,
      .elapse 7, .deliver (.binary [0xe0])] (by decide) [0xe0] (by cases created; decide +kernel)
  refine ⟨r, created, measured.trans ?_⟩
  cases created
  decide +kernel

end Loop

end VoiceLink
