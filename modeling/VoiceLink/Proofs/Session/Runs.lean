import VoiceLink.Proofs.Session.Turns
import VoiceLink.Session.Loop

/-!
# Runs of the receive loop

What can happen to a receive loop, one thing after the other: frames are delivered, the channel is
closed, the loop is cancelled, time passes, and every now and then the loop goes through a round.
A run is any list of these. `Loop.Watched` keeps beside the loop what an observer has seen of it, so
that statements about order and time have something to speak of; the loop itself knows nothing of
its observer.
-/

namespace VoiceLink

namespace Loop

/-! ## Rounds

Arming sets the deadline before a round if it is not set; everything else stays. Which way a round
goes is read off the loop, and it goes one way only. -/

/-- The frame that the next round hands to the router, if there will be one. -/
def taken? (l : Loop) : Option InboundFrame :=
  if l.ended then none
  else
    match l.arm.round with
    | .take frame => some frame
    | _ => none

section Arm

variable (l : Loop)

@[simp]
theorem arm_queue : l.arm.queue = l.queue := by unfold arm; split <;> rfl

@[simp]
theorem arm_router : l.arm.router = l.router := by unfold arm; split <;> rfl

@[simp]
theorem arm_time : l.arm.time = l.time := by unfold arm; split <;> rfl

@[simp]
theorem arm_cancelled : l.arm.cancelled = l.cancelled := by unfold arm; split <;> rfl

@[simp]
theorem arm_channelOpen : l.arm.channelOpen = l.channelOpen := by unfold arm; split <;> rfl

@[simp]
theorem arm_mark : l.arm.mark = l.mark := by unfold arm; split <;> rfl

@[simp]
theorem arm_outcome : l.arm.outcome = l.outcome := by unfold arm; split <;> rfl

/-- An armed loop waits until its old deadline, or for the idle timeout from now. -/
theorem arm_deadline :
    l.arm.deadline = some (l.deadline.getD (l.time + l.router.config.idleTimeout)) := by
  unfold arm
  cases waiting : l.deadline <;> simp [waiting]

end Arm

variable {l : Loop}

/-- Only the oldest frame is taken, and not after a cancellation. -/
theorem round_eq_take {f : InboundFrame} (h : l.round = .take f) :
    l.cancelled = false ∧ l.queue = f :: l.queue.tail ∧ f.closeReason? = none := by
  unfold round at h
  split at h
  · cases h
  · next live =>
    refine ⟨by simpa using live, ?_⟩
    split at h
    · split at h
      · cases h
      · split at h <;> cases h
    · next g rest hqueue =>
      split at h
      · cases h
      · next data =>
        cases h
        exact ⟨by rw [hqueue]; rfl, data⟩

/-- Why a round ends a loop. -/
theorem round_eq_stop {reason : CloseReason} (h : l.round = .stop reason) :
    (l.cancelled = true ∧ reason = .cancelled) ∨
      (l.cancelled = false ∧
        ((∃ f rest, l.queue = f :: rest ∧ f.closeReason? = some reason) ∨
          (l.queue = [] ∧ l.channelOpen = false ∧ reason = .transportClosed) ∨
          (l.queue = [] ∧ l.expired = true ∧ reason = .idleTimeout))) := by
  unfold round at h
  split at h
  · next cancelled =>
    cases h
    exact .inl ⟨cancelled, rfl⟩
  · next live =>
    refine .inr ⟨by simpa using live, ?_⟩
    split at h
    · next hqueue =>
      split at h
      · next hungUp =>
        cases h
        exact .inr (.inl ⟨hqueue, by simpa using hungUp, rfl⟩)
      · split at h
        · next expired =>
          cases h
          exact .inr (.inr ⟨hqueue, expired, rfl⟩)
        · cases h
    · next f rest hqueue =>
      split at h
      · next last =>
        cases h
        exact .inl ⟨f, rest, hqueue, last⟩
      · cases h

/-- A loop waits when nothing is left in its queue and more may come in time. -/
theorem round_eq_wait (h : l.round = .wait) :
    l.cancelled = false ∧ l.queue = [] ∧ l.channelOpen = true ∧ l.expired = false := by
  unfold round at h
  split at h
  · cases h
  · next live =>
    refine ⟨by simpa using live, ?_⟩
    split at h
    · next hqueue =>
      split at h
      · cases h
      · next hopen =>
        split at h
        · cases h
        · next fresh => exact ⟨hqueue, by simpa using hopen, by simpa using fresh⟩
    · split at h <;> cases h

/-- A loop gives up waiting at its deadline. -/
theorem round_of_expired (live : l.cancelled = false) (hqueue : l.queue = [])
    (hopen : l.channelOpen = true) (h : l.expired = true) : l.round = .stop .idleTimeout := by
  simp [round, live, hqueue, hopen, h]

theorem round_of_cancelled (h : l.cancelled = true) : l.round = .stop .cancelled := by
  rw [round, if_pos h]

/-! ## Polling

What a round leaves behind, by the way it goes. -/

variable {d : Disk}

theorem poll_of_ended (h : l.ended = true) : l.poll d = (l, d) := by
  rw [poll, if_pos h]

theorem poll_of_take (live : l.ended = false) {f : InboundFrame} (h : l.arm.round = .take f) :
    l.poll d = { l.arm with queue := l.queue.tail, deadline := none }.receive d f := by
  simp only [poll, live, Bool.false_eq_true, ↓reduceIte, h, arm_queue]

theorem poll_of_stop (live : l.ended = false) {reason : CloseReason}
    (h : l.arm.round = .stop reason) : l.poll d = (l.arm.finish reason, d) := by
  simp only [poll, live, Bool.false_eq_true, ↓reduceIte, h]

theorem poll_of_wait (live : l.ended = false) (h : l.arm.round = .wait) :
    l.poll d = (l.arm, d) := by
  simp only [poll, live, Bool.false_eq_true, ↓reduceIte, h]

/-! ### Receiving a frame

A frame is not handled by the router as it is: the mark is taken up first, and the state moved on.
Both leave the audio alone. -/

theorem takeMark_eq (l : Loop) :
    ∃ mark, l.takeMark = { l with router := l.takeMark.router, mark } := by
  unfold takeMark
  split
  · split <;> exact ⟨_, rfl⟩
  · exact ⟨_, rfl⟩

@[simp]
theorem audioPart_takeMark (l : Loop) : l.takeMark.router.audioPart = l.router.audioPart := by
  unfold takeMark
  split
  · split <;> rfl
  · rfl

/-- Only the router and the mark change before a frame is handled. -/
theorem prepare_eq (l : Loop) : ∃ mark, l.prepare = { l with router := l.prepare.router, mark } :=
  takeMark_eq { l with router := _ }

@[simp]
theorem audioPart_prepare (l : Loop) : l.prepare.router.audioPart = l.router.audioPart := by
  have active : (if l.router.state = .helloSent then l.router.transition .active
      else l.router).audioPart = l.router.audioPart := by
    split
    · exact Router.audioPart_transition _ _
    · rfl
  rw [prepare, audioPart_takeMark, ← active]
  rfl

/-- The router handles the frame; the rest of the loop, but for the mark, is left alone. -/
theorem receive_eq (l : Loop) (d : Disk) (f : InboundFrame) :
    ∃ mark, l.receive d f =
      ({ l with router := (l.prepare.router.handle d l.prepare.instant f).1, mark },
        (l.prepare.router.handle d l.prepare.instant f).2) := by
  obtain ⟨mark, same⟩ := l.prepare_eq
  refine ⟨mark, ?_⟩
  have received : l.receive d f =
      ({ l.prepare with router := (l.prepare.router.handle d l.prepare.instant f).1 },
        (l.prepare.router.handle d l.prepare.instant f).2) := rfl
  rw [received]
  congr 1
  rw [same]

/-! ### Settling

A loop that goes through enough rounds has nothing left to do. -/

@[simp]
theorem polls_succ (n : Nat) (l : Loop) (d : Disk) :
    polls (n + 1) l d = polls n (l.poll d).1 (l.poll d).2 := rfl

theorem polls_of_ended (h : l.ended = true) (n : Nat) : polls n l d = (l, d) := by
  induction n with
  | zero => rfl
  | succ n ih => rw [polls_succ, poll_of_ended h, ih]

theorem polls_of_wait (live : l.ended = false) (armed : l.arm = l) (h : l.round = .wait) (n : Nat) :
    polls n l d = (l, d) := by
  induction n with
  | zero => rfl
  | succ n ih =>
      have waits : l.arm.round = .wait := armed.symm ▸ h
      rw [polls_succ, poll_of_wait live waits, armed, ih]

@[simp]
theorem arm_arm (l : Loop) : l.arm.arm = l.arm := by
  have armed := l.arm_deadline
  generalize l.arm = l' at armed ⊢
  unfold arm
  rw [armed]

/-- With a round for every frame and one more, a loop comes to its end or has begun to wait. -/
theorem polls_quiet {n : Nat} (h : l.queue.length < n) :
    (polls n l d).1.ended = true ∨
      ((polls n l d).1.arm = (polls n l d).1 ∧ (polls n l d).1.round = .wait) := by
  induction n generalizing l d with
  | zero => cases h
  | succ n ih =>
      cases hended : l.ended with
      | true =>
          rw [polls_of_ended hended]
          exact .inl hended
      | false =>
          rw [polls_succ]
          cases round : l.arm.round with
          | take f =>
              obtain ⟨-, hqueue, -⟩ := round_eq_take round
              obtain ⟨mark, received⟩ :=
                receive_eq { l.arm with queue := l.queue.tail, deadline := none } d f
              rw [poll_of_take hended round, received]
              rw [arm_queue] at hqueue
              rw [hqueue, List.length_cons] at h
              -- one frame less and one round less
              exact ih (Nat.lt_of_succ_lt_succ h)
          | stop reason =>
              rw [poll_of_stop hended round, polls_of_ended rfl]
              exact .inl rfl
          | wait =>
              have live : l.arm.ended = false := by
                rw [ended, arm_outcome]
                exact hended
              rw [poll_of_wait hended round, polls_of_wait live l.arm_arm round]
              exact .inr ⟨l.arm_arm, round⟩

/-- A settled loop has ended, or it has begun to wait for something to happen. -/
theorem settle_quiet (l : Loop) (d : Disk) :
    (l.settle d).1.ended = true ∨
      ((l.settle d).1.deadline.isSome ∧ (l.settle d).1.round = .wait) := by
  have quiet := polls_quiet (l := l) (d := d) (Nat.lt_succ_self _)
  refine quiet.imp_right fun ⟨armed, waits⟩ => ⟨?_, waits⟩
  have deadline := arm_deadline (polls (l.queue.length + 1) l d).1
  rw [armed] at deadline
  rw [settle, deadline]
  rfl

theorem poll_time (l : Loop) (d : Disk) : (l.poll d).1.time = l.time := by
  cases hended : l.ended with
  | true => rw [poll_of_ended hended]
  | false =>
      cases round : l.arm.round with
      | take f =>
          obtain ⟨mark, received⟩ :=
            receive_eq { l.arm with queue := l.queue.tail, deadline := none } d f
          rw [poll_of_take hended round, received]
          exact l.arm_time
      | stop reason =>
          rw [poll_of_stop hended round]
          exact l.arm_time
      | wait =>
          rw [poll_of_wait hended round]
          exact l.arm_time

/-- No time passes while a loop settles. -/
theorem polls_time (n : Nat) (l : Loop) (d : Disk) : (polls n l d).1.time = l.time := by
  induction n generalizing l d with
  | zero => rfl
  | succ n ih => rw [polls_succ, ih, poll_time]

/-- A loop that waits has ended when it has slept until its deadline. -/
theorem sleep_ended {deadline milliseconds : Nat} (live : l.ended = false) (waits : l.round = .wait)
    (armed : l.deadline = some deadline) (reached : deadline ≤ l.time + milliseconds) :
    (l.sleep d milliseconds).1.ended = true := by
  have arm_eq : l.arm = l := by rw [arm, armed]
  have settled : l.settle d = (l, d) := polls_of_wait live arm_eq waits _
  have slept : l.sleep d milliseconds = (l.elapse milliseconds).settle d := by rw [sleep, settled]
  obtain ⟨hcancelled, hqueue, hopen, -⟩ := round_eq_wait waits
  have expired : (l.elapse milliseconds).expired = true := by
    rw [Loop.expired, elapse, armed]
    simpa using reached
  have stops : (l.elapse milliseconds).arm.round = .stop .idleTimeout := by
    have same : (l.elapse milliseconds).arm = l.elapse milliseconds := by rw [arm, elapse, armed]
    rw [same]
    exact round_of_expired hcancelled hqueue hopen expired
  have still : (l.elapse milliseconds).ended = false := live
  rw [slept, settle, polls_succ, poll_of_stop still stops, polls_of_ended rfl]
  rfl

/-! ## Runs

Everything that can wake the loop is a step, and so is going through a round. What an observer
writes down changes in the steps it is about. -/

/-- What can happen to a receive loop. -/
inductive Step where
  | deliver (frame : InboundFrame)
  | hangUp
  | cancel
  | publishMark
  | dropMark
  | elapse (milliseconds : Nat)
  | poll
  deriving DecidableEq, Repr

/-- A receive loop, and what an observer has seen of it. -/
structure Watched where
  loop : Loop
  disk : Disk
  /-- The frames that were delivered, the first in front. -/
  delivered : List InboundFrame := []
  /-- The frames that were handed to the router, the first in front. -/
  handled : List InboundFrame := []
  /-- When the loop took a frame last; before the first, when it was started. -/
  lastTaken : Nat

namespace Watched

def start (router : Router) (d : Disk) (time : Nat) (mark : TurnMark) : Watched :=
  { loop := .start router time mark, disk := d, lastTaken := time }

def step (w : Watched) : Step → Watched
  | .deliver f =>
    let (accepted, loop) := w.loop.deliver f
    { w with loop, delivered := if accepted then w.delivered ++ [f] else w.delivered }
  | .hangUp => { w with loop := w.loop.hangUp }
  | .cancel => { w with loop := w.loop.cancel }
  | .publishMark => { w with loop := w.loop.publishMark.2 }
  | .dropMark => { w with loop := w.loop.dropMark }
  | .elapse milliseconds => { w with loop := w.loop.elapse milliseconds }
  | .poll =>
    let (loop, disk) := w.loop.poll w.disk
    match w.loop.taken? with
    | some f => { w with loop, disk, handled := w.handled ++ [f], lastTaken := loop.time }
    | none => { w with loop, disk }

def run (w : Watched) (steps : List Step) : Watched := steps.foldl step w

@[simp]
theorem run_concat (w : Watched) (steps : List Step) (s : Step) :
    w.run (steps ++ [s]) = (w.run steps).step s := by
  simp [run]

/-- What happens outside of the loop leaves alone what is inside: frames may arrive, time may pass
and the loop may be cancelled, but nothing is handled. -/
structure Outside (w w' : Watched) : Prop where
  router_eq : w'.loop.router = w.loop.router
  outcome_eq : w'.loop.outcome = w.loop.outcome
  deadline_eq : w'.loop.deadline = w.loop.deadline
  time_le : w.loop.time ≤ w'.loop.time
  cancelled : w.loop.cancelled = true → w'.loop.cancelled = true
  arrived : ∃ frames, w'.loop.queue = w.loop.queue ++ frames ∧
    w'.delivered = w.delivered ++ frames ∧ (w.loop.ended = true → frames = [])
  disk_eq : w'.disk = w.disk
  handled_eq : w'.handled = w.handled
  lastTaken_eq : w'.lastTaken = w.lastTaken

/-- Only a round is not outside of the loop. -/
theorem step_outside (w : Watched) {s : Step} (h : s ≠ .poll) : w.Outside (w.step s) := by
  have nothing : ∃ frames, w.loop.queue = w.loop.queue ++ frames ∧
      w.delivered = w.delivered ++ frames ∧ (w.loop.ended = true → frames = []) :=
    ⟨[], by simp, by simp, fun _ => rfl⟩
  have same : w.Outside w := ⟨rfl, rfl, rfl, Nat.le_refl _, id, nothing, rfl, rfl, rfl⟩
  cases s with
  | poll => exact absurd rfl h
  | deliver f =>
      by_cases refused : w.loop.ended ∨ ¬ w.loop.channelOpen
      · simp only [step, deliver, if_pos refused]
        exact { same with }
      · simp only [step, deliver, if_neg refused]
        have live : w.loop.ended = true → [f] = [] := fun ended => absurd (.inl ended) refused
        exact { same with arrived := ⟨[f], rfl, rfl, live⟩ }
  | hangUp => exact { same with }
  | cancel => exact { same with cancelled := fun _ => rfl }
  | publishMark =>
      simp only [step, publishMark]
      split <;> exact { same with }
  | dropMark => exact { same with }
  | elapse milliseconds => exact { same with time_le := Nat.le_add_right _ _ }

/-- Settling is a run of rounds. -/
theorem run_polls (w : Watched) (n : Nat) :
    ((w.run (List.replicate n .poll)).loop, (w.run (List.replicate n .poll)).disk) =
      polls n w.loop w.disk := by
  induction n generalizing w with
  | zero => rfl
  | succ n ih =>
      have round : ((w.step .poll).loop, (w.step .poll).disk) = w.loop.poll w.disk := by
        simp only [step]
        split <;> rfl
      rw [polls_succ, ← round]
      exact ih (w.step .poll)

/-! ### Rounds of a run

A step that is a round, by the way the round goes. The frame that is taken is written down, so this
is where the observer and the loop change together. -/

section Round

variable {w : Watched}

theorem step_poll_of_ended (h : w.loop.ended = true) : w.step .poll = w := by
  have nothing : w.loop.taken? = none := by rw [taken?, if_pos h]
  simp only [step, nothing, poll_of_ended h]

theorem step_poll_of_take (live : w.loop.ended = false) {f : InboundFrame}
    (round : w.loop.arm.round = .take f) {l : Loop} {d : Disk}
    (received : { w.loop.arm with queue := w.loop.queue.tail, deadline := none }.receive w.disk f =
      (l, d)) :
    w.step .poll =
      { w with loop := l, disk := d, handled := w.handled ++ [f], lastTaken := l.time } := by
  have some : w.loop.taken? = some f := by simp [taken?, live, round]
  simp only [step, some, poll_of_take live round, received]

theorem step_poll_of_stop (live : w.loop.ended = false) {reason : CloseReason}
    (round : w.loop.arm.round = .stop reason) :
    w.step .poll = { w with loop := w.loop.arm.finish reason } := by
  have nothing : w.loop.taken? = none := by simp [taken?, live, round]
  simp only [step, nothing, poll_of_stop live round]

theorem step_poll_of_wait (live : w.loop.ended = false) (round : w.loop.arm.round = .wait) :
    w.step .poll = { w with loop := w.loop.arm } := by
  have nothing : w.loop.taken? = none := by simp [taken?, live, round]
  simp only [step, nothing, poll_of_wait live round]

end Round

/-! ### What a round comes to

One constructor for each way. Only the second one has to do with the router. -/

/-- What can be seen after a round: nothing has happened to a loop that has ended; a frame went to
the router; the loop has ended; or it waits. -/
inductive Polled (w : Watched) : Watched → Prop where
  | ended (hended : w.loop.ended = true) : Polled w w
  | took (live : w.loop.ended = false) (f : InboundFrame) (round : w.loop.arm.round = .take f)
      (router : Router) (same : router.audioPart = w.loop.router.audioPart) (now : Instant)
      (mark : TurnMark) :
      Polled w
        { loop := { w.loop with
            router := (router.handle w.disk now f).1
            queue := w.loop.queue.tail, deadline := none, mark }
          disk := (router.handle w.disk now f).2
          delivered := w.delivered, handled := w.handled ++ [f], lastTaken := w.loop.time }
  | stopped (live : w.loop.ended = false) (reason : CloseReason)
      (round : w.loop.arm.round = .stop reason) :
      Polled w { w with loop := w.loop.arm.finish reason }
  | waited (live : w.loop.ended = false) (round : w.loop.arm.round = .wait) :
      Polled w { w with loop := w.loop.arm }

theorem polled (w : Watched) : Polled w (w.step .poll) := by
  cases hended : w.loop.ended with
  | true =>
      rw [step_poll_of_ended hended]
      exact .ended hended
  | false =>
      cases round : w.loop.arm.round with
      | take f =>
          let l : Loop := { w.loop.arm with queue := w.loop.queue.tail, deadline := none }
          obtain ⟨mark, received⟩ := receive_eq l w.disk f
          rw [step_poll_of_take hended round received]
          have same : l.prepare.router.audioPart = w.loop.router.audioPart := by
            rw [audioPart_prepare]
            exact congrArg Router.audioPart w.loop.arm_router
          -- arming changes the deadline, and a loop that takes a frame has none
          have loop_eq (r : Router) : ({ l with router := r, mark := mark } : Loop) =
              { w.loop with
                router := r, queue := w.loop.queue.tail, deadline := none, mark := mark } := by
            simp only [l, Loop.mk.injEq, true_and]
            exact ⟨w.loop.arm_channelOpen, w.loop.arm_cancelled, w.loop.arm_time,
              w.loop.arm_outcome⟩
          rw [loop_eq]
          exact .took hended f round _ same _ mark
      | stop reason =>
          rw [step_poll_of_stop hended round]
          exact .stopped hended reason round
      | wait =>
          rw [step_poll_of_wait hended round]
          exact .waited hended round

/-! ### What reaches the router

The observer's list of handled frames would say nothing if it could grow without the router. `Hands`
is the tie between the two from one moment to the next, and `step_hands` says that every step keeps
it; whatever a router keeps up is carried through a run by its cases. -/

/-- What is recorded from one moment to the next, and what the router has done meanwhile. -/
inductive Hands (w w' : Watched) : Prop where
  /-- The frame in front of the queue is recorded: the router, made ready for it, handled it. -/
  | frame (f : InboundFrame) (data : f.closeReason? = none)
      (queue_eq : w.loop.queue = f :: w'.loop.queue) (l : Loop)
      (router_eq : l.router = w.loop.router) (time_eq : l.time = w.loop.time)
      (handle_eq : (w'.loop.router, w'.disk) = l.prepare.router.handle w.disk l.prepare.instant f)
      (handled_eq : w'.handled = w.handled ++ [f])
  /-- Nothing is recorded: the router was left alone or closed, and no file has changed. -/
  | nothing
      (router_eq : w'.loop.router = w.loop.router ∨
        ∃ reason, w'.loop.router = w.loop.router.close reason)
      (disk_eq : w'.disk = w.disk) (handled_eq : w'.handled = w.handled)

/-- Only a round in which a frame is taken reaches the router, and just that frame is recorded. -/
theorem step_hands (w : Watched) (s : Step) : w.Hands (w.step s) := by
  by_cases hs : s = .poll
  · subst hs
    cases hended : w.loop.ended with
    | true =>
        rw [step_poll_of_ended hended]
        exact .nothing (.inl rfl) rfl rfl
    | false =>
        cases round : w.loop.arm.round with
        | take f =>
            obtain ⟨-, hqueue, data⟩ := round_eq_take round
            rw [arm_queue] at hqueue
            let l : Loop := { w.loop.arm with queue := w.loop.queue.tail, deadline := none }
            obtain ⟨mark, received⟩ := receive_eq l w.disk f
            rw [step_poll_of_take hended round received]
            exact .frame f data hqueue l w.loop.arm_router w.loop.arm_time rfl rfl
        | stop reason =>
            rw [step_poll_of_stop hended round]
            refine .nothing (.inr ⟨reason, ?_⟩) rfl rfl
            rw [← w.loop.arm_router]
            rfl
        | wait =>
            rw [step_poll_of_wait hended round]
            exact .nothing (.inl w.loop.arm_router) rfl rfl
  · have outside := w.step_outside hs
    exact .nothing (.inl outside.router_eq) outside.disk_eq outside.handled_eq

section Keeping

variable {P : List InboundFrame → Router → Prop}

/-- What a router keeps up whenever it receives a frame or is closed, it keeps up in a step. -/
theorem step_keeps
    (receive : ∀ (frames : List InboundFrame) (l : Loop) (d : Disk) (f : InboundFrame),
      f.closeReason? = none → P frames l.router → P (frames ++ [f]) (l.receive d f).1.router)
    (close : ∀ (frames : List InboundFrame) (r : Router) (reason : CloseReason),
      P frames r → P frames (r.close reason))
    {w : Watched} (hw : P w.handled w.loop.router) (s : Step) :
    P (w.step s).handled (w.step s).loop.router := by
  cases w.step_hands s with
  | frame f data queue l router time handle handled =>
      have received : (w.step s).loop.router = (l.receive w.disk f).1.router :=
        congrArg Prod.fst handle
      rw [handled, received]
      exact receive w.handled l w.disk f data (router ▸ hw)
  | nothing router disk handled =>
      rw [handled]
      obtain same | ⟨reason, closed⟩ := router
      · exact same ▸ hw
      · exact closed ▸ close w.handled w.loop.router reason hw

/-- What a router keeps up whenever it receives a frame or is closed, it keeps up in a run. -/
theorem run_keeps
    (receive : ∀ (frames : List InboundFrame) (l : Loop) (d : Disk) (f : InboundFrame),
      f.closeReason? = none → P frames l.router → P (frames ++ [f]) (l.receive d f).1.router)
    (close : ∀ (frames : List InboundFrame) (r : Router) (reason : CloseReason),
      P frames r → P frames (r.close reason))
    {w : Watched} (hw : P w.handled w.loop.router) (steps : List Step) :
    P (w.run steps).handled (w.run steps).loop.router := by
  induction steps using List.reverseRecOn with
  | nil => exact hw
  | append_singleton steps s ih =>
      rw [run_concat]
      exact step_keeps receive close ih s

end Keeping

/-! ### Runs and histories

A run is brought down to the history of the frames that were handled. Statements about audio, files
and containers need nothing else of it. -/

/-- What a run has to do with the history of what it has handled: the router follows it, and if the
loop has ended, the open turn has been dropped since. -/
def Follows (c : SessionConfig) (d₀ : Disk) (decoder : Decoder) (w : Watched) : Prop :=
  ∃ a : Router.AudioPart,
    a.Follows c d₀ (decoder.after w.handled) (decoder.history w.handled) w.disk ∧
      w.loop.router.audioPart = if w.loop.ended then a.dropTurn else a

variable {c : SessionConfig} {d₀ : Disk} {decoder : Decoder} {w : Watched}

theorem start_follows {router : Router}
    (hrouter : router.audioPart.Follows c d₀ decoder [] d₀) (time : Nat) (mark : TurnMark) :
    (start router d₀ time mark).Follows c d₀ decoder :=
  ⟨router.audioPart, hrouter, rfl⟩

/-- A loop that is started on a new router follows the empty history. -/
theorem create_follows {codec : Codec} {state : SessionState} {made : Instant} {r : Router}
    (created : Router.create codec c state made = .ok r) (d : Disk) (next : SessionState)
    (time : Nat) (mark : TurnMark) :
    (start (r.transition next) d time mark).Follows c d r.decoder := by
  apply start_follows
  rw [Router.audioPart_transition]
  exact Router.create_follows created d

theorem Polled.follows {w' : Watched} (h : Polled w w') (supported : c.outputChannels ≠ 0)
    (hw : w.Follows c d₀ decoder) : w'.Follows c d₀ decoder := by
  obtain ⟨a, follows, part⟩ := hw
  cases h with
  | ended hended => exact ⟨a, follows, part⟩
  | took live f round router same now mark =>
      have running : ¬ w.loop.ended = true := by simp [live]
      rw [if_neg running] at part
      rw [← part, ← same] at follows
      refine ⟨(router.handle w.disk now f).1.audioPart, ?_, (if_neg running).symm⟩
      show (router.handle w.disk now f).1.audioPart.Follows c d₀
        (decoder.after (w.handled ++ [f])) (decoder.history (w.handled ++ [f]))
        (router.handle w.disk now f).2
      rw [Decoder.after_concat, Decoder.history_concat]
      exact Router.handle_follows supported follows now f
  | stopped live reason round =>
      have running : ¬ w.loop.ended = true := by simp [live]
      rw [if_neg running] at part
      -- nothing is handled and nothing is written, but closing drops the open turn
      refine ⟨a, follows, ?_⟩
      rw [finish, Router.audioPart_close, arm_router, part]
      rfl
  | waited live round =>
      refine ⟨a, follows, ?_⟩
      rw [arm_router, Loop.ended, arm_outcome]
      exact part

theorem Follows.step (hw : w.Follows c d₀ decoder) (supported : c.outputChannels ≠ 0) (s : Step) :
    (w.step s).Follows c d₀ decoder := by
  by_cases hs : s = .poll
  · rw [hs]
    exact w.polled.follows supported hw
  · have outside := w.step_outside hs
    rw [Follows, Loop.ended, outside.router_eq, outside.outcome_eq, outside.disk_eq,
      outside.handled_eq]
    exact hw

/-- A run follows the history of what it has handled. -/
theorem Follows.run (hw : w.Follows c d₀ decoder) (supported : c.outputChannels ≠ 0)
    (steps : List Step) : (w.run steps).Follows c d₀ decoder := by
  induction steps using List.reverseRecOn with
  | nil => exact hw
  | append_singleton steps s ih =>
      rw [run_concat]
      exact ih.step supported s

/-- What a loop that follows a history has left on the disk is what filing its turns leaves. -/
theorem Follows.disk_eq (hw : w.Follows c d₀ decoder) :
    w.disk = (c.fileAll d₀ (decoder.history w.handled).finished).2 := by
  obtain ⟨a, follows, -⟩ := hw
  exact follows.disk_eq

/-- The report names the containers of the turns that could be filed, also when the loop has
ended. -/
theorem Follows.containers_eq (hw : w.Follows c d₀ decoder) :
    w.loop.router.report.containers =
      (c.fileAll d₀ (decoder.history w.handled).finished).1.filterMap
        fun f => f.container.toOption := by
  obtain ⟨a, follows, part⟩ := hw
  rw [← follows.containers_eq]
  -- closing drops the open turn, but leaves what has been written in the report
  have same := congrArg Router.AudioPart.containers part
  by_cases ended : w.loop.ended = true
  · rw [if_pos ended] at same
    exact same
  · rw [if_neg ended] at same
    exact same

end Watched

end Loop

end VoiceLink
