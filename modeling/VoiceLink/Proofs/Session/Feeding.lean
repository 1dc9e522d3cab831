import VoiceLink.Proofs.Session.Ordering
import VoiceLink.Proofs.Transport.Pump

/-!
# A receive loop at a pump

The queue of a receive loop is the buffer of a pump, and the loop takes from it whenever it goes
through a round. `Loop.Fed` puts the two together. As long as the loop runs, neither knows anything
that the other does not (`Fed.Together`); so what the loop says about the connection when it ends is
what the stream was like (`Loop.Tells`).

In `Loop.Fed` there is only one queue, and no message can be in both halves or in none. The
invariant has to hold only as long as the loop runs; the pump may go on after that, for nobody.
-/

namespace VoiceLink

open StreamItem (frames messages ending isEnd)

/-! ## The end of a stream

The pump and the loop each have a word for the end of a stream. They mean the same frame. -/

theorem InboundFrame.isLast_eq (f : InboundFrame) : f.isLast = f.closeReason?.isSome := by
  cases f <;> rfl

namespace StreamItem

variable {items : List StreamItem}

theorem isLast_ending (items : List StreamItem) : (ending items).isLast = true := by
  unfold ending
  split <;> rfl

/-- Only the first item that ends a stream can tell that it failed. -/
theorem ending_eq_failed {reason : String} :
    ending items = .failed reason ↔ items.find? isEnd = some (.failure reason) := by
  unfold ending
  split
  · next found => simp [found]
  · next other =>
    refine ⟨nofun, fun found => ?_⟩
    exact absurd found (other reason)

/-- What is delivered last is how the stream ended. -/
theorem eq_ending {f : InboundFrame} (h : f ∈ frames items) (last : f.isLast = true) :
    f = ending items := by
  rcases List.mem_append.1 h with message | tells
  · cases last.symm.trans (isLast_of_mem_messages message)
  · exact List.mem_singleton.1 tells

end StreamItem

namespace Loop

/-! ## Pump and loop

A step belongs to the pump or to the loop, or it is a frame that changes hands: the pump puts it
into the queue, and the loop takes it out. The invariant is proved step by step, and `Joined.poll`
is the one in which the loop may end. -/

/-- A receive loop and the pump whose buffer is its queue. -/
structure Fed where
  pump : Pump
  view : Watched

/-- What can happen to a loop and its pump. -/
inductive FedStep where
  /-- The pump reads an item. -/
  | read
  /-- The pump puts what it has read into the queue. -/
  | hand
  /-- The loop goes through a round. -/
  | poll
  | cancel
  | publishMark
  | dropMark
  | elapse (milliseconds : Nat)
  deriving DecidableEq, Repr

/-- What the loop says about the stream when it ends for a reason. -/
def Tells (items : List StreamItem) : CloseReason → Prop
  | .transportClosed => ending items = .closed
  | .transportFailed reason => ending items = .failed reason
  | .cancelled => True
  | .idleTimeout => True

namespace Fed

/-- A pump on a stream, and a loop that is started on a router. -/
def start (items : List StreamItem) (router : Router) (d : Disk) (time : Nat) (mark : TurnMark) :
    Fed :=
  { pump := .start items, view := .start router d time mark }

/-- What a pump no longer holds has been delivered. -/
def arrive (view : Watched) (before after : Pump) : Watched :=
  match before.held with
  | none => view
  | some f => if after.held.isSome then view else view.step (.deliver f)

/-- The pump puts what it has read into the queue. A pump that reads no more closes the channel. -/
def hand (x : Fed) : Fed :=
  let pump := x.pump.hand
  let view := arrive x.view x.pump pump
  { pump, view := if pump.running then view else view.step .hangUp }

/-- The loop goes through a round. It looks for a frame unless it is cancelled; when it ends, nobody
receives any more. -/
def poll (x : Fed) : Fed :=
  let view := x.view.step .poll
  let pump := if x.view.loop.ended || x.view.loop.cancelled then x.pump else x.pump.take
  { pump := if view.loop.ended then pump.leave else pump, view }

/-- One thing happens. -/
def step (x : Fed) : FedStep → Fed
  | .read => { x with pump := x.pump.read }
  | .hand => x.hand
  | .poll => x.poll
  | .cancel => { x with view := x.view.step .cancel }
  | .publishMark => { x with view := x.view.step .publishMark }
  | .dropMark => { x with view := x.view.step .dropMark }
  | .elapse milliseconds => { x with view := x.view.step (.elapse milliseconds) }

def run (x : Fed) (steps : List FedStep) : Fed := steps.foldl step x

@[simp]
theorem run_concat (x : Fed) (steps : List FedStep) (s : FedStep) :
    x.run (steps ++ [s]) = (x.run steps).step s := by
  simp [run]

/-- What the pump and the loop have in common while the loop runs. -/
structure Together (x : Fed) : Prop where
  receiving : x.pump.receiving = true
  queue : x.pump.buffer = x.view.loop.queue
  handled : x.pump.delivered = x.view.handled
  channelOpen : x.view.loop.channelOpen = x.pump.running

/-- What holds of a loop and its pump throughout. -/
structure Joined (items : List StreamItem) (idleTimeout : Nat) (x : Fed) : Prop where
  pump : x.pump.Faithful items
  view : x.view.Sound idleTimeout
  live : x.view.loop.ended = false → x.Together
  outcome : ∀ outcome ∈ x.view.loop.outcome, ∃ reason,
    outcome = outcomeOf x.view.loop.router.report reason ∧
      x.view.loop.router.report.closeReason = some reason ∧ Tells items reason

theorem start_joined (items : List StreamItem) (router : Router) (d : Disk) (time : Nat)
    (mark : TurnMark) :
    (start items router d time mark).Joined items router.config.idleTimeout where
  pump := Pump.start_faithful items
  view := Watched.start_sound router d time mark
  live _ := ⟨rfl, rfl, rfl, rfl⟩
  outcome := nofun

variable {items : List StreamItem} {idleTimeout : Nat} {x : Fed}

/-- A loop that stops because of its connection tells how the stream ended. -/
theorem Joined.tells (hx : x.Joined items idleTimeout) (live : x.view.loop.ended = false)
    {reason : CloseReason} (round : x.view.loop.arm.round = .stop reason) : Tells items reason := by
  have together := hx.live live
  have whole := hx.pump.whole together.receiving
  rw [together.handled, together.queue, ← hx.view.delivered_eq] at whole
  have last {f : InboundFrame} {rest : List InboundFrame} (ends : f.isLast = true)
      (delivered : x.view.delivered = x.view.handled ++ f :: rest) : ending items = f := by
    refine (StreamItem.eq_ending ?_ ends).symm
    rw [← whole, delivered]
    simp
  have justified := hx.view.justifies round
  cases reason with
  | cancelled => trivial
  | idleTimeout => trivial
  | transportFailed reason =>
      obtain ⟨rest, delivered⟩ := justified
      exact last rfl delivered
  | transportClosed =>
      rcases justified with ⟨rest, delivered⟩ | ⟨delivered, closed⟩
      · exact last rfl delivered
      · -- a channel is closed behind the last frame, which no router is handed
        have stopped : x.pump.running = false := together.channelOpen.symm.trans closed
        rw [Pump.toCome, if_neg (by simp [stopped]), List.append_nil, delivered] at whole
        have mem : ending items ∈ x.view.handled := by
          rw [whole]
          simp [frames]
        have ends := StreamItem.isLast_ending items
        rw [InboundFrame.isLast_eq, hx.view.handled_data _ mem] at ends
        cases ends

/-- As long as no round is gone through, pump and loop have to be compared only where the loop
runs. -/
theorem Joined.outside (hx : x.Joined items idleTimeout) {x' : Fed}
    (pump : x'.pump.Faithful items) (view : x'.view.Sound idleTimeout)
    (outcome : x'.view.loop.outcome = x.view.loop.outcome)
    (router : x'.view.loop.router = x.view.loop.router)
    (live : x.view.loop.ended = false → x.Together → x'.Together) :
    x'.Joined items idleTimeout where
  pump := pump
  view := view
  live running := by
    rw [ended, outcome] at running
    exact live running (hx.live running)
  outcome := by
    rw [outcome, router]
    exact hx.outcome

theorem Joined.read (hx : x.Joined items idleTimeout) :
    (x.step .read).Joined items idleTimeout := by
  refine hx.outside (hx.pump.step .read) hx.view rfl rfl fun _ together => ?_
  have stepped := x.pump.stepped .read
  show Together { x with pump := x.pump.step .read }
  generalize x.pump.step .read = pump at stepped ⊢
  cases stepped with
  | idle => exact together
  | ended => exact { together with }
  | got => exact { together with }

/-- What the caller does leaves the queue alone. -/
theorem Joined.aside (hx : x.Joined items idleTimeout) {s : Step} (inside : s ≠ .poll)
    (queue : (x.view.step s).loop.queue = x.view.loop.queue)
    (channelOpen : (x.view.step s).loop.channelOpen = x.view.loop.channelOpen) :
    ({ x with view := x.view.step s } : Fed).Joined items idleTimeout := by
  have outside := x.view.step_outside inside
  refine hx.outside hx.pump (hx.view.step s) outside.outcome_eq outside.router_eq ?_
  intro _ together
  exact
    { receiving := together.receiving
      queue := together.queue.trans queue.symm
      handled := together.handled.trans outside.handled_eq.symm
      channelOpen := channelOpen.trans together.channelOpen }

/-- The channel is closed as soon as its pump stops. -/
theorem Joined.closing (hx : x.Joined items idleTimeout) {pump : Pump} {view : Watched}
    (faithful : pump.Faithful items) (sound : view.Sound idleTimeout)
    (outcome : view.loop.outcome = x.view.loop.outcome)
    (router : view.loop.router = x.view.loop.router)
    (live : x.view.loop.ended = false → x.Together → pump.receiving = true ∧
      pump.buffer = view.loop.queue ∧ pump.delivered = view.handled ∧
      (pump.running = true → view.loop.channelOpen = true)) :
    ({ pump, view := if pump.running then view else view.step .hangUp } : Fed).Joined items
      idleTimeout := by
  cases running : pump.running with
  | true =>
      refine hx.outside faithful sound outcome router fun ongoing together => ?_
      obtain ⟨receiving, queue, handled, channelOpen⟩ := live ongoing together
      exact ⟨receiving, queue, handled, (channelOpen running).trans running.symm⟩
  | false =>
      refine hx.outside faithful (sound.step .hangUp) outcome router fun ongoing together => ?_
      obtain ⟨receiving, queue, handled, -⟩ := live ongoing together
      exact ⟨receiving, queue, handled, running.symm⟩

/-- What is put into the buffer is put into the queue. -/
theorem Joined.hand (hx : x.Joined items idleTimeout) :
    (x.step .hand).Joined items idleTimeout := by
  have faithful := hx.pump.step .hand
  have stepped := x.pump.stepped .hand
  show Joined items idleTimeout x.hand
  unfold Fed.hand
  change x.pump.hand.Faithful items at faithful
  change x.pump.Stepped .hand x.pump.hand at stepped
  generalize x.pump.hand = pump at faithful stepped ⊢
  cases stepped with
  | idle =>
      have same : arrive x.view x.pump x.pump = x.view := by
        unfold arrive
        split
        · rfl
        · next held => simp [held]
      dsimp only
      rw [same]
      exact hx.closing hx.pump hx.view rfl rfl fun _ together =>
        ⟨together.receiving, together.queue, together.handled, together.channelOpen.trans⟩
  | handed f held receiving room =>
      -- handing on is delivering, seen from the loop
      have arrives : arrive x.view x.pump
          { x.pump with held := none, buffer := x.pump.buffer ++ [f], running := !f.isLast } =
            x.view.step (.deliver f) := by
        simp [arrive, held]
      have outside := x.view.step_outside (s := .deliver f) (by simp)
      dsimp only at arrives ⊢
      rw [arrives]
      refine hx.closing faithful (hx.view.step (.deliver f)) outside.outcome_eq outside.router_eq
        fun live together => ?_
      have opened := together.channelOpen.trans (hx.pump.running held)
      have accepted : (x.view.step (.deliver f)).loop =
          { x.view.loop with queue := x.view.loop.queue ++ [f] } := by
        simp [Watched.step, deliver, live, opened]
      refine ⟨receiving, ?_, together.handled.trans outside.handled_eq.symm, fun _ => ?_⟩
      · rw [accepted, together.queue]
      · rw [accepted]
        exact opened
  | dropped f held gone =>
      have arrives : arrive x.view x.pump { x.pump with held := none, running := false } =
          x.view.step (.deliver f) := by
        simp [arrive, held]
      have outside := x.view.step_outside (s := .deliver f) (by simp)
      dsimp only at arrives ⊢
      rw [arrives]
      refine hx.closing faithful (hx.view.step (.deliver f)) outside.outcome_eq outside.router_eq
        fun live together => ?_
      -- as long as the loop runs there is a receiver
      cases together.receiving.symm.trans gone

/-- A round takes from the buffer what it hands to the router. -/
theorem Joined.poll (hx : x.Joined items idleTimeout) :
    (x.step .poll).Joined items idleTimeout := by
  have sound := hx.view.step .poll
  have polled := x.view.polled
  show Joined items idleTimeout x.poll
  unfold Fed.poll
  generalize x.view.step .poll = view at sound polled ⊢
  cases polled with
  | ended hended =>
      simp only [hended, Bool.true_or, ↓reduceIte]
      refine hx.outside (hx.pump.step .leave) hx.view rfl rfl fun live => ?_
      cases hended.symm.trans live
  | took live f round router same now mark =>
      obtain ⟨uncancelled, queue, -⟩ := round_eq_take round
      rw [arm_cancelled] at uncancelled
      rw [arm_queue] at queue
      have looks : (x.view.loop.ended || x.view.loop.cancelled) = false := by
        rw [live, uncancelled, Bool.or_false]
      have still : x.view.loop.outcome.isSome = false := live
      simp only [looks, Bool.false_eq_true, ↓reduceIte]
      simp only [ended, still, Bool.false_eq_true, ↓reduceIte]
      refine ⟨hx.pump.step .take, sound, fun _ => ?_, fun outcome ends => ?_⟩
      · have together := hx.live live
        -- what the router is handed is what the pump calls delivered
        have takes : x.pump.take =
            { x.pump with
              buffer := x.view.loop.queue.tail, delivered := x.pump.delivered ++ [f] } := by
          rw [Pump.take, together.queue, queue]
          simp [together.receiving]
        rw [takes]
        exact
          { receiving := together.receiving
            queue := rfl
            handled := congrArg (· ++ [f]) together.handled
            channelOpen := together.channelOpen }
      · have none : x.view.loop.outcome = none := by simpa using still
        cases none.symm.trans ends
  | stopped live reason round =>
      -- whether the last round took a frame or not, nobody receives after it
      have taken : (if x.view.loop.ended || x.view.loop.cancelled then x.pump
          else x.pump.take).Faithful items := by
        split
        · exact hx.pump
        · exact hx.pump.step .take
      refine ⟨taken.step .leave, sound, fun live => ?_, fun outcome ends => ?_⟩
      · cases live
      · exact ⟨reason, (Option.some.inj ends).symm, rfl, hx.tells live round⟩
  | waited live round =>
      obtain ⟨uncancelled, queue, -⟩ := round_eq_wait round
      rw [arm_cancelled] at uncancelled
      rw [arm_queue] at queue
      have still : x.view.loop.arm.ended = false := by
        rw [ended, arm_outcome]
        exact live
      -- there was nothing to take
      have nothing : x.pump.take = x.pump := by
        rw [Pump.take, (hx.live live).queue, queue]
      simp only [live, uncancelled, Bool.or_self, Bool.false_eq_true, ↓reduceIte, still, nothing]
      refine hx.outside hx.pump sound (arm_outcome _) (arm_router _) fun _ together => ?_
      exact
        { receiving := together.receiving
          queue := together.queue.trans (arm_queue _).symm
          handled := together.handled
          channelOpen := (arm_channelOpen _).trans together.channelOpen }

theorem Joined.step (hx : x.Joined items idleTimeout) (s : FedStep) :
    (x.step s).Joined items idleTimeout := by
  cases s with
  | read => exact hx.read
  | hand => exact hx.hand
  | poll => exact hx.poll
  | cancel => exact hx.aside (by simp) rfl rfl
  | publishMark =>
      have same : (x.view.step .publishMark).loop.queue = x.view.loop.queue ∧
          (x.view.step .publishMark).loop.channelOpen = x.view.loop.channelOpen := by
        simp only [Watched.step, Loop.publishMark]
        split <;> exact ⟨rfl, rfl⟩
      exact hx.aside (by simp) same.1 same.2
  | dropMark => exact hx.aside (by simp) rfl rfl
  | elapse milliseconds => exact hx.aside (by simp) rfl rfl

theorem Joined.run (hx : x.Joined items idleTimeout) (steps : List FedStep) :
    (x.run steps).Joined items idleTimeout := by
  induction steps using List.reverseRecOn with
  | nil => exact hx
  | append_singleton steps s ih =>
      rw [run_concat]
      exact ih.step s

/-- A loop that ends with an error was told by its pump that the stream had failed. -/
theorem Joined.failed (hx : x.Joined items idleTimeout) {e : SessionError}
    (h : x.view.loop.outcome = some (.error e)) :
    ∃ reason, e = .transport reason ∧ items.find? isEnd = some (.failure reason) := by
  obtain ⟨reason, outcome, -, tells⟩ := hx.outcome _ h
  cases reason with
  | transportClosed => cases outcome
  | cancelled => cases outcome
  | idleTimeout => cases outcome
  | transportFailed reason =>
      cases outcome
      exact ⟨reason, rfl, StreamItem.ending_eq_failed.1 tells⟩

end Fed

end Loop

/-! ## What arrives

What the pump alone promises, without a loop: everything in order, and all of it if everyone gets a
turn. -/

namespace Pump

variable {items : List StreamItem} {p : Pump}

/-- When nothing is left to do and there has been a receiver, everything has been delivered. -/
theorem Faithful.delivered_eq (hp : p.Faithful items) (receiving : p.receiving = true)
    (settled : p.Settled) : p.delivered = frames items := by
  have whole := hp.whole receiving
  rw [toCome, if_neg (by simp [settled.1]), settled.2, List.append_nil, List.append_nil] at whole
  exact whole

/-- Three rounds for every item and for the end are enough for all that is left to do. -/
theorem start_settled (items : List StreamItem) (steps : List PumpStep)
    {rounds : List (List PumpStep)}
    (turns : ∀ r ∈ rounds, Round ((start items).run steps).receiving r)
    (enough : 3 * (items.length + 1) ≤ rounds.length) :
    (((start items).run steps).run rounds.flatten).Settled := by
  have faithful := start_faithful items
  refine (faithful.run steps).run_rounds turns (Nat.le_trans (faithful.work_run_le steps) ?_)
  exact Nat.le_trans (Nat.le_of_eq (by simp [work, start])) enough

/-- As long as there is a receiver and everyone gets a turn, all frames of a stream are
delivered. -/
theorem start_delivers (items : List StreamItem) {steps : List PumpStep} (stays : .leave ∉ steps)
    {rounds : List (List PumpStep)}
    (turns : ∀ r ∈ rounds, .read ∈ r ∧ .hand ∈ r ∧ .take ∈ r ∧ .leave ∉ r)
    (enough : 3 * (items.length + 1) ≤ rounds.length) :
    (((start items).run steps).run rounds.flatten).delivered = frames items := by
  have everyone : ∀ r ∈ rounds, Round ((start items).run steps).receiving r := fun r hr =>
    ⟨(turns r hr).1, (turns r hr).2.1, fun _ => (turns r hr).2.2⟩
  have settled := start_settled items steps everyone enough
  refine Faithful.delivered_eq (((start_faithful items).run steps).run _) ?_ settled
  rw [receiving_run, receiving_run]
  refine ⟨⟨rfl, stays⟩, fun leaves => ?_⟩
  obtain ⟨r, hr, leaves⟩ := List.mem_flatten.1 leaves
  exact (turns r hr).2.2.2 leaves

/-- When its receiver has gone away a pump stops. -/
theorem start_stops (items : List StreamItem) {steps : List PumpStep} (leaves : .leave ∈ steps)
    {rounds : List (List PumpStep)} (turns : ∀ r ∈ rounds, .read ∈ r ∧ .hand ∈ r)
    (enough : 3 * (items.length + 1) ≤ rounds.length) :
    (((start items).run steps).run rounds.flatten).running = false := by
  have gone : ((start items).run steps).receiving ≠ true := by
    rw [Ne, receiving_run]
    exact fun there => there.2 leaves
  exact (start_settled items steps
    (fun r hr => ⟨(turns r hr).1, (turns r hr).2, fun there => absurd there gone⟩) enough).1

end Pump

open Loop (Fed FedStep)

/-- **What a stream delivers.** Whatever the order of reads and of the receiver's looks: what has
been delivered is a beginning of the messages of the stream up to its end and the one frame that
tells how it ended. As long as the receiver stays and everyone gets a turn, all of it arrives and
nothing else; when the receiver has gone away, nothing more does, and the pump stops. A receive loop
that is fed by the pump ends with an error only if the first item that ended the stream was a
failure. -/
theorem stream_delivered (items : List StreamItem) :
    (∀ steps : List PumpStep,
      let p := (Pump.start items).run steps
      p.delivered <+: messages items ++ [ending items] ∧
        (.leave ∉ steps → ∀ rounds : List (List PumpStep),
          (∀ r ∈ rounds, .read ∈ r ∧ .hand ∈ r ∧ .take ∈ r ∧ .leave ∉ r) →
          3 * (items.length + 1) ≤ rounds.length →
          (p.run rounds.flatten).delivered = messages items ++ [ending items]) ∧
        (.leave ∈ steps →
          (∀ later, (p.run later).delivered = p.delivered) ∧
            ∀ rounds : List (List PumpStep), (∀ r ∈ rounds, .read ∈ r ∧ .hand ∈ r) →
              3 * (items.length + 1) ≤ rounds.length →
              (p.run rounds.flatten).running = false)) ∧
      ∀ (router : Router) (d : Disk) (time : Nat) (mark : TurnMark) (steps : List FedStep),
        let x := (Fed.start items router d time mark).run steps
        x.pump.delivered <+: messages items ++ [ending items] ∧
          ∀ e, x.view.loop.outcome = some (.error e) →
            ∃ reason, e = .transport reason ∧ items.find? isEnd = some (.failure reason) := by
  refine ⟨fun steps => ⟨?_, ?_, ?_⟩, fun router d time mark steps => ?_⟩
  · exact ((Pump.start_faithful items).run steps).front
  · intro stays rounds turns enough
    exact Pump.start_delivers items stays turns enough
  · intro leaves
    refine ⟨fun later => Pump.delivered_run ?_ later, fun rounds turns enough => ?_⟩
    · rw [← Bool.not_eq_true, Pump.receiving_run]
      exact fun there => there.2 leaves
    · exact Pump.start_stops items leaves turns enough
  · have joined := (Fed.start_joined items router d time mark).run steps
    exact ⟨joined.pump.front, fun e failed => joined.failed failed⟩

/-- A text arrives, a ping does not, and of what follows a failure nothing does; a receiver that has
gone away gets nothing, and a loop that takes the failure ends with it. -/
theorem stream_delivered_failure :
    let items : List StreamItem := [.text "a", .ping [], .failure "reset", .text "b"]
    ((Pump.start items).run (List.replicate 15 [.read, .hand, .take]).flatten).delivered =
        [.text "a", .failed "reset"] ∧
      (((Pump.start items).run [.leave]).run (List.replicate 15 [.read, .hand]).flatten).running =
        false ∧
      ∃ router, Router.create .silent {} .active 0 = .ok router ∧
        let x := (Fed.start items.tail router { tree := .empty, cwd := [] } 0 {}).run
          [.read, .read, .hand, .poll]
        ∃ e, x.view.loop.outcome = some (.error e) ∧ e = .transport "reset" ∧
          items.tail.find? isEnd = some (.failure "reset") := by
  intro items
  obtain ⟨pumped, -⟩ := stream_delivered items
  have created : ∃ router, Router.create .silent {} .active 0 = .ok router := ⟨_, rfl⟩
  obtain ⟨router, created⟩ := created
  refine ⟨?_, ?_, router, created, ?_⟩
  · obtain ⟨-, all, -⟩ := pumped []
    have turns : ∀ r ∈ List.replicate 15 [PumpStep.read, .hand, .take],
        PumpStep.read ∈ r ∧ PumpStep.hand ∈ r ∧ PumpStep.take ∈ r ∧ PumpStep.leave ∉ r := by
      intro r hr
      rw [List.eq_of_mem_replicate hr]
      decide
    exact all (by decide) _ turns (by decide)
  · obtain ⟨-, -, gone⟩ := pumped [.leave]
    have turns : ∀ r ∈ List.replicate 15 [PumpStep.read, .hand],
        PumpStep.read ∈ r ∧ PumpStep.hand ∈ r := by
      intro r hr
      rw [List.eq_of_mem_replicate hr]
      decide
    exact (gone (by decide)).2 _ turns (by decide)
  · obtain ⟨-, fed⟩ := stream_delivered items.tail
    obtain ⟨-, failed⟩ := fed router { tree := .empty, cwd := [] } 0 {} [.read, .read, .hand, .poll]
    cases created
    obtain ⟨reason, same, found⟩ := failed (.transport "reset") rfl
    cases same
    exact ⟨_, rfl, rfl, found⟩

end VoiceLink
