import VoiceLink.Proofs.Session.Cancelling

/-!
# The states a session goes through

The state changes in two places: the start of a session greets, and the receive loop does the rest.
Both go through `Router.transition`, which publishes a state and records it. `Session.run_states`
says what comes of that: the record is a beginning of `connecting, helloSent, active, closing,
closed`, in which `active` stands for the first frame that was handled, and what is published is the
last of it.

As in the account of messages, a router is cut down to the part that is of interest, here its state,
and every other thing that a router does is shown not to touch it.
-/

namespace VoiceLink

namespace SessionState

/-- The states that a session has gone through, if it has handled a frame and if it has ended. -/
def course (active ended : Bool) : List SessionState :=
  [.connecting, .helloSent] ++ (if active then [.active] else [])
    ++ (if ended then [.closing, .closed] else [])

theorem pairwise_course (active ended : Bool) :
    (course active ended).Pairwise (·.rank < ·.rank) := by
  cases active <;> cases ended <;> decide

theorem active_mem_course {active ended : Bool} :
    SessionState.active ∈ course active ended ↔ active = true := by
  cases active <;> cases ended <;> decide

/-- A session that goes on has its states behind those it had. -/
theorem course_prefix {active active' ended ended' : Bool} (grown : active = true → active' = true)
    (final : ended = true → ended' = true ∧ active' = active) :
    course active ended <+: course active' ended' := by
  revert grown final
  cases active <;> cases active' <;> cases ended <;> cases ended' <;> decide

end SessionState

/-! ## The part of a router that has to do with its state

`transition` does nothing when the state is the current one, so that a record never has one state
twice in a row. Only a frame that comes first and the end of the loop go on to another one. -/

namespace Router

/-- What a router publishes and records of its state, with the number of frames. -/
structure StatePart where
  state : SessionState
  states : List SessionState
  framesReceived : Nat

def statePart (r : Router) : StatePart :=
  { state := r.state, states := r.report.states, framesReceived := r.report.framesReceived }

namespace StatePart

def enter (p : StatePart) (next : SessionState) : StatePart :=
  if p.state = next then p else { p with state := next, states := p.states ++ [next] }

/-- A frame comes in: the first one makes a session active that has greeted. -/
def hear (p : StatePart) : StatePart :=
  let p := if p.state = .helloSent then p.enter .active else p
  { p with framesReceived := p.framesReceived + 1 }

/-- The state part of a session that was started. -/
def ofCourse (received : Nat) (ended : Bool) : StatePart where
  state := if ended then .closed else if received = 0 then .helloSent else .active
  states := SessionState.course (0 < received) ended
  framesReceived := received

theorem getLast?_ofCourse (received : Nat) (ended : Bool) :
    (ofCourse received ended).states.getLast? = some (ofCourse received ended).state := by
  cases received <;> cases ended <;> rfl

theorem hear_ofCourse (received : Nat) :
    (ofCourse received false).hear = ofCourse (received + 1) false := by
  cases received <;> rfl

theorem close_ofCourse (received : Nat) :
    ((ofCourse received false).enter .closing).enter .closed = ofCourse received true := by
  cases received <;> rfl

end StatePart

variable (r : Router) (d : Disk) (now : Instant)

@[simp]
theorem statePart_transition (next : SessionState) :
    (r.transition next).statePart = r.statePart.enter next := by
  unfold transition StatePart.enter
  by_cases same : r.state = next
  · rw [if_pos same, if_pos (show r.statePart.state = next from same)]
  · rw [if_neg same, if_neg (show r.statePart.state ≠ next from same)]
    rfl

@[simp]
theorem statePart_countDiscarded : r.countDiscarded.statePart = r.statePart := by
  unfold countDiscarded
  split <;> rfl

@[simp]
theorem statePart_resetAudio : r.resetAudio.statePart = r.statePart := rfl

@[simp]
theorem statePart_startLatency : (r.startLatency now).statePart = r.statePart := rfl

/-- Closing goes through both of the last states. -/
@[simp]
theorem statePart_close (reason : CloseReason) :
    (r.close reason).statePart = (r.statePart.enter .closing).enter .closed := by
  have closed (s : Router) (latency : LatencyTracker) : (s.account fun a =>
      { a with closeReason := some reason, latency }).statePart = s.statePart := rfl
  simp [close, closed]

@[simp]
theorem statePart_startTurn : r.startTurn.statePart = r.statePart := by
  rw [startTurn, statePart_resetAudio, statePart_countDiscarded]
  split <;> rfl

@[simp]
theorem statePart_abortTurn : (r.abortTurn now).statePart = r.statePart := by
  have told (s : Router) (e : SessionEvent) : (s.emit e).statePart = s.statePart := rfl
  simp [abortTurn, told]

@[simp]
theorem statePart_dumpRaw : (r.dumpRaw d).1.statePart = r.statePart := by
  unfold dumpRaw
  split
  · split <;> rfl
  · rfl

@[simp]
theorem statePart_flush : (r.flush d now).1.statePart = r.statePart := by
  cases written : r.writer.write d r.accumulator.snapshot with
  | mk result rest =>
      obtain ⟨w, d'⟩ := rest
      cases result with
      | error e =>
          simp only [flush, written]
          rfl
      | ok m =>
          simp only [flush, written]
          exact statePart_dumpRaw { r with writer := w } d'

@[simp]
theorem statePart_handleAudio (p : Packet) : (r.handleAudio now p).statePart = r.statePart := by
  unfold handleAudio
  cases decoded : r.decoder.decode p with
  | mk result decoder =>
      cases dump : r.config.dumpRawOpus <;> cases result <;>
        simp [account, note, decoded, dump, statePart]

@[simp]
theorem statePart_greet (sessionId : Option String) (params : Option AudioParams) :
    (r.greet sessionId params).statePart = r.statePart := by
  cases params with
  | none => cases sessionId <;> rfl
  | some p => cases sessionId <;> dsimp only [greet] <;> split <;> rfl

theorem statePart_handleMessage (m : ControlMessage) :
    (r.handleMessage d now m).1.statePart = r.statePart := by
  cases m with
  | hello sessionId transport params => exact r.statePart_greet sessionId params
  | tts state text =>
      cases state with
      | stop => exact r.statePart_flush d now
      | start => exact r.statePart_startTurn
      | _ => rfl
  | abort reason => exact r.statePart_abortTurn now
  | _ => rfl

/-- No frame changes the state by what is in it. -/
@[simp]
theorem statePart_handle (f : InboundFrame) : (r.handle d now f).1.statePart = r.statePart := by
  cases f with
  | closed => rfl
  | failed reason => rfl
  | binary p => exact r.statePart_handleAudio now p
  | text content =>
      simp only [handle, handleText]
      cases ControlMessage.parse content with
      | error e => rfl
      | ok m => exact statePart_handleMessage _ d now m

end Router

/-! ## Runs of the receive loop

The record is known from two numbers: how many frames have been handled, and whether the loop has
ended. -/

namespace Loop

theorem statePart_prepare (l : Loop) : l.prepare.router.statePart = l.router.statePart.hear := by
  have marked (l' : Loop) : l'.takeMark.router.statePart = l'.router.statePart := by
    unfold takeMark
    split
    · split <;> rfl
    · rfl
  have active : (if l.router.state = .helloSent then l.router.transition .active
      else l.router).statePart = if l.router.statePart.state = .helloSent
        then l.router.statePart.enter .active else l.router.statePart := by
    rw [← Router.statePart_transition]
    exact apply_ite Router.statePart _ _ _
  rw [prepare, marked, Router.StatePart.hear, ← active]
  rfl

theorem statePart_receive (l : Loop) (d : Disk) (f : InboundFrame) :
    (l.receive d f).1.router.statePart = l.router.statePart.hear := by
  rw [← statePart_prepare]
  exact Router.statePart_handle _ d _ f

/-- What is recorded of a loop's states fits what it has handled: the frames that were delivered up
to some point, all of them data. The report it gives back is its router's. -/
structure Watched.Charted (w : Watched) : Prop where
  statePart_eq : w.loop.router.statePart = .ofCourse w.handled.length w.loop.ended
  report_eq : ∀ report, w.loop.outcome = some (.ok report) → report = w.loop.router.report
  delivered_eq : w.delivered = w.handled ++ w.loop.queue
  handled_data : ∀ f ∈ w.handled, f.closeReason? = none

namespace Watched

variable {w : Watched}

/-- A round takes a frame and is one frame further, or goes through the last states. -/
theorem Charted.poll (hw : w.Charted) : (w.step .poll).Charted := by
  cases hended : w.loop.ended with
  | true =>
      rw [step_poll_of_ended hended]
      exact hw
  | false =>
      have chart := hw.statePart_eq
      rw [hended] at chart
      cases round : w.loop.arm.round with
      | take f =>
          obtain ⟨-, hqueue, data⟩ := round_eq_take round
          rw [arm_queue] at hqueue
          rw [step_poll_of_take hended round rfl]
          let l : Loop := { w.loop.arm with queue := w.loop.queue.tail, deadline := none }
          obtain ⟨mark, received⟩ := receive_eq l w.disk f
          have outcome : (l.receive w.disk f).1.outcome = none := by
            rw [received]
            exact w.loop.arm_outcome.trans (by simpa [ended] using hended)
          have live : (l.receive w.disk f).1.ended = false := by
            rw [ended, outcome]
            rfl
          -- what is in the frame does not matter, only that there is one more
          have heard : (l.receive w.disk f).1.router.statePart =
              .ofCourse (w.handled.length + 1) false := by
            have same : l.router = w.loop.router := w.loop.arm_router
            rw [l.statePart_receive w.disk f, same, chart, Router.StatePart.hear_ofCourse]
          refine ⟨?_, ?_, ?_, ?_⟩
          · show (l.receive w.disk f).1.router.statePart =
              .ofCourse (w.handled ++ [f]).length (l.receive w.disk f).1.ended
            rw [heard, live, List.length_append, List.length_singleton]
          · intro report h
            cases outcome.symm.trans h
          · show w.delivered = (w.handled ++ [f]) ++ (l.receive w.disk f).1.queue
            rw [received, hw.delivered_eq, hqueue]
            simp [l]
          · intro g hg
            rcases List.mem_append.1 hg with hg | hg
            · exact hw.handled_data g hg
            · rw [List.mem_singleton.1 hg]
              exact data
      | stop reason =>
          rw [step_poll_of_stop hended round]
          refine ⟨?_, ?_, ?_, hw.handled_data⟩
          · show (w.loop.arm.router.close reason).statePart = _
            rw [Router.statePart_close, arm_router, chart, Router.StatePart.close_ofCourse]
            rfl
          · intro report h
            cases reason <;> cases h
            all_goals rfl
          · simpa [finish] using hw.delivered_eq
      | wait =>
          rw [step_poll_of_wait hended round]
          refine ⟨?_, ?_, by simpa using hw.delivered_eq, hw.handled_data⟩
          · simpa [ended] using hw.statePart_eq
          · simpa using hw.report_eq

theorem Charted.step (hw : w.Charted) (s : Step) : (w.step s).Charted := by
  by_cases hs : s = .poll
  · rw [hs]
    exact hw.poll
  · have outside := w.step_outside hs
    obtain ⟨frames, queue, delivered, -⟩ := outside.arrived
    exact
      { statePart_eq := by
          rw [outside.router_eq, outside.handled_eq, ended, outside.outcome_eq]
          exact hw.statePart_eq
        report_eq := by
          rw [outside.outcome_eq, outside.router_eq]
          exact hw.report_eq
        delivered_eq := by
          rw [delivered, queue, outside.handled_eq, hw.delivered_eq, List.append_assoc]
        handled_data := outside.handled_eq ▸ hw.handled_data }

theorem handled_prefix (w : Watched) (s : Step) : w.handled <+: (w.step s).handled := by
  by_cases hs : s = .poll
  · have polled := w.polled
    rw [hs]
    generalize w.step .poll = w' at polled ⊢
    cases polled with
    | ended hended => exact List.prefix_rfl
    | took live f round router same now mark => exact List.prefix_append _ _
    | stopped live reason round => exact List.prefix_rfl
    | waited live round => exact List.prefix_rfl
  · rw [(w.step_outside hs).handled_eq]

/-- What has been recorded stays, and more may come behind it. -/
theorem Charted.states_prefix (hw : w.Charted) (s : Step) :
    w.loop.router.report.states <+: (w.step s).loop.router.report.states := by
  have states := congrArg Router.StatePart.states hw.statePart_eq
  have states' := congrArg Router.StatePart.states (hw.step s).statePart_eq
  change w.loop.router.report.states = _ at states
  change (w.step s).loop.router.report.states = _ at states'
  rw [states, states']
  apply SessionState.course_prefix
  · have grown := (w.handled_prefix s).length_le
    simp only [decide_eq_true_eq]
    omega
  · intro hended
    obtain ⟨outcome, -, -, handled⟩ := ended_step hended s
    refine ⟨?_, by rw [handled]⟩
    rw [ended, outcome]
    exact hended

/-- Where the connection ends before any frame, none is handled. -/
theorem Charted.handled_eq_nil (hw : w.Charted) {f : InboundFrame} (first : f ∈ w.delivered.head?)
    (last : f.closeReason?.isSome) : w.handled = [] := by
  cases handled : w.handled with
  | nil => rfl
  | cons g frames =>
      rw [hw.delivered_eq, handled] at first
      have same : g = f := Option.some.inj first
      have data := hw.handled_data g (handled ▸ List.mem_cons_self)
      rw [← same, data] at last
      cases last

end Watched

end Loop

namespace Session

/-! ## Runs of a session

The caller cannot write to the record, so what is true of the loop is true of the session. -/

/-- What is recorded of the states of a session: the last of them is published, they only go
forward, and they are those that the session must have gone through. If the receive loop has given
back a report, it is this one. -/
structure Recorded (s : Session) : Prop where
  published : s.loop.router.report.states.getLast? = some s.state
  forward : s.loop.router.report.states.Pairwise (·.rank < ·.rank)
  course : s.loop.router.report.states =
    SessionState.course (0 < s.loop.router.report.framesReceived) s.loop.ended
  report_eq : ∀ report, s.loop.outcome = some (.ok report) → report = s.loop.router.report

/-- Something happens to a session: a step of its parties, or one of the receive loop's own, among
which is that it is cancelled. -/
def Watched.happen (w : Watched) : Step ⊕ Loop.Step → Watched
  | .inl s => w.step s
  | .inr e => w.withView (w.view.step e)

def Watched.happenAll (w : Watched) (events : List (Step ⊕ Loop.Step)) : Watched :=
  events.foldl happen w

namespace Watched

@[simp]
theorem happenAll_concat (w : Watched) (events : List (Step ⊕ Loop.Step))
    (e : Step ⊕ Loop.Step) : w.happenAll (events ++ [e]) = (w.happenAll events).happen e := by
  simp [happenAll]

variable {w : Watched}

theorem happenAll_map_inl (w : Watched) (steps : List Step) :
    w.happenAll (steps.map .inl) = w.run steps := by
  rw [happenAll, List.foldl_map]
  rfl

/-- The caller does not touch what is recorded. -/
theorem charted_of_beside {s : Session} (beside : w.session.Beside s) (hw : w.view.Charted) :
    ({ w.view with loop := s.loop } : Loop.Watched).Charted := by
  obtain ⟨log, mark, cancelled, loop⟩ := beside.loop_eq
  rw [loop]
  exact ⟨hw.statePart_eq, hw.report_eq, hw.delivered_eq, hw.handled_data⟩

/-- Whatever happens keeps the record in order, and at most adds to it. -/
theorem charted_happen (hw : w.view.Charted) (e : Step ⊕ Loop.Step) :
    (w.happen e).view.Charted ∧ w.session.loop.router.report.states <+:
      (w.happen e).session.loop.router.report.states := by
  cases e with
  | inr e => exact ⟨hw.step e, hw.states_prefix e⟩
  | inl s =>
      have stepped := w.stepped s
      rw [happen]
      generalize w.step s = w' at stepped ⊢
      cases stepped with
      | loop e => exact ⟨hw.step e.step, hw.states_prefix e.step⟩
      | quiet s beside cancelled accepted closed =>
          exact ⟨charted_of_beside beside hw, by rw [beside.report_eq]⟩
      | sent x s streams sends cancelled =>
          exact ⟨charted_of_beside sends.beside hw, by rw [sends.beside.report_eq]⟩

theorem charted_happenAll (hw : w.view.Charted) (events : List (Step ⊕ Loop.Step)) :
    (w.happenAll events).view.Charted ∧ w.session.loop.router.report.states <+:
      (w.happenAll events).session.loop.router.report.states := by
  induction events using List.reverseRecOn with
  | nil => exact ⟨hw, List.prefix_rfl⟩
  | append_singleton events e ih =>
      obtain ⟨charted, grown⟩ := charted_happen ih.1 e
      rw [happenAll_concat]
      exact ⟨charted, ih.2.trans grown⟩

theorem start_charted {codec : Codec} {channel : Channel} {c : SessionConfig} {time : Nat}
    {s : Session} (h : Session.start codec channel c time = .ok s) (d : Disk) :
    (start s d).view.Charted := by
  unfold Session.start at h
  split at h
  · cases h
  · next router created =>
    split at h
    · cases h
    · cases h
      unfold Router.create at created
      split at created
      · cases created
      · cases created
        exact ⟨rfl, nofun, rfl, nofun⟩

/-- What is recorded is read off the frames that were handled. -/
theorem recorded_of_charted (hw : w.view.Charted) : w.session.Recorded := by
  have chart : w.session.loop.router.statePart =
      .ofCourse w.handled.length w.session.loop.ended := hw.statePart_eq
  have state : w.session.state = _ := congrArg Router.StatePart.state chart
  have states : w.session.loop.router.report.states = _ :=
    congrArg Router.StatePart.states chart
  have received : w.session.loop.router.report.framesReceived = w.handled.length :=
    congrArg Router.StatePart.framesReceived chart
  exact
    { published := by rw [states, state, Router.StatePart.getLast?_ofCourse]
      forward := states ▸ SessionState.pairwise_course _ _
      course := by rw [states, received]; rfl
      report_eq := hw.report_eq }

/-- Ending a session is a run as well: it is cancelled or time passes, and the receive loop goes on.
-/
theorem conclude_happens (w : Watched) (ending : Ending) :
    ∃ events, (w.happenAll events).session.loop = (w.session.conclude w.disk ending).2.1.loop ∧
      (w.session.conclude w.disk ending).1 =
        (w.happenAll events).session.loop.outcome.getD (.error .closed) := by
  cases ending with
  | close =>
      have leads : Leads (w.session.terminate, w.disk) w.streams []
          (w.session.terminate.settle w.disk) w.streams := settle_leads w.session.terminate w.disk
      obtain ⟨steps, session, -⟩ := leads (w.happen (.inr .cancel)) rfl rfl rfl
      refine ⟨.inr .cancel :: steps.map .inl, ?_⟩
      have run : w.happenAll (.inr .cancel :: steps.map .inl) =
          (w.happen (.inr .cancel)).run steps := happenAll_map_inl _ steps
      rw [run, session]
      exact ⟨rfl, rfl⟩
  | wait =>
      have leads : Leads (w.session, w.disk) w.streams [] (w.session.runOut w.disk) w.streams := by
        have settled : Leads (w.session, w.disk) w.streams [] (w.session.settle w.disk) w.streams :=
          settle_leads w.session w.disk
        unfold runOut
        generalize w.session.settle w.disk = settledAt at settled
        dsimp only
        split
        · exact settled.trans (sleep_leads _ _ _)
        · exact settled
      obtain ⟨steps, session, -⟩ := leads w rfl rfl rfl
      refine ⟨steps.map .inl, ?_⟩
      rw [happenAll_map_inl, session]
      exact ⟨rfl, rfl⟩

end Watched

theorem Recorded.of_loop_eq {s s' : Session} (hs : s.Recorded) (h : s.loop = s'.loop) :
    s'.Recorded :=
  ⟨by rw [state, ← h]; exact hs.published, h ▸ hs.forward, h ▸ hs.course, h ▸ hs.report_eq⟩

/-- **The states of a session.** Whatever happens to a session that was started, in whichever order:
what it publishes is the last state that is recorded; the record only ever grows, and it goes
forward; it holds `active` when a frame was handled and, when the receive loop has ended for
whatever reason, `closing` and `closed`. A connection that ends before any frame does not make the
session active. Ending the session is no exception, and the report it gives back has this record. -/
theorem run_states {codec : Codec} {channel : Channel} {c : SessionConfig} {time : Nat}
    {s : Session} (h : Session.start codec channel c time = .ok s) (d : Disk)
    (events : List (Step ⊕ Loop.Step)) :
    let w := (Watched.start s d).happenAll events
    w.session.Recorded ∧
      (∀ more, w.session.loop.router.report.states <+:
        (w.happenAll more).session.loop.router.report.states) ∧
      (∀ f ∈ w.delivered.head?, f.closeReason?.isSome →
        .active ∉ w.session.loop.router.report.states) ∧
      ∀ ending, ∃ result s' d', w.session.conclude w.disk ending = (result, s', d') ∧
        s'.Recorded ∧ w.session.loop.router.report.states <+: s'.loop.router.report.states ∧
          ∀ report, result = .ok report → report = s'.loop.router.report ∧ s'.loop.ended := by
  intro w
  have charted : w.view.Charted := (Watched.charted_happenAll (Watched.start_charted h d) events).1
  have recorded := Watched.recorded_of_charted charted
  refine ⟨recorded, fun more => (Watched.charted_happenAll charted more).2, ?_, ?_⟩
  · intro f first last
    have handled : w.handled = [] := charted.handled_eq_nil first last
    have received : w.session.loop.router.report.framesReceived = w.handled.length :=
      congrArg Router.StatePart.framesReceived charted.statePart_eq
    rw [recorded.course, SessionState.active_mem_course, received, handled]
    decide
  · intro ending
    obtain ⟨more, loop, result⟩ := w.conclude_happens ending
    obtain ⟨charted', grown⟩ := Watched.charted_happenAll charted more
    have recorded' := Watched.recorded_of_charted charted'
    generalize w.session.conclude w.disk ending = concluded at loop result
    obtain ⟨result', s', d'⟩ := concluded
    refine ⟨result', s', d', rfl, recorded'.of_loop_eq loop, ?_, ?_⟩
    · rw [← loop]
      exact grown
    · rintro report rfl
      rw [← loop]
      -- without an outcome there would be no report
      cases outcome : (w.happenAll more).session.loop.outcome with
      | none =>
          rw [outcome] at result
          cases result
      | some outcome' =>
          rw [outcome, Option.getD_some] at result
          refine ⟨recorded'.report_eq report (outcome.trans (congrArg some result.symm)), ?_⟩
          rw [Loop.ended, outcome]
          rfl

/-- Reading fails behind one frame, and in another session at once: only the first has been
active. -/
theorem run_states_transport_failed :
    ∃ s, Session.start .silent {} {} 0 = .ok s ∧
      let fresh := Watched.start s { tree := .empty, cwd := [] }
      let failing : List (Step ⊕ Loop.Step) := [.inr (.deliver (.failed "reset")), .inr .poll]
      let w := fresh.happenAll ([.inr (.deliver (.text "oops")), .inr .poll] ++ failing)
      w.session.Recorded ∧ w.session.loop.outcome = some (.error (.transport "reset")) ∧
        w.session.loop.router.report.states =
          [.connecting, .helloSent, .active, .closing, .closed] ∧
        .active ∉ (fresh.happenAll failing).session.loop.router.report.states := by
  have started : ∃ s, Session.start .silent {} {} 0 = .ok s := ⟨_, rfl⟩
  obtain ⟨s, started⟩ := started
  obtain ⟨recorded, -⟩ := run_states started { tree := .empty, cwd := [] }
    [.inr (.deliver (.text "oops")), .inr .poll, .inr (.deliver (.failed "reset")), .inr .poll]
  obtain ⟨-, -, first, -⟩ := run_states started { tree := .empty, cwd := [] }
    [.inr (.deliver (.failed "reset")), .inr .poll]
  refine ⟨s, started, recorded, ?_⟩
  cases started
  exact ⟨rfl, rfl, first (.failed "reset") rfl rfl⟩

end Session

end VoiceLink
