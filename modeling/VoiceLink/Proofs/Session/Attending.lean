import VoiceLink.Proofs.Session.Accounting
import VoiceLink.Proofs.Session.Stages

/-!
# A caller that waits for containers

The events of a session stand in a queue that the receive loop fills and the caller empties. A call
for the next container takes events one at a time: it may find one, it may sleep until there is one,
and while it sleeps its time may run out. In between, everything else goes on. `Attended.run` lets
the calls and all the rest happen in any order, and `Session.nextFlush` is one of these orders
(`Attended.nextFlush_leads`). `Attended.stepped` says once what an action can be, and `Lasting` what
is not changed by any of them.

A caller gives up only while it sleeps, and it only goes to sleep when it has found the queue empty.
So a call that finds an event takes it, however late it is. A runtime may cut this short: one that
makes a task pause after so many events taken in one go (128, say) lets the time of the call run out
with more of them in the queue. These pauses are left out. It would take as many events in a row
that tell of no container, since a call that finds a container is over.
-/

namespace VoiceLink

/-! ## The queue of events

Who adds to the queue and who takes from it. The receive loop adds at the end, and one event for
each turn that is finished or aborted; calls take from the front; nothing else touches it. -/

namespace Router

/-- Whatever comes of a turn that is finished, the owner is told once. -/
theorem events_flush (r : Router) (d : Disk) (now : Instant) :
    ∃ e, (r.flush d now).1.events = r.events ++ [e] := by
  cases written : r.writer.write d r.accumulator.snapshot with
  | mk result rest =>
      obtain ⟨w, d'⟩ := rest
      cases result with
      | error e =>
          exact ⟨.flushFailed e.message, congrArg AudioPart.events (flush_of_error now written).1⟩
      | ok m => exact ⟨.flushed m, congrArg AudioPart.events (flush_of_ok now written).1⟩

/-- Handling a frame at most adds to what the owner is told. -/
theorem events_handle (r : Router) (d : Disk) (now : Instant) (f : InboundFrame) :
    r.events <+: (r.handle d now f).1.events := by
  have same {r' : Router} (h : r'.events = r.events) : r.events <+: r'.events :=
    h ▸ List.prefix_rfl
  have more {r' : Router} {e : SessionEvent} (h : r'.events = r.events ++ [e]) :
      r.events <+: r'.events := ⟨[e], h.symm⟩
  cases f with
  | closed => exact List.prefix_rfl
  | failed reason => exact List.prefix_rfl
  | binary p => exact same (congrArg AudioPart.events (r.audioPart_handleAudio now p))
  | text content =>
      cases boundary : Boundary.ofText? content with
      | none => exact same (congrArg AudioPart.events (handle_other r d now boundary).1)
      | some kind =>
          rw [handle_boundary r d now boundary]
          cases kind with
          | start => exact same (congrArg AudioPart.events (audioPart_startTurn r.countControl))
          | abort => exact more (congrArg AudioPart.events (audioPart_abortTurn r.countControl now))
          | stop =>
              obtain ⟨e, told⟩ := r.countControl.events_flush d now
              exact more told

end Router

namespace Loop.Watched

theorem events_step (l : Loop.Watched) (s : Step) :
    l.loop.router.events <+: (l.step s).loop.router.events := by
  let P (_ : List InboundFrame) (r : Router) : Prop := l.loop.router.events <+: r.events
  refine step_keeps (P := P) ?_ ?_ List.prefix_rfl s
  · intro frames l' d f data grown
    have prepared : l'.prepare.router.events = l'.router.events :=
      congrArg Router.AudioPart.events (audioPart_prepare l')
    have handled := l'.prepare.router.events_handle d l'.prepare.instant f
    rw [prepared] at handled
    exact grown.trans handled
  · intro frames r reason grown
    have same : (r.close reason).events = r.events :=
      congrArg Router.AudioPart.events (Router.audioPart_close r reason)
    show l.loop.router.events <+: (r.close reason).events
    rw [same]
    exact grown

end Loop.Watched

namespace Session

section Taken

variable (s : Session)

theorem taken_sendControl (m : ClientMessage) : (s.sendControl m).2.taken = s.taken := by
  cases sent : s.channel.send (ControlSender.frame m) with
  | mk result channel =>
      simp only [sendControl, send, sent]
      cases result <;> rfl

theorem taken_ask (q : Request) : (s.ask q).2.taken = s.taken := by
  cases q with
  | listenStart => exact s.taken_sendControl _
  | listenStop => exact s.mark.taken_sendControl _
  | listenDetect text => exact s.mark.taken_sendControl _
  | abort reason => exact s.taken_sendControl _

theorem taken_sendPacket (p : Packet) : (s.sendPacket p).2.taken = s.taken := by
  simp only [sendPacket]
  split <;> rfl

/-- Events are taken one at a time. -/
theorem takeEvents_cons (e : SessionEvent) (rest : List SessionEvent) :
    s.takeEvents (e :: rest) =
      match s.takeEvents [e] with
      | (some m, s') => (some m, s')
      | (none, s') => s'.takeEvents rest := by
  cases e <;> rfl

theorem container_takeEvents (e : SessionEvent) : (s.takeEvents [e]).1 = e.container? := by
  cases e <;> rfl

theorem taken_takeEvents (e : SessionEvent) : (s.takeEvents [e]).2.taken = s.taken + 1 := by
  cases e <;> rfl

/-- Taking events leaves the receive loop alone but for the log. -/
theorem takeEvents_log (events : List SessionEvent) :
    ∃ log, (s.takeEvents events).2.loop =
      { s.loop with router := { s.loop.router with log } } := by
  induction events generalizing s with
  | nil => exact ⟨_, rfl⟩
  | cons e rest ih =>
      cases e with
      | flushed m => exact ⟨_, rfl⟩
      | flushFailed reason => exact ih (note { s with taken := s.taken + 1 } .warn _)
      | turnAborted => exact ih { s with taken := s.taken + 1 }

variable {s} in
theorem Beside.ended_eq {s' : Session} (h : s.Beside s') : s'.loop.ended = s.loop.ended :=
  congrArg Option.isSome h.outcome_eq

variable {s} in
/-- When one event is taken, those behind it are left. -/
theorem Beside.pending_eq {s' : Session} (h : s.Beside s') (taken : s'.taken = s.taken + 1)
    {e : SessionEvent} {rest : List SessionEvent} (found : s.pending = e :: rest) :
    s'.pending = rest := by
  rw [pending, taken, h.events_eq, ← List.tail_drop]
  show s.pending.tail = rest
  rw [found, List.tail_cons]

end Taken

namespace Watched

variable {w : Watched}

/-- Whatever happens without the caller looking for events, it has taken no more of them. -/
theorem taken_happen {e : Step ⊕ Loop.Step} (h : e ≠ .inl .takeEvents) :
    (w.happen e).session.taken = w.session.taken := by
  cases e with
  | inr e => rfl
  | inl s =>
      cases s with
      | takeEvents => exact absurd rfl h
      | request q => exact w.session.taken_ask q
      | stream path => exact w.session.taken_ask .listenStart
      | streamNext i =>
          simp only [happen, step]
          split
          · rfl
          · exact w.session.taken_ask .listenStop
          · exact w.session.taken_sendPacket _
      | direct o => rfl
      | giveUp milliseconds => rfl
      | closeTransport => rfl
      | peerHangUp => rfl
      | peerReturns => rfl
      | loop e => rfl

end Watched

/-- What lasts: a property of what is seen of a receive loop that holds on whatever the loop does,
and that does not look at the log, the mark and the token. -/
structure Lasting (P : Loop.Watched → Prop) : Prop where
  step : ∀ l, P l → ∀ s, P (l.step s)
  beside : ∀ (l : Loop.Watched) log mark cancelled, P l →
    P { l with loop := { l.loop with router := { l.loop.router with log }, mark, cancelled } }

namespace Lasting

variable {P : Loop.Watched → Prop} {w : Watched}

theorem of_beside (hP : Lasting P) (hw : P w.view) {s : Session} (h : w.session.Beside s) :
    P { w.view with loop := s.loop } := by
  obtain ⟨log, mark, cancelled, same⟩ := h.loop_eq
  rw [same]
  exact hP.beside w.view log mark cancelled hw

theorem happen (hP : Lasting P) (hw : P w.view) (e : Step ⊕ Loop.Step) :
    P (w.happen e).view := by
  cases e with
  | inr e => exact hP.step _ hw e
  | inl s =>
      have stepped := w.stepped s
      rw [Watched.happen]
      generalize w.step s = w' at stepped ⊢
      cases stepped with
      | loop e => exact hP.step _ hw e.step
      | quiet s beside cancelled accepted closed => exact hP.of_beside hw beside
      | sent x s streams sends cancelled => exact hP.of_beside hw sends.beside

/-- What the owner was told is not taken back. -/
theorem events (told : List SessionEvent) : Lasting fun l => told <+: l.loop.router.events where
  step l grown s := grown.trans (l.events_step s)
  beside _ _ _ _ grown := grown

/-- A loop that has ended tells nothing more. -/
theorem ended (a : Router.AudioPart) :
    Lasting fun l => l.loop.ended = true ∧ l.loop.router.audioPart = a where
  step l final s := by
    obtain ⟨outcome, router, -, -⟩ := Loop.Watched.ended_step final.1 s
    rw [Loop.ended, outcome, router]
    exact final
  beside _ _ _ _ final := final

end Lasting

namespace Watched

/-- The queue only grows. -/
theorem events_happen (w : Watched) (e : Step ⊕ Loop.Step) :
    w.session.loop.router.events <+: (w.happen e).session.loop.router.events :=
  (Lasting.events w.session.loop.router.events).happen List.prefix_rfl e

/-- When the receive loop has ended the queue does not grow any more. -/
theorem ended_happen {w : Watched} (h : w.session.loop.ended = true) (e : Step ⊕ Loop.Step) :
    (w.happen e).session.loop.ended = true ∧
      (w.happen e).session.loop.router.events = w.session.loop.router.events := by
  obtain ⟨still, same⟩ := (Lasting.ended w.session.loop.router.audioPart).happen ⟨h, rfl⟩ e
  exact ⟨still, congrArg Router.AudioPart.events same⟩

end Watched

/-! ## Calls

A call has a deadline, which is fixed when it begins, and is over when it is answered. Only one call
is under way at a time, as it holds the session. -/

/-- A call that waits for the next container. -/
structure Call where
  timeout : Nat
  deadline : Nat
  /-- Whether the caller has found nothing and sleeps. -/
  asleep : Bool := false
  /-- The events it has taken so far, the first in front. -/
  took : List SessionEvent := []

/-- What has come of a call. -/
structure Answer where
  took : List SessionEvent
  result : Option ContainerMetadata
  timedOut : Bool

/-- A session, the call that is under way, and the answers that were given, the first in front. -/
structure Attended where
  watched : Watched
  call : Option Call := none
  answers : List Answer := []

/-- What can happen. -/
inductive Action where
  /-- The caller calls for the next container. -/
  | call (timeout : Nat)
  /-- The caller looks for an event. -/
  | look
  /-- The time of a caller that sleeps is over. -/
  | giveUp
  /-- Something else happens; only calls take events. -/
  | other (e : Step ⊕ Loop.Step)
  deriving DecidableEq

namespace Attended

def start (s : Session) (d : Disk) : Attended := { watched := .start s d }

def reply (a : Attended) (s : Session) (x : Answer) : Attended :=
  { watched := { a.watched with session := s }, call := none, answers := a.answers ++ [x] }

/-- A caller looks for an event, and goes on where it does not tell of a container. -/
def look (a : Attended) (c : Call) : Attended :=
  match a.watched.session.pending with
  | [] =>
    if a.watched.session.loop.ended then a.reply a.watched.session ⟨c.took, none, false⟩
    else { a with call := some { c with asleep := true } }
  | e :: _ =>
    match a.watched.session.takeEvents [e] with
    | (some m, s) => a.reply s ⟨c.took ++ [e], some m, false⟩
    | (none, s) =>
      { a with
        watched := { a.watched with session := s }
        call := some { c with took := c.took ++ [e], asleep := false } }

/-- A caller gives up. It has found the queue empty and slept since; an event that has come in the
meantime is left where it is. -/
def giveUp (a : Attended) (c : Call) : Attended :=
  let text := "No flushed response within " ++ DurationText.ofMilliseconds c.timeout
  a.reply (a.watched.session.note .warn text) ⟨c.took, none, true⟩

def step (a : Attended) : Action → Attended
  | .call timeout =>
    match a.call with
    | some _ => a
    | none =>
      { a with call := some { timeout, deadline := a.watched.session.loop.time + timeout } }
  | .look =>
    match a.call with
    | some c => a.look c
    | none => a
  | .giveUp =>
    match a.call with
    | some c =>
      if c.asleep = true ∧ c.deadline ≤ a.watched.session.loop.time then a.giveUp c else a
    | none => a
  | .other e => if e = .inl .takeEvents then a else { a with watched := a.watched.happen e }

def run (a : Attended) (actions : List Action) : Attended := actions.foldl step a

@[simp]
theorem run_concat (a : Attended) (actions : List Action) (x : Action) :
    a.run (actions ++ [x]) = (a.run actions).step x := by
  simp [run]

@[simp]
theorem run_append (a : Attended) (actions later : List Action) :
    a.run (actions ++ later) = (a.run actions).run later := by
  simp [run]

/-! ## What an action can be

All that is ever used of the actions. An action that is not possible changes nothing, so runs need
no conditions. -/

/-- What can be seen after an action: it was not possible; a caller has called, has found nothing,
has found an event or has given up; or something else has happened. -/
inductive Stepped (a : Attended) : Action → Attended → Prop where
  | idle (x : Action) (free : x = .look → a.call = none) : Stepped a x a
  | called (timeout : Nat) (free : a.call = none) :
      Stepped a (.call timeout)
        { a with call := some { timeout, deadline := a.watched.session.loop.time + timeout } }
  | slept (c : Call) (waits : a.call = some c) (empty : a.watched.session.pending = [])
      (live : a.watched.session.loop.ended = false) :
      Stepped a .look { a with call := some { c with asleep := true } }
  | finished (c : Call) (waits : a.call = some c) (empty : a.watched.session.pending = [])
      (ended : a.watched.session.loop.ended = true) :
      Stepped a .look (a.reply a.watched.session ⟨c.took, none, false⟩)
  | got (c : Call) (waits : a.call = some c) (e : SessionEvent) (rest : List SessionEvent)
      (found : a.watched.session.pending = e :: rest) (s : Session)
      (beside : a.watched.session.Beside s) (taken : s.taken = a.watched.session.taken + 1)
      (m : ContainerMetadata) (container : e.container? = some m) :
      Stepped a .look (a.reply s ⟨c.took ++ [e], some m, false⟩)
  | skipped (c : Call) (waits : a.call = some c) (e : SessionEvent) (rest : List SessionEvent)
      (found : a.watched.session.pending = e :: rest) (s : Session)
      (beside : a.watched.session.Beside s) (taken : s.taken = a.watched.session.taken + 1)
      (other : e.container? = none) :
      Stepped a .look
        { a with
          watched := { a.watched with session := s }
          call := some { c with took := c.took ++ [e], asleep := false } }
  | gaveUp (c : Call) (waits : a.call = some c) (asleep : c.asleep = true) (s : Session)
      (beside : a.watched.session.Beside s) (taken : s.taken = a.watched.session.taken) :
      Stepped a .giveUp (a.reply s ⟨c.took, none, true⟩)
  | happened (e : Session.Step ⊕ Loop.Step) (quiet : e ≠ .inl .takeEvents) :
      Stepped a (.other e) { a with watched := a.watched.happen e }

/-- Every action is one of these. -/
theorem stepped (a : Attended) (x : Action) : Stepped a x (a.step x) := by
  cases x with
  | call timeout =>
      simp only [step]
      split
      · exact .idle _ nofun
      · next free => exact .called timeout free
  | look =>
      simp only [step]
      split
      · next c waits =>
        simp only [look]
        split
        · next empty =>
          split
          · next ended => exact .finished c waits empty ended
          · next live => exact .slept c waits empty (by simpa using live)
        · next e rest found =>
          -- an event is taken; whether it tells of a container decides what becomes of the call
          have beside := (takeEvents_beside (s := a.watched.session) [e]).1
          have taken := a.watched.session.taken_takeEvents e
          have container := a.watched.session.container_takeEvents e
          generalize a.watched.session.takeEvents [e] = r at beside taken container ⊢
          obtain ⟨none | m, s⟩ := r
          · exact .skipped c waits e rest found s beside taken container.symm
          · exact .got c waits e rest found s beside taken m container.symm
      · next free => exact .idle _ fun _ => free
  | giveUp =>
      simp only [step]
      split
      · next c waits =>
        split
        · next reached => exact .gaveUp c waits reached.1 _ (note_beside _ _ _) rfl
        · exact .idle _ nofun
      · exact .idle _ nofun
  | other e =>
      simp only [step]
      split
      · exact .idle _ nofun
      · next quiet => exact .happened e quiet

/-! ## Waiting for a container

`Session.nextFlush` is a function and takes its steps all at once. Part by part it is shown to be a
run of actions, with the same session at its end and the same answer. -/

/-- Wherever a caller has come to a session and a disk `p` with the call `c`, some more actions come
to `p'` and `c'`; on the way `xs` are answered. -/
def Leads (p : Session × Disk) (c : Option Call) (xs : List Answer) (p' : Session × Disk)
    (c' : Option Call) : Prop :=
  ∀ a : Attended, a.watched.session = p.1 → a.watched.disk = p.2 → a.call = c →
    ∃ actions, (a.run actions).watched.session = p'.1 ∧ (a.run actions).watched.disk = p'.2 ∧
      (a.run actions).call = c' ∧ (a.run actions).answers = a.answers ++ xs

section Leading

variable {p p' p'' : Session × Disk} {c c' c'' : Option Call} {xs ys : List Answer}

theorem Leads.refl (p : Session × Disk) (c : Option Call) : Leads p c [] p c :=
  fun _ session disk call => ⟨[], session, disk, call, (List.append_nil _).symm⟩

theorem Leads.trans (h : Leads p c xs p' c') (h' : Leads p' c' ys p'' c'') :
    Leads p c (xs ++ ys) p'' c'' := by
  intro a session disk call
  obtain ⟨actions, session, disk, call, answers⟩ := h a session disk call
  obtain ⟨later, session, disk, call, answers'⟩ := h' _ session disk call
  refine ⟨actions ++ later, ?_⟩
  rw [run_append]
  exact ⟨session, disk, call, by rw [answers', answers, List.append_assoc]⟩

/-- While the loop goes on, the caller is left alone. -/
theorem run_events (a : Attended) (events : List LoopEvent) :
    a.run (events.map fun e => .other (.inl (.loop e))) =
      { a with watched := a.watched.run (events.map .loop) } := by
  induction events generalizing a with
  | nil => rfl
  | cons e events ih => exact ih _

theorem settle_leads (s : Session) (d : Disk) (c : Option Call) :
    Leads (s, d) c [] (s.settle d) c := by
  rintro a rfl rfl rfl
  obtain ⟨events, session, disk, -, -⟩ := a.watched.run_settle
  refine ⟨events.map fun e => .other (.inl (.loop e)), ?_⟩
  rw [run_events]
  exact ⟨session, disk, rfl, (List.append_nil _).symm⟩

theorem elapse_leads (s : Session) (d : Disk) (milliseconds : Nat) (c : Option Call) :
    Leads (s, d) c [] ({ s with loop := s.loop.elapse milliseconds }, d) c := by
  rintro a rfl rfl rfl
  exact ⟨[.other (.inl (.loop (.elapse milliseconds)))], rfl, rfl, rfl, (List.append_nil _).symm⟩

theorem sleep_leads (s : Session) (d : Disk) (milliseconds : Nat) (c : Option Call) :
    Leads (s, d) c [] (s.sleep d milliseconds) c :=
  ((settle_leads s d c).trans (elapse_leads _ _ milliseconds c)).trans (settle_leads _ _ c)

theorem call_leads (s : Session) (d : Disk) (timeout : Nat) :
    Leads (s, d) none [] (s, d) (some { timeout, deadline := s.loop.time + timeout }) := by
  rintro a rfl rfl call
  refine ⟨[.call timeout], ?_⟩
  simp [run, step, call]

variable (s : Session) (d : Disk) (call : Call)

variable {s} in
/-- A caller finds an event. -/
theorem look_leads {e : SessionEvent} {rest : List SessionEvent} (found : s.pending = e :: rest) :
    match s.takeEvents [e] with
    | (some m, s') => Leads (s, d) (some call) [⟨call.took ++ [e], some m, false⟩] (s', d) none
    | (none, s') => Leads (s, d) (some call) [] (s', d)
        (some { call with took := call.took ++ [e], asleep := false }) := by
  cases taken : s.takeEvents [e] with
  | mk result s' =>
      cases result with
      | none =>
          rintro a rfl rfl waits
          refine ⟨[.look], ?_⟩
          simp [run, step, look, waits, found, taken]
      | some m =>
          rintro a rfl rfl waits
          refine ⟨[.look], ?_⟩
          simp [run, step, look, reply, waits, found, taken]

variable {s} in
/-- A caller finds nothing and will find nothing. -/
theorem look_leads_ended (empty : s.pending = []) (ended : s.loop.ended = true) :
    Leads (s, d) (some call) [⟨call.took, none, false⟩] (s, d) none := by
  rintro a rfl rfl waits
  refine ⟨[.look], ?_⟩
  simp [run, step, look, reply, waits, empty, ended]

variable {s call} in
/-- A caller finds nothing, sleeps, and its time is over. -/
theorem giveUp_leads (empty : s.pending = []) (live : s.loop.ended = false) {timeout : Nat}
    (passes : call.deadline ≤ s.loop.time + timeout) :
    Leads (s, d) (some call) [⟨call.took, none, true⟩]
      (note { s with loop := s.loop.elapse timeout } .warn
        ("No flushed response within " ++ DurationText.ofMilliseconds call.timeout), d) none := by
  have sleeps : Leads (s, d) (some call) [] (s, d) (some { call with asleep := true }) := by
    rintro a rfl rfl waits
    refine ⟨[.look], ?_⟩
    simp [run, step, look, waits, empty, live]
  refine (sleeps.trans (elapse_leads s d timeout _)).trans ?_
  rintro a session rfl waits
  refine ⟨[.giveUp], ?_⟩
  have reached : call.deadline ≤ a.watched.session.loop.time := by
    rw [session]
    exact passes
  simp only [run, List.foldl_cons, List.foldl_nil, step, waits, reached]
  simp [giveUp, reply, session]

/-- A caller looks until it finds a container or nothing. -/
theorem takeEvents_leads :
    match s.takeEvents s.pending with
    | (some m, s') => ∃ x : Answer, x.result = some m ∧ Leads (s, d) (some call) [x] (s', d) none
    | (none, s') => ∃ call' : Call, call'.timeout = call.timeout ∧ call'.deadline = call.deadline ∧
        s'.pending = [] ∧ Leads (s, d) (some call) [] (s', d) (some call') := by
  generalize found : s.pending = events
  induction events generalizing s call with
  | nil => exact ⟨call, rfl, rfl, found, .refl _ _⟩
  | cons e rest ih =>
      have look := look_leads d call found
      have left := (takeEvents_beside [e]).1.pending_eq (s.taken_takeEvents e) found
      rw [takeEvents_cons]
      cases taken : s.takeEvents [e] with
      | mk result s₁ =>
          rw [taken] at look left
          cases result with
          | some m => exact ⟨_, rfl, look⟩
          | none =>
              -- the caller goes on with the rest
              have more := ih s₁ { call with took := call.took ++ [e], asleep := false } left
              dsimp only at look ⊢
              split at more
              · next m s' goal =>
                rw [goal]
                obtain ⟨x, result, leads⟩ := more
                exact ⟨x, result, look.trans leads⟩
              · next s' goal =>
                rw [goal]
                obtain ⟨call', timeout, deadline, empty, leads⟩ := more
                exact ⟨call', timeout, deadline, empty, look.trans leads⟩

variable {s} in
/-- A caller of a loop that has ended is answered. -/
theorem takeEvents_leads_ended (ended : s.loop.ended = true) :
    ∃ x : Answer, x.result = (s.takeEvents s.pending).1 ∧
      Leads (s, d) (some call) [x] ((s.takeEvents s.pending).2, d) none := by
  have looks := takeEvents_leads s d call
  have noted := s.takeEvents_log s.pending
  generalize s.takeEvents s.pending = taken at looks noted ⊢
  obtain ⟨container | m, s'⟩ := taken
  · obtain ⟨call', -, -, empty, leads⟩ := looks
    obtain ⟨log, loop⟩ := noted
    have still : s'.loop.ended = true := by
      rw [loop]
      exact ended
    exact ⟨_, rfl, leads.trans (look_leads_ended d call' empty still)⟩
  · exact looks

variable {s call} in
/-- Where the receive loop can only wait as well, it ends or the caller gives up. -/
theorem waitIdle_leads (empty : s.pending = [])
    (quiet : s.loop.ended = true ∨ (s.loop.deadline.isSome ∧ s.loop.round = .wait)) {timeout : Nat}
    (same : call.timeout = timeout) (passes : call.deadline ≤ s.loop.time + timeout) :
    ∃ x : Answer, x.result = (s.waitIdle d timeout).1 ∧
      Leads (s, d) (some call) [x] (s.waitIdle d timeout).2 none := by
  cases ended : s.loop.ended with
  | true =>
      rw [waitIdle, if_pos ended]
      exact ⟨_, rfl, look_leads_ended d call empty ended⟩
  | false =>
      obtain ⟨armed, waits⟩ := quiet.resolve_left (by simp [ended])
      obtain ⟨deadline, armed⟩ := Option.isSome_iff_exists.1 armed
      simp only [waitIdle, ended, armed, Bool.false_eq_true, ↓reduceIte, Option.getD_some]
      split
      · have slept := sleep_leads s d (deadline - s.loop.time) (some call)
        have final : (s.sleep d (deadline - s.loop.time)).1.loop.ended = true :=
          Loop.sleep_ended ended waits armed (by omega)
        obtain ⟨x, result, leads⟩ := takeEvents_leads_ended _ call final
        exact ⟨x, result, slept.trans leads⟩
      · subst same
        exact ⟨_, rfl, giveUp_leads d empty ended passes⟩

/-- **A wait for a container.** The call, the looks of the caller and what happens in between are
some of the actions. -/
theorem nextFlush_leads (s : Session) (d : Disk) (timeout : Nat) :
    ∃ x : Answer, x.result = (s.nextFlush d timeout).1 ∧
      Leads (s, d) none [x] (s.nextFlush d timeout).2 none := by
  have called := call_leads s d timeout
  have first := takeEvents_leads s d { timeout, deadline := s.loop.time + timeout }
  have noted := s.takeEvents_log s.pending
  unfold nextFlush
  generalize s.takeEvents s.pending = taken at first noted ⊢
  obtain ⟨container | m, s₁⟩ := taken
  · obtain ⟨call, same, deadline, -, first⟩ := first
    obtain ⟨log, loop⟩ := noted
    -- no time passes up to the second look
    have settled := settle_leads s₁ d (some call)
    have quiet : (s₁.settle d).1.loop.ended = true ∨
        ((s₁.settle d).1.loop.deadline.isSome ∧ (s₁.settle d).1.loop.round = .wait) :=
      s₁.loop.settle_quiet d
    have time : (s₁.settle d).1.loop.time = s.loop.time := by
      have settles : (s₁.settle d).1.loop.time = s₁.loop.time :=
        Loop.polls_time (s₁.loop.queue.length + 1) s₁.loop d
      rw [settles, loop]
    dsimp only
    generalize s₁.settle d = p at settled quiet time ⊢
    obtain ⟨s₂, d₂⟩ := p
    have second := takeEvents_leads s₂ d₂ call
    have noted := s₂.takeEvents_log s₂.pending
    dsimp only at quiet time ⊢
    generalize s₂.takeEvents s₂.pending = taken at second noted ⊢
    obtain ⟨container | m, s₃⟩ := taken
    · obtain ⟨call', same', deadline', empty, second⟩ := second
      obtain ⟨log', loop'⟩ := noted
      have quiet' : s₃.loop.ended = true ∨ (s₃.loop.deadline.isSome ∧ s₃.loop.round = .wait) := by
        rw [loop']
        exact quiet
      have passes : call'.deadline ≤ s₃.loop.time + timeout := by
        rw [deadline', deadline, loop', ← time]
      obtain ⟨x, result, last⟩ := waitIdle_leads d₂ empty quiet' (same'.trans same) passes
      exact ⟨x, result, (((called.trans first).trans settled).trans second).trans last⟩
    · obtain ⟨x, result, second⟩ := second
      exact ⟨x, result, ((called.trans first).trans settled).trans second⟩
  · obtain ⟨x, result, first⟩ := first
    exact ⟨x, result, called.trans first⟩

end Leading

end Attended

end Session

end VoiceLink
