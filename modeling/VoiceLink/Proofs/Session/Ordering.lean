import VoiceLink.Proofs.Session.Runs

/-!
# In which order frames are handled, and why the loop ends

Three things wake the receive loop: its token, its queue and its timer. `Loop.run_orderly` says what
holds however they race. Frames go to the router in the order of delivery, none twice and none left
out, up to the first that ends the connection; nothing is handled after a cancellation; and the loop
ends for the reason it gives (`Watched.Justifies`).

All of this is said of the list of handled frames that the observer keeps. That the list is about
the router at all is part of the theorem: `Watched.Hands` ties every frame that is put into it to
the one call by which the router handled it, and every other moment to no call at all.
-/

namespace VoiceLink

namespace Loop

namespace Watched

/-! ## What holds throughout a run

The invariant is about the queue and the clock. It is kept by every step, so it holds whichever of
the three wakes the loop first. -/

/-- The queue is what was delivered and not handled yet, and the wait is counted from the frame that
was taken last. -/
structure Sound (idleTimeout : Nat) (w : Watched) : Prop where
  delivered_eq : w.delivered = w.handled ++ w.loop.queue
  handled_data : ∀ f ∈ w.handled, f.closeReason? = none
  lastTaken_le : w.lastTaken ≤ w.loop.time
  deadline_ge : ∀ t ∈ w.loop.deadline, w.lastTaken + idleTimeout ≤ t
  idleTimeout_eq : w.loop.router.config.idleTimeout = idleTimeout

theorem start_sound (router : Router) (d : Disk) (time : Nat) (mark : TurnMark) :
    (start router d time mark).Sound router.config.idleTimeout where
  delivered_eq := rfl
  handled_data := nofun
  lastTaken_le := Nat.le_refl time
  deadline_ge := nofun
  idleTimeout_eq := rfl

variable {idleTimeout : Nat} {w : Watched}

/-- An armed loop does not wait for less than the idle timeout. -/
theorem Sound.arm_deadline_ge (hw : w.Sound idleTimeout) :
    ∀ t ∈ w.loop.arm.deadline, w.lastTaken + idleTimeout ≤ t := by
  intro t ht
  rw [arm_deadline] at ht
  have same := Option.some.inj ht
  cases waiting : w.loop.deadline with
  | none =>
      rw [waiting, Option.getD_none, hw.idleTimeout_eq] at same
      have := hw.lastTaken_le
      omega
  | some deadline =>
      rw [waiting, Option.getD_some] at same
      exact same ▸ hw.deadline_ge deadline waiting

/-- A round keeps order. -/
theorem Polled.sound {w' : Watched} (h : Polled w w') (hw : w.Sound idleTimeout) :
    w'.Sound idleTimeout := by
  cases h with
  | ended hended => exact hw
  | took live f round router same now mark =>
      obtain ⟨-, hqueue, data⟩ := round_eq_take round
      rw [arm_queue] at hqueue
      exact
        { delivered_eq := by
            rw [hw.delivered_eq, hqueue]
            simp
          handled_data := by
            intro g hg
            rcases List.mem_append.1 hg with hg | hg
            · exact hw.handled_data g hg
            · rw [List.mem_singleton.1 hg]
              exact data
          lastTaken_le := Nat.le_refl _
          deadline_ge := nofun
          idleTimeout_eq := by
            have config : router.config = w.loop.router.config :=
              congrArg Router.AudioPart.config same
            simp [config, hw.idleTimeout_eq] }
  | stopped live reason round =>
      have config : (w.loop.arm.router.close reason).config = w.loop.arm.router.config :=
        congrArg Router.AudioPart.config (Router.audioPart_close _ reason)
      exact
        { delivered_eq := by simpa [finish] using hw.delivered_eq
          handled_data := hw.handled_data
          lastTaken_le := by simpa [finish] using hw.lastTaken_le
          deadline_ge := nofun
          idleTimeout_eq := by
            rw [← hw.idleTimeout_eq, ← w.loop.arm_router, ← config]
            rfl }
  | waited live round =>
      exact
        { delivered_eq := by simpa using hw.delivered_eq
          handled_data := hw.handled_data
          lastTaken_le := by simpa using hw.lastTaken_le
          deadline_ge := hw.arm_deadline_ge
          idleTimeout_eq := by simpa using hw.idleTimeout_eq }

theorem Sound.step (hw : w.Sound idleTimeout) (s : Step) : (w.step s).Sound idleTimeout := by
  by_cases hs : s = .poll
  · rw [hs]
    exact w.polled.sound hw
  · have outside := w.step_outside hs
    obtain ⟨frames, queue, delivered, -⟩ := outside.arrived
    exact
      { delivered_eq := by
          rw [delivered, queue, outside.handled_eq, hw.delivered_eq, List.append_assoc]
        handled_data := outside.handled_eq ▸ hw.handled_data
        lastTaken_le := by
          rw [outside.lastTaken_eq]
          exact Nat.le_trans hw.lastTaken_le outside.time_le
        deadline_ge := by
          rw [outside.deadline_eq, outside.lastTaken_eq]
          exact hw.deadline_ge
        idleTimeout_eq := outside.router_eq ▸ hw.idleTimeout_eq }

theorem Sound.run (hw : w.Sound idleTimeout) (steps : List Step) :
    (w.run steps).Sound idleTimeout := by
  induction steps using List.reverseRecOn with
  | nil => exact hw
  | append_singleton steps s ih =>
      rw [run_concat]
      exact ih.step s

/-- What was handled is what was delivered, up to some point before the first frame that ends the
connection. -/
theorem Sound.handled_in_order (hw : w.Sound idleTimeout) :
    w.handled <+: w.delivered.takeWhile fun f => f.closeReason?.isNone := by
  rw [hw.delivered_eq, List.takeWhile_append_of_pos]
  · exact List.prefix_append _ _
  · intro f hf
    rw [hw.handled_data f hf]
    rfl

/-! ## After a cancellation

The token is the first thing that a round looks at. -/

theorem cancelled_step (h : w.loop.cancelled = true) (s : Step) :
    (w.step s).loop.cancelled = true ∧ (w.step s).handled = w.handled := by
  by_cases hs : s = .poll
  · have round : w.loop.arm.round = .stop .cancelled :=
      round_of_cancelled (w.loop.arm_cancelled.trans h)
    have polled := w.polled
    rw [hs]
    generalize w.step .poll = w' at polled ⊢
    cases polled with
    | ended hended => exact ⟨h, rfl⟩
    | took live f taken => cases round.symm.trans taken
    | stopped live reason => exact ⟨w.loop.arm_cancelled.trans h, rfl⟩
    | waited live waits => cases round.symm.trans waits
  · have outside := w.step_outside hs
    exact ⟨outside.cancelled h, outside.handled_eq⟩

/-- A cancelled loop handles nothing any more. -/
theorem cancelled_run (h : w.loop.cancelled = true) (steps : List Step) :
    (w.run steps).loop.cancelled = true ∧ (w.run steps).handled = w.handled := by
  induction steps using List.reverseRecOn with
  | nil => exact ⟨h, rfl⟩
  | append_singleton steps s ih =>
      rw [run_concat]
      obtain ⟨cancelled, handled⟩ := cancelled_step ih.1 s
      exact ⟨cancelled, handled.trans ih.2⟩

/-! ## The end

A loop gives the first reason it finds, and several may be so at once. What is shown is that the one
it gives is. -/

/-- What must be so in a loop that ends for a reason. -/
def Justifies (idleTimeout : Nat) (w : Watched) : CloseReason → Prop
  | .transportClosed =>
    (∃ rest, w.delivered = w.handled ++ .closed :: rest) ∨
      (w.delivered = w.handled ∧ w.loop.channelOpen = false)
  | .transportFailed reason => ∃ rest, w.delivered = w.handled ++ .failed reason :: rest
  | .cancelled => w.loop.cancelled = true
  | .idleTimeout =>
    w.loop.queue = [] ∧ w.loop.cancelled = false ∧ w.lastTaken + idleTimeout ≤ w.loop.time

/-- A round ends the loop only for a reason that is so. -/
theorem Sound.justifies (hw : w.Sound idleTimeout) {reason : CloseReason}
    (round : w.loop.arm.round = .stop reason) : w.Justifies idleTimeout reason := by
  have delivered := hw.delivered_eq
  rcases round_eq_stop round with ⟨cancelled, rfl⟩ | ⟨live, last | hungUp | expired⟩
  · exact w.loop.arm_cancelled.symm.trans cancelled
  · -- the frame in front ends the connection; all that were delivered before it are handled
    obtain ⟨f, rest, hqueue, hreason⟩ := last
    rw [arm_queue] at hqueue
    rw [hqueue] at delivered
    cases f with
    | text content => cases hreason
    | binary data => cases hreason
    | closed =>
        cases hreason
        exact .inl ⟨rest, delivered⟩
    | failed text =>
        cases hreason
        exact ⟨rest, delivered⟩
  · obtain ⟨hqueue, closed, rfl⟩ := hungUp
    rw [arm_queue] at hqueue
    rw [hqueue, List.append_nil] at delivered
    exact .inr ⟨delivered, w.loop.arm_channelOpen ▸ closed⟩
  · obtain ⟨hqueue, late, rfl⟩ := expired
    obtain ⟨deadline, hdeadline, hlate⟩ :
        ∃ deadline ∈ w.loop.arm.deadline, deadline ≤ w.loop.arm.time := by
      simpa [expired, Option.any_eq_true] using late
    -- the deadline has been reached, and it lies an idle timeout behind the last frame
    have waited := hw.arm_deadline_ge deadline hdeadline
    have reached : deadline ≤ w.loop.time := w.loop.arm_time ▸ hlate
    exact ⟨w.loop.arm_queue ▸ hqueue, w.loop.arm_cancelled ▸ live, Nat.le_trans waited reached⟩

/-- Nothing that could be seen of it changes in a loop that has ended. -/
theorem ended_step (h : w.loop.ended = true) (s : Step) :
    (w.step s).loop.outcome = w.loop.outcome ∧ (w.step s).loop.router = w.loop.router ∧
      (w.step s).delivered = w.delivered ∧ (w.step s).handled = w.handled := by
  by_cases hs : s = .poll
  · have polled := w.polled
    rw [hs]
    generalize w.step .poll = w' at polled ⊢
    cases polled with
    | ended hended => exact ⟨rfl, rfl, rfl, rfl⟩
    | took live => cases h.symm.trans live
    | stopped live => cases h.symm.trans live
    | waited live => cases h.symm.trans live
  · have outside := w.step_outside hs
    obtain ⟨frames, -, delivered, none⟩ := outside.arrived
    rw [none h, List.append_nil] at delivered
    exact ⟨outside.outcome_eq, outside.router_eq, delivered, outside.handled_eq⟩

/-- A loop that has ended did so in one of its rounds, and for a reason that was so. -/
theorem Sound.ended_run (hw : w.Sound idleTimeout) (live : w.loop.ended = false)
    {steps : List Step} {outcome : Except SessionError SessionReport}
    (h : (w.run steps).loop.outcome = some outcome) :
    ∃ reason before after, steps = before ++ .poll :: after ∧
      outcome = outcomeOf (w.run steps).loop.router.report reason ∧
      (w.run steps).loop.router.report.closeReason = some reason ∧
      (w.run before).loop.ended = false ∧ (w.run before).Justifies idleTimeout reason ∧
      (w.run before).delivered = (w.run steps).delivered ∧
      (w.run before).handled = (w.run steps).handled := by
  induction steps using List.reverseRecOn with
  | nil =>
      have none : w.loop.outcome = none := by simpa [ended] using live
      cases h.symm.trans none
  | append_singleton steps s ih =>
      rw [run_concat] at h ⊢
      cases running : (w.run steps).loop.ended with
      | true =>
          -- it had ended before, and `s` has left everything as it was
          obtain ⟨houtcome, hrouter, hdelivered, hhandled⟩ := ended_step running s
          obtain ⟨reason, before, after, rfl, ih⟩ := ih (houtcome ▸ h)
          refine ⟨reason, before, after ++ [s], by simp, ?_⟩
          rw [hrouter, hdelivered, hhandled]
          exact ih
      | false =>
          -- `s` has ended it, and only a round that stops can
          have none : (w.run steps).loop.outcome = none := by simpa [ended] using running
          by_cases hs : s = .poll
          · subst hs
            have sound := hw.run steps
            have polled := (w.run steps).polled
            generalize (w.run steps).step .poll = w' at polled h ⊢
            cases polled with
            | ended hended => cases running.symm.trans hended
            | took live f round => cases h.symm.trans none
            | waited live round => cases h.symm.trans ((arm_outcome _).trans none)
            | stopped live reason round =>
                exact ⟨reason, steps, [], rfl, (Option.some.inj h).symm, rfl, running,
                  sound.justifies round, rfl, rfl⟩
          · cases h.symm.trans (((w.run steps).step_outside hs).outcome_eq.trans none)

end Watched

/-- **The order of a run.** Whatever happens to a loop, and in whichever order: what it hands to the
router is what was delivered, in order and without a gap, up to some point before the first frame
that ends the connection. A frame counts as handed on in the very step in which the router handles
it, and in no other step does the router handle anything. Once cancelled the loop hands on nothing
more; and if it has ended, it did so in a round, with an outcome whose reason was so when the round
began. -/
theorem run_orderly (router : Router) (d : Disk) (time : Nat) (mark : TurnMark)
    (steps : List Step) :
    let w := (Watched.start router d time mark).run steps
    (w.handled <+: w.delivered.takeWhile fun f => f.closeReason?.isNone) ∧
      (∀ before s after, steps = before ++ s :: after →
        let u := (Watched.start router d time mark).run before
        u.Hands (u.step s)) ∧
      (w.loop.cancelled = true → ∀ later, (w.run later).handled = w.handled) ∧
      ∀ outcome ∈ w.loop.outcome, ∃ reason before after, steps = before ++ .poll :: after ∧
        outcome = outcomeOf w.loop.router.report reason ∧
        w.loop.router.report.closeReason = some reason ∧
        let last := (Watched.start router d time mark).run before
        last.loop.ended = false ∧ last.Justifies router.config.idleTimeout reason ∧
          last.delivered = w.delivered ∧ last.handled = w.handled := by
  intro w
  have sound := Watched.start_sound router d time mark
  refine ⟨(sound.run steps).handled_in_order, fun _ s _ _ => Watched.step_hands _ s, ?_, ?_⟩
  · intro cancelled later
    exact (Watched.cancelled_run cancelled later).2
  · intro outcome h
    exact sound.ended_run rfl h

/-- A frame that is there when the timer runs out is handled; what comes after the cancellation is
not. -/
theorem run_orderly_late_frame :
    ∃ router, Router.create .silent {} .active 0 = .ok router ∧
      let w := (Watched.start router { tree := .empty, cwd := [] } 0 {}).run
        [.poll, .elapse 30000, .deliver (.binary []), .poll, .cancel, .deliver (.binary [0]), .poll]
      w.loop.cancelled = true ∧ w.delivered = [.binary [], .binary [0]] ∧
        ∀ later, (w.run later).handled = [.binary []] := by
  have created : ∃ router, Router.create .silent {} .active 0 = .ok router := ⟨_, rfl⟩
  obtain ⟨router, created⟩ := created
  obtain ⟨-, -, after, -⟩ := run_orderly router { tree := .empty, cwd := [] } 0 {}
    [.poll, .elapse 30000, .deliver (.binary []), .poll, .cancel, .deliver (.binary [0]), .poll]
  refine ⟨router, created, ?_⟩
  cases created
  exact ⟨rfl, rfl, fun later => after rfl later⟩

end Loop

end VoiceLink
