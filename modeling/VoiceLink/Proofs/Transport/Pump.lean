import Mathlib
import VoiceLink.Transport.Pump

/-!
# What a pump delivers

`StreamItem.frames` says what a stream means: its messages up to its end, and one frame that tells
how it ended. A pump delivers just that, however its reads and the receiver's looks follow each
other: what was delivered, what waits and what is still to come make up the whole at every moment
(`Pump.Faithful`). Each step that does anything leaves less to do (`Pump.Faithful.step_work`), so
everything arrives in time (`Pump.Faithful.run_rounds`).

The order of the steps is open: reading, handing on, taking and leaving may follow each other in any
way. The buffer between the two ends is bounded, so a step may not be possible, and then it does
nothing. All steps are inverted once, in `stepped`.
-/

namespace VoiceLink

/-! ## What a stream means

A stream may go on behind its end, and what is there is not delivered. A stream that just stops is
closed. -/

namespace StreamItem

def isEnd : StreamItem → Bool
  | text _ => false
  | binary _ => false
  | ping _ => false
  | pong _ => false
  | close _ _ => true
  | failure _ => true

def message? : StreamItem → Option InboundFrame
  | text content => some (.text content)
  | binary data => some (.binary data)
  | ping _ => none
  | pong _ => none
  | close _ _ => none
  | failure _ => none

/-- How a stream ended: it failed, or it was closed or is over. -/
def ending (items : List StreamItem) : InboundFrame :=
  match items.find? isEnd with
  | some (.failure reason) => .failed reason
  | _ => .closed

/-- The texts and data of a stream, up to its end. -/
def messages (items : List StreamItem) : List InboundFrame :=
  (items.takeWhile fun item => !item.isEnd).filterMap message?

/-- What is to be delivered of a stream. -/
def frames (items : List StreamItem) : List InboundFrame := messages items ++ [ending items]

variable {items : List StreamItem}

/-- An item is handed on, or it is not; and behind the last one nothing counts. -/
theorem frames_cons (item : StreamItem) (items : List StreamItem) :
    frames (item :: items) =
      match item.frame? with
      | none => frames items
      | some f => if f.isLast then [f] else f :: frames items := by
  cases item <;> rfl

/-- Messages do not end anything. -/
theorem isLast_of_mem_messages {f : InboundFrame} (h : f ∈ messages items) : f.isLast = false := by
  obtain ⟨item, -, found⟩ := List.mem_filterMap.1 h
  cases item with
  | text content =>
      cases found
      rfl
  | binary data =>
      cases found
      rfl
  | _ => cases found

end StreamItem

namespace Pump

open StreamItem (frames)

variable {items : List StreamItem} {p : Pump}

@[simp]
theorem run_concat (p : Pump) (steps : List PumpStep) (s : PumpStep) :
    p.run (steps ++ [s]) = (p.run steps).step s := by
  simp [run]

@[simp]
theorem run_append (p : Pump) (steps later : List PumpStep) :
    p.run (steps ++ later) = (p.run steps).run later := by
  simp [run]

/-! ## What a step can be

The inversion of the steps. The constructors say everything about the pump before and after, so
nothing unfolds a step again. -/

/-- What can be seen after a step: it was not possible; the stream is over, or an item was read;
what is held has been handed on, or dropped for want of a receiver; the receiver has taken a frame,
or has gone away. -/
inductive Stepped (p : Pump) : PumpStep → Pump → Prop where
  | idle (s : PumpStep) (stays : s ≠ .leave) : Stepped p s p
  | ended (running : p.running = true) (free : p.held = none) (none : p.items = []) :
      Stepped p .read { p with held := some .closed }
  | got (running : p.running = true) (free : p.held = none) (item : StreamItem)
      (rest : List StreamItem) (more : p.items = item :: rest) :
      Stepped p .read { p with items := rest, held := item.frame? }
  | handed (f : InboundFrame) (held : p.held = some f) (receiving : p.receiving = true)
      (room : p.buffer.length < capacity) :
      Stepped p .hand
        { p with held := none, buffer := p.buffer ++ [f], running := !f.isLast }
  | dropped (f : InboundFrame) (held : p.held = some f) (gone : p.receiving = false) :
      Stepped p .hand { p with held := none, running := false }
  | took (f : InboundFrame) (rest : List InboundFrame) (waits : p.buffer = f :: rest)
      (receiving : p.receiving = true) :
      Stepped p .take { p with buffer := rest, delivered := p.delivered ++ [f] }
  | left : Stepped p .leave { p with receiving := false, buffer := [] }

/-- Every step is one of these. -/
theorem stepped (p : Pump) (s : PumpStep) : p.Stepped s (p.step s) := by
  cases s with
  | leave => exact .left
  | read =>
      simp only [step, read]
      split
      · exact .idle _ nofun
      · next free =>
        obtain ⟨running, empty⟩ : p.running = true ∧ p.held = none := by simpa using free
        split
        · next none => exact .ended running empty none
        · next item rest more => exact .got running empty item rest more
  | hand =>
      simp only [step, hand]
      split
      · exact .idle _ nofun
      · next f held =>
        split
        · next alone => exact .dropped f held (by simpa using alone)
        · next present =>
          split
          · exact .idle _ nofun
          · next room => exact .handed f held (by simpa using present) (Nat.lt_of_not_le room)
  | take =>
      simp only [step, take]
      split
      · exact .idle _ nofun
      · next f rest waits =>
        split
        · next receiving => exact .took f rest waits receiving
        · exact .idle _ nofun

/-- There is a receiver until it goes away. -/
theorem receiving_step (p : Pump) (s : PumpStep) :
    (p.step s).receiving = (p.receiving && s != .leave) := by
  have stepped := p.stepped s
  generalize p.step s = p' at stepped ⊢
  cases stepped with
  | idle _ stays => simp [stays]
  | left => simp
  | _ => simp

/-! ## Everything in its place

The invariant. While there is a receiver, the frames are in one of three places and in order across
them. Once it has gone, what was delivered is all that ever will be. -/

/-- What a pump is still going to put into the buffer. -/
def toCome (p : Pump) : List InboundFrame :=
  if p.running then
    match p.held with
    | none => frames p.items
    | some f => if f.isLast then [f] else f :: frames p.items
  else []

/-- A pump has kept everything of a stream in order, as long as there is a receiver. -/
structure Faithful (items : List StreamItem) (p : Pump) : Prop where
  whole : p.receiving = true → p.delivered ++ p.buffer ++ p.toCome = frames items
  front : p.delivered <+: frames items
  stopped : p.running = false → p.held = none
  lost : p.receiving = false → p.buffer = []

theorem start_faithful (items : List StreamItem) : (start items).Faithful items where
  whole _ := rfl
  front := List.nil_prefix
  stopped := nofun
  lost := nofun

theorem Faithful.running (hp : p.Faithful items) {f : InboundFrame} (held : p.held = some f) :
    p.running = true := by
  cases still : p.running with
  | true => rfl
  | false => cases held.symm.trans (hp.stopped still)

theorem Faithful.step (hp : p.Faithful items) (s : PumpStep) : (p.step s).Faithful items := by
  have stepped := p.stepped s
  generalize p.step s = p' at stepped ⊢
  -- each step moves a frame from one of the three places to the next
  have whole := hp.whole
  cases stepped with
  | idle => exact hp
  | ended running free none =>
      rw [toCome, if_pos running, free, none] at whole
      refine ⟨fun receiving => ?_, hp.front, fun still => ?_, hp.lost⟩
      · rw [toCome, if_pos running]
        exact whole receiving
      · cases running.symm.trans still
  | got running free item rest more =>
      rw [toCome, if_pos running, free, more] at whole
      refine ⟨fun receiving => ?_, hp.front, fun still => ?_, hp.lost⟩
      · rw [← whole receiving, StreamItem.frames_cons, toCome, if_pos running]
      · cases running.symm.trans still
  | handed f held receiving room =>
      have whole := whole receiving
      rw [toCome, if_pos (hp.running held), held] at whole
      refine ⟨fun _ => ?_, hp.front, fun _ => rfl, fun gone => ?_⟩
      · rw [← whole, toCome]
        cases last : f.isLast <;> simp [last]
      · cases receiving.symm.trans gone
  | dropped f held gone =>
      refine ⟨fun still => ?_, hp.front, fun _ => rfl, hp.lost⟩
      cases gone.symm.trans still
  | took f rest waits receiving =>
      have whole := whole receiving
      rw [waits] at whole
      refine ⟨fun _ => ?_, ?_, hp.stopped, fun gone => ?_⟩
      · rw [← whole]
        simp [toCome]
      · rw [← whole]
        exact ⟨rest ++ p.toCome, by simp⟩
      · cases receiving.symm.trans gone
  | left => exact ⟨nofun, hp.front, hp.stopped, fun _ => rfl⟩

theorem Faithful.run (hp : p.Faithful items) (steps : List PumpStep) :
    (p.run steps).Faithful items := by
  induction steps using List.reverseRecOn with
  | nil => exact hp
  | append_singleton steps s ih =>
      rw [run_concat]
      exact ih.step s

/-- There is a receiver as long as it has not gone away. -/
theorem receiving_run (p : Pump) (steps : List PumpStep) :
    (p.run steps).receiving = true ↔ p.receiving = true ∧ .leave ∉ steps := by
  induction steps using List.reverseRecOn with
  | nil => simp [Pump.run]
  | append_singleton steps s ih =>
      rw [run_concat, receiving_step, Bool.and_eq_true, ih, bne_iff_ne, List.mem_append,
        List.mem_singleton, not_or, and_assoc, ne_comm]

/-- When the receiver has gone away nothing is delivered any more. -/
theorem delivered_run (gone : p.receiving = false) (steps : List PumpStep) :
    (p.run steps).delivered = p.delivered := by
  induction steps using List.reverseRecOn with
  | nil => rfl
  | append_singleton steps s ih =>
      have still : (p.run steps).receiving ≠ true := by
        rw [Ne, receiving_run, gone]
        simp
      have stepped := (p.run steps).stepped s
      rw [run_concat, ← ih]
      generalize (p.run steps).step s = p' at stepped ⊢
      cases stepped with
      | took f rest waits receiving => exact absurd receiving still
      | _ => rfl

/-! ## Progress

Each step that is possible makes the work smaller, and as long as there is work, one is possible.
The one that is may change with the others' steps, so a round has to give everyone a turn; that is
all the fairness there is in it. -/

/-- What is left to do: three steps for every item that has not been read and for the end, two for a
frame that is held, one for each that waits. -/
def work (p : Pump) : Nat :=
  (if p.running && p.held.all (!·.isLast) then 3 * (p.items.length + 1) else 0) +
    2 * p.held.toList.length + p.buffer.length

/-- Nothing is left to do. -/
def Settled (p : Pump) : Prop := p.running = false ∧ p.buffer = []

/-- Whatever a step does leaves less to do, unless it is the receiver that goes away. -/
theorem Faithful.step_work (hp : p.Faithful items) {s : PumpStep}
    (stays : s = .leave → p.receiving = false) : p.step s = p ∨ (p.step s).work < p.work := by
  have stepped := p.stepped s
  generalize p.step s = p' at stepped ⊢
  cases stepped with
  | idle => exact .inl rfl
  | left =>
      have gone := stays rfl
      have lost := hp.lost gone
      left
      cases p
      simp_all
  | ended running free none =>
      right
      simp [work, running, free, none, InboundFrame.isLast]
  | got running free item rest more =>
      right
      simp only [work, running, free, more]
      cases item.frame? with
      | none => simp
      | some f =>
          cases last : f.isLast <;> simp [last] <;> omega
  | handed f held receiving room =>
      right
      simp only [work, hp.running held, held]
      cases last : f.isLast <;> simp [last] <;> omega
  | dropped f held gone =>
      right
      simp [work, held]
  | took f rest waits receiving =>
      right
      simp [work, waits]

/-- Where something is left to do, one of the steps does it. -/
theorem Faithful.exists_work (hp : p.Faithful items) (busy : ¬ p.Settled) :
    ∃ s, (s = .read ∨ s = .hand ∨ (s = .take ∧ p.receiving = true)) ∧
      (p.step s).work < p.work := by
  have lowers {s : PumpStep} (stays : s ≠ .leave) (other : p.step s ≠ p) :
      (p.step s).work < p.work :=
    (hp.step_work fun leaves => absurd leaves stays).resolve_left other
  have taken (waits : p.buffer ≠ []) (receiving : p.receiving = true) :
      (p.step .take).work < p.work := by
    refine lowers nofun fun same => ?_
    obtain ⟨f, rest, waits⟩ := List.exists_cons_of_ne_nil waits
    have shorter := congrArg Pump.buffer same
    simp [Pump.step, take, waits, receiving] at shorter
  cases held : p.held with
  | some f =>
      have running := hp.running held
      by_cases room : p.receiving = true ∧ capacity ≤ p.buffer.length
      · -- there is no room, so the receiver has something to take
        refine ⟨.take, .inr (.inr ⟨rfl, room.1⟩), taken ?_ room.1⟩
        intro none
        rw [none] at room
        exact absurd room.2 (by decide)
      · refine ⟨.hand, .inr (.inl rfl), lowers nofun fun same => ?_⟩
        have free := congrArg Pump.held same
        rw [not_and] at room
        simp only [Pump.step, hand, held] at free
        split at free
        · cases free
        · next present =>
          rw [if_neg (room (by simpa using present))] at free
          cases free
  | none =>
      cases running : p.running with
      | true =>
          refine ⟨.read, .inl rfl, lowers nofun fun same => ?_⟩
          have more := congrArg Pump.items same
          have free := congrArg Pump.held same
          simp only [Pump.step, read, running, held] at more free
          cases left : p.items with
          | nil => simp [left] at free
          | cons item rest => simp [left] at more
      | false =>
          have waits : p.buffer ≠ [] := fun none => busy ⟨running, none⟩
          have receiving : p.receiving = true := by
            cases gone : p.receiving with
            | true => rfl
            | false => exact absurd (hp.lost gone) waits
          exact ⟨.take, .inr (.inr ⟨rfl, receiving⟩), taken waits receiving⟩

/-- Everyone has had a turn: the pump has read and handed on, and the receiver, if there is one, has
taken a frame and stayed. -/
structure Round (receiving : Bool) (steps : List PumpStep) : Prop where
  read : .read ∈ steps
  hand : .hand ∈ steps
  take : receiving = true → .take ∈ steps ∧ .leave ∉ steps

/-- Once settled, a pump does nothing more. -/
theorem Settled.run (hp : p.Settled) (free : p.held = none) (steps : List PumpStep) :
    (p.run steps).Settled := by
  suffices (p.run steps).Settled ∧ (p.run steps).held = none from this.1
  induction steps using List.reverseRecOn with
  | nil => exact ⟨hp, free⟩
  | append_singleton steps s ih =>
      obtain ⟨⟨still, empty⟩, free⟩ := ih
      have stepped := (p.run steps).stepped s
      rw [run_concat]
      generalize (p.run steps).step s = p' at stepped ⊢
      cases stepped with
      | idle => exact ⟨⟨still, empty⟩, free⟩
      | left => exact ⟨⟨still, rfl⟩, free⟩
      | ended running => cases running.symm.trans still
      | got running => cases running.symm.trans still
      | handed f held => cases held.symm.trans free
      | dropped f held => cases held.symm.trans free
      | took f rest waits => cases waits.symm.trans empty

/-- No step makes more to do. -/
theorem Faithful.work_run_le (hp : p.Faithful items) (steps : List PumpStep) :
    (p.run steps).work ≤ p.work := by
  induction steps using List.reverseRecOn with
  | nil => exact Nat.le_refl _
  | append_singleton steps s ih =>
      rw [run_concat]
      refine Nat.le_trans ?_ ih
      by_cases leaves : s = .leave
      · -- what waited is lost
        subst leaves
        simp [Pump.step, leave, work]
      · rcases (hp.run steps).step_work fun h => absurd h leaves with same | less
        · exact Nat.le_of_eq (congrArg work same)
        · exact Nat.le_of_lt less

/-- Among steps one of which leaves less to do, the first that does anything does so. -/
theorem Faithful.work_run_lt (hp : p.Faithful items) {s : PumpStep} {steps : List PumpStep}
    (h : s ∈ steps) (less : (p.step s).work < p.work)
    (stays : p.receiving = true → .leave ∉ steps) : (p.run steps).work < p.work := by
  induction steps with
  | nil => cases h
  | cons first steps ih =>
      have first_stays : first = .leave → p.receiving = false := by
        rintro rfl
        cases there : p.receiving with
        | false => rfl
        | true => exact absurd List.mem_cons_self (stays there)
      rcases hp.step_work first_stays with same | less'
      · -- it has done nothing, so the one that does is behind it
        have behind : s ∈ steps := by
          refine (List.mem_cons.1 h).resolve_left ?_
          rintro rfl
          rw [same] at less
          exact Nat.lt_irrefl _ less
        have run_eq : p.run (first :: steps) = p.run steps := congrArg (Pump.run · steps) same
        rw [run_eq]
        exact ih behind fun there mem => stays there (List.mem_cons_of_mem _ mem)
      · exact Nat.lt_of_le_of_lt ((hp.step first).work_run_le steps) less'

/-- When everyone has had as many turns as there is work, nothing is left to do. -/
theorem Faithful.run_rounds (hp : p.Faithful items) {rounds : List (List PumpStep)}
    (turns : ∀ r ∈ rounds, Round p.receiving r) (enough : p.work ≤ rounds.length) :
    (p.run rounds.flatten).Settled := by
  induction rounds generalizing p with
  | nil =>
      refine Classical.byContradiction fun busy => ?_
      obtain ⟨s, -, less⟩ := hp.exists_work busy
      exact absurd (Nat.lt_of_lt_of_le less enough) (Nat.not_lt_zero _)
  | cons r rounds ih =>
      by_cases settled : p.Settled
      · exact settled.run (hp.stopped settled.1) _
      · obtain ⟨s, kind, less⟩ := hp.exists_work settled
        have turn := turns r List.mem_cons_self
        have mem : s ∈ r := by
          rcases kind with rfl | rfl | ⟨rfl, there⟩
          · exact turn.read
          · exact turn.hand
          · exact (turn.take there).1
        have fewer : (p.run r).work < p.work :=
          hp.work_run_lt mem less fun there => (turn.take there).2
        have there : (p.run r).receiving = p.receiving := by
          rw [Bool.eq_iff_iff, receiving_run]
          exact ⟨And.left, fun there => ⟨there, (turn.take there).2⟩⟩
        rw [List.flatten_cons, run_append]
        apply ih (hp.run r)
        · intro r' hr'
          rw [there]
          exact turns r' (List.mem_cons_of_mem _ hr')
        · rw [List.length_cons] at enough
          omega

end Pump

end VoiceLink
