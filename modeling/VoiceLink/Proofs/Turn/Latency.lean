import Mathlib
import VoiceLink.Turn.Latency

/-!
# Arrivals, turn by turn

A tracker keeps a handful of numbers, some for a turn and some for good, and forgets the instants
they were made from. `Arrivals.ofCalls` keeps the instants instead, sorted by turns, and
`LatencyTracker.ofTurns` computes every number from them in one go. `run_ofTurns` says that the two
agree after any calls, whether or not the clock ran backwards in between.
-/

namespace VoiceLink

def FrameTiming.delay? : FrameTiming → Option Nat
  | first delay => some delay
  | gap _ => none

def FrameTiming.gap? : FrameTiming → Option Nat
  | first _ => none
  | gap duration => some duration

namespace LatencyTracker

/-! ## Calls -/

/-- What a tracker can be told. -/
inductive Call where
  | startTurn (now : Instant)
  | recordFrame (now : Instant)
  deriving DecidableEq, Repr

def Call.isFrame : Call → Bool
  | startTurn _ => false
  | recordFrame _ => true

def call (t : LatencyTracker) : Call → Option FrameTiming × LatencyTracker
  | .startTurn now => (none, t.startTurn now)
  | .recordFrame now =>
    let (timing, t) := t.recordFrame now
    (some timing, t)

/-- Some calls one after the other, with everything that they returned. -/
def run (t : LatencyTracker) : List Call → List FrameTiming × LatencyTracker
  | [] => ([], t)
  | c :: calls =>
    let (timing, t) := t.call c
    let (timings, t) := t.run calls
    (timing.toList ++ timings, t)

end LatencyTracker

/-! ## Turns

A turn is where it started and when its frames came. Every figure of a turn can be read off that. -/

/-- When a turn started, and when its frames came. -/
structure Arrivals where
  start : Instant
  frames : List Instant := []
  deriving DecidableEq, Repr

namespace Arrivals

open LatencyTracker

def add (a : Arrivals) (now : Instant) : Arrivals := { a with frames := a.frames ++ [now] }

def isHeard (a : Arrivals) : Bool := !a.frames.isEmpty

def delay? (a : Arrivals) : Option Nat := a.frames.head?.map fun first => first - a.start

def gaps (a : Arrivals) : List Nat :=
  a.frames.zipWith (fun earlier later => later - earlier) a.frames.tail

/-- What is measured at the frames. -/
def timings (a : Arrivals) : List FrameTiming :=
  (a.delay?.map .first).toList ++ a.gaps.map .gap

/-- The calls that make up a turn. -/
def calls (a : Arrivals) : List Call := .startTurn a.start :: a.frames.map .recordFrame

/-- The turns that some calls make up, beginning within one. -/
def ofCalls (current : Arrivals) : List Call → List Arrivals
  | [] => [current]
  | .startTurn now :: calls => current :: ofCalls { start := now } calls
  | .recordFrame now :: calls => ofCalls (current.add now) calls

/-- Sorting the calls by turns loses none and moves none. -/
theorem flatMap_calls_ofCalls (current : Arrivals) (calls : List Call) :
    (ofCalls current calls).flatMap Arrivals.calls = current.calls ++ calls := by
  induction calls generalizing current with
  | nil => simp [ofCalls]
  | cons c calls ih =>
      cases c with
      | startTurn now => simp [ofCalls, ih, Arrivals.calls]
      | recordFrame now => simp [ofCalls, ih, Arrivals.calls, add]

/-! ## One more frame

What a frame adds to the figures of its turn. The first frame adds a delay, and each other one a
gap. -/

variable {a : Arrivals} {now last : Instant}

theorem delay?_add (h : a.frames = []) : (a.add now).delay? = some (now - a.start) := by
  simp [delay?, add, h]

theorem delay?_add_of_frame (h : a.frames.getLast? = some last) :
    (a.add now).delay? = a.delay? := by
  have some_first : a.frames ≠ [] := by
    intro none
    rw [none] at h
    cases h
  rw [delay?, add, List.head?_append_of_ne_nil _ some_first]
  rfl

theorem gaps_add (h : a.frames = []) : (a.add now).gaps = a.gaps := by
  simp [gaps, add, h]

theorem gaps_add_of_frame (h : a.frames.getLast? = some last) :
    (a.add now).gaps = a.gaps ++ [now - last] := by
  obtain ⟨start, frames⟩ := a
  -- the frames are taken off the front, down to the one that is last
  induction frames with
  | nil => cases h
  | cons first frames ih =>
      cases frames with
      | nil =>
          cases h
          rfl
      | cons second frames =>
          have rest := ih (by rwa [List.getLast?_cons_cons] at h)
          exact congrArg (List.cons (second - first)) rest

theorem timings_add (h : a.frames = []) :
    (a.add now).timings = a.timings ++ [.first (now - a.start)] := by
  rw [timings, delay?_add h, gaps_add h]
  simp [timings, delay?, gaps, h]

theorem timings_add_of_frame (h : a.frames.getLast? = some last) :
    (a.add now).timings = a.timings ++ [.gap (now - last)] := by
  rw [timings, delay?_add_of_frame h, gaps_add_of_frame h]
  simp [timings]

/-- Every frame but the first of a turn ends a gap. -/
theorem length_gaps (a : Arrivals) : a.gaps.length + (if a.isHeard then 1 else 0) =
    a.frames.length := by
  obtain ⟨start, frames⟩ := a
  cases frames with
  | nil => rfl
  | cons first frames => simp [gaps, isHeard]

/-- While the clock does not run backwards, the gaps of a turn take up all the time between its
first frame and its last. -/
theorem sum_gaps {first : Instant} (hfirst : a.frames.head? = some first)
    (hlast : a.frames.getLast? = some last) (forward : a.frames.Pairwise (· ≤ ·)) :
    a.gaps.sum = last - first := by
  obtain ⟨start, frames⟩ := a
  induction frames generalizing first with
  | nil => cases hfirst
  | cons x frames ih =>
      obtain rfl : x = first := by simpa using hfirst
      cases frames with
      | nil =>
          cases hlast
          simp [gaps]
      | cons second frames =>
          obtain ⟨least, forward⟩ := List.pairwise_cons.1 forward
          rw [List.getLast?_cons_cons] at hlast
          have step : x ≤ second := least second List.mem_cons_self
          have later : second ≤ last := by
            rcases List.mem_cons.1 (List.mem_of_getLast? hlast) with same | behind
            · exact same.ge
            · exact (List.pairwise_cons.1 forward).1 last behind
          calc (second - x) + (Arrivals.gaps ⟨start, second :: frames⟩).sum
              = (second - x) + (last - second) := by rw [ih rfl hlast forward]
            _ = (last - second) + (second - x) := Nat.add_comm ..
            _ = last - x := Nat.sub_add_sub_cancel later step

end Arrivals

namespace LatencyTracker

/-! ## Trackers

The figures for good are about all turns so far, and those for a turn about the last one. The
delay is kept from the last turn that had a frame, so the tracker has to be told about earlier
turns too. -/

/-- The tracker that some turns leave behind. -/
def ofTurns (turns : List Arrivals) : LatencyTracker :=
  let gaps := turns.flatMap Arrivals.gaps
  { turnStarted := (turns.getLast?.map Arrivals.start).getD 0
    lastFrame := turns.getLast?.bind fun a => a.frames.getLast?
    firstFrameDelay := (turns.filterMap Arrivals.delay?).getLast?
    gapTotal := gaps.sum
    gapCount := gaps.length
    maxGap := gaps.foldl max 0
    frames := (turns.map fun a => a.frames.length).sum }

theorem startTurn_ofTurns (turns : List Arrivals) (now : Instant) :
    (ofTurns turns).startTurn now = ofTurns (turns ++ [{ start := now }]) := by
  simp [startTurn, ofTurns, Arrivals.gaps, Arrivals.delay?]

/-- The first frame of a turn is measured from its start. -/
theorem recordFrame_ofTurns (earlier : List Arrivals) {current : Arrivals} (now : Instant)
    (h : current.frames = []) :
    (ofTurns (earlier ++ [current])).recordFrame now =
      (.first (now - current.start), ofTurns (earlier ++ [current.add now])) := by
  have kept : (current.add now).start = current.start := rfl
  have more : (current.add now).frames = [now] := by simp [Arrivals.add, h]
  simp [recordFrame, ofTurns, h, kept, more, Arrivals.gaps_add, Arrivals.delay?_add]

/-- A later frame is measured from the one before. -/
theorem recordFrame_ofTurns_of_frame (earlier : List Arrivals) {current : Arrivals} {last : Instant}
    (now : Instant) (h : current.frames.getLast? = some last) :
    (ofTurns (earlier ++ [current])).recordFrame now =
      (.gap (now - last), ofTurns (earlier ++ [current.add now])) := by
  have kept : (current.add now).start = current.start := rfl
  have more : (current.add now).frames = current.frames ++ [now] := rfl
  simp [recordFrame, ofTurns, h, kept, more, Arrivals.gaps_add_of_frame h,
    Arrivals.delay?_add_of_frame h, Nat.add_assoc]

/-- Whichever it is, the turn has the frame from then on, and what was measured. -/
theorem recordFrame_measures (earlier : List Arrivals) (current : Arrivals) (now : Instant) :
    let r := (ofTurns (earlier ++ [current])).recordFrame now
    r.2 = ofTurns (earlier ++ [current.add now]) ∧
    (current.add now).timings = current.timings ++ [r.1] := by
  intro r
  cases h : current.frames.getLast? with
  | none =>
      rw [List.getLast?_eq_none_iff] at h
      have hr : r = _ := recordFrame_ofTurns earlier now h
      rw [hr]
      exact ⟨rfl, Arrivals.timings_add h⟩
  | some last =>
      have hr : r = _ := recordFrame_ofTurns_of_frame earlier now h
      rw [hr]
      exact ⟨rfl, Arrivals.timings_add_of_frame h⟩

/-- Call by call, a tracker keeps up with the turns. -/
theorem run_ofTurns (earlier : List Arrivals) (current : Arrivals) (calls : List Call) :
    let turns := Arrivals.ofCalls current calls
    let r := (ofTurns (earlier ++ [current])).run calls
    r.2 = ofTurns (earlier ++ turns) ∧
    turns.flatMap Arrivals.timings = current.timings ++ r.1 := by
  induction calls generalizing earlier current with
  | nil => simp [run, Arrivals.ofCalls]
  | cons c calls ih =>
      intro turns r
      cases c with
      | startTurn now =>
          obtain ⟨after, measured⟩ := ih (earlier ++ [current]) { start := now }
          rw [← startTurn_ofTurns] at after measured
          refine ⟨?_, ?_⟩
          · rw [List.append_assoc] at after
            exact after
          · exact congrArg (current.timings ++ ·) measured
      | recordFrame now =>
          obtain ⟨after, measured⟩ := ih earlier (current.add now)
          obtain ⟨kept, timing⟩ := recordFrame_measures earlier current now
          rw [← kept] at after measured
          refine ⟨after, ?_⟩
          rw [timing, List.append_assoc] at measured
          exact measured

/-! ## Figures

The counts and sums of the gaps of all turns. -/

theorem le_foldl_max {gaps : List Nat} {gap : Nat} (h : gap ∈ gaps) : gap ≤ gaps.foldl max 0 := by
  induction gaps using List.reverseRecOn with
  | nil => cases h
  | append_singleton gaps last ih =>
      rw [List.foldl_concat]
      rcases List.mem_append.1 h with before | here
      · exact (ih before).trans (le_max_left ..)
      · rw [List.mem_singleton.1 here]
        exact le_max_right ..

/-- The frames are the first ones of their turns and those that end a gap. -/
theorem gapCount_ofTurns (turns : List Arrivals) :
    (ofTurns turns).gapCount + turns.countP Arrivals.isHeard = (ofTurns turns).frames := by
  show (turns.flatMap Arrivals.gaps).length + _ = (turns.map fun a => a.frames.length).sum
  induction turns with
  | nil => rfl
  | cons a turns ih =>
      rw [List.flatMap_cons, List.length_append, List.countP_cons, List.map_cons, List.sum_cons,
        ← ih, ← a.length_gaps]
      omega

theorem gapTotal_le_ofTurns (turns : List Arrivals) :
    (ofTurns turns).gapTotal ≤ (ofTurns turns).gapCount * (ofTurns turns).maxGap :=
  List.sum_le_card_nsmul _ _ fun _ => le_foldl_max

/-- The frames of the turns are the frames of the calls. -/
theorem frames_ofCalls (started : Instant) (calls : List Call) :
    (ofTurns (Arrivals.ofCalls { start := started } calls)).frames =
      calls.countP Call.isFrame := by
  have ofTurn (a : Arrivals) : a.calls.countP Call.isFrame = a.frames.length := by
    simp [Arrivals.calls, Call.isFrame, Function.comp_def]
  have all := congrArg (List.countP Call.isFrame)
    (Arrivals.flatMap_calls_ofCalls { start := started } calls)
  simp only [List.countP_flatMap, Function.comp_def, ofTurn] at all
  rw [show (ofTurns _).frames = _ from all]
  simp [Arrivals.calls, Call.isFrame]

/-! ## First frames

Whether a frame is the first of its turn is a question about the calls since the last start, and the
tracker has the answer in a single field. -/

theorem run_concat (t : LatencyTracker) (calls : List Call) (c : Call) :
    (t.run (calls ++ [c])).2 = ((t.run calls).2.call c).2 := by
  induction calls generalizing t with
  | nil => rfl
  | cons first calls ih => exact ih (t.call first).2

/-- A tracker has a frame to measure the next one from if one has come since the last start. -/
theorem lastFrame_run (started : Instant) (calls : List Call) :
    ((create started).run calls).2.lastFrame = none ↔ calls.rtakeWhile Call.isFrame = [] := by
  induction calls using List.reverseRecOn with
  | nil => exact iff_of_true rfl rfl
  | append_singleton calls c _ =>
      rw [run_concat]
      cases c with
      | startTurn now =>
          rw [List.rtakeWhile_concat_neg _ _ _ (by simp [Call.isFrame])]
          exact iff_of_true rfl rfl
      | recordFrame now =>
          rw [List.rtakeWhile_concat_pos _ _ _ rfl]
          refine iff_of_false ?_ (by simp)
          unfold call recordFrame
          cases ((create started).run calls).2.lastFrame <;> simp

/-- A frame is measured from the start of its turn or from the frame before, never from both. -/
theorem timing_recordFrame (t : LatencyTracker) (now : Instant) :
    ((t.recordFrame now).1.delay?.isSome ↔ t.lastFrame = none) ∧
    ((t.recordFrame now).1.gap?.isSome ↔ t.lastFrame ≠ none) := by
  unfold recordFrame
  cases t.lastFrame <;> simp [FrameTiming.delay?, FrameTiming.gap?]

/-- After any calls, whatever the clock showed, a tracker has measured the turns that the calls make
up: at each frame the delay or the gap, and in the end the figures of all turns. -/
theorem run_measures (started : Instant) (calls : List Call) :
    let turns := Arrivals.ofCalls { start := started } calls
    let gaps := turns.flatMap Arrivals.gaps
    let timings := ((create started).run calls).1
    let t := ((create started).run calls).2
    turns.flatMap Arrivals.calls = .startTurn started :: calls ∧
    timings = turns.flatMap Arrivals.timings ∧
    (∀ now, let timing := (t.recordFrame now).1
      (timing.delay?.isSome ↔ calls.rtakeWhile Call.isFrame = []) ∧
      (timing.gap?.isSome ↔ calls.rtakeWhile Call.isFrame ≠ [])) ∧
    t.frames = calls.countP Call.isFrame ∧
    t.gapCount + turns.countP Arrivals.isHeard = t.frames ∧
    t.gapTotal = gaps.sum ∧
    t.maxGap = gaps.foldl max 0 ∧
    t.firstFrameDelay = (turns.filterMap Arrivals.delay?).getLast? ∧
    t.gapTotal ≤ t.gapCount * t.maxGap ∧
    ∀ turn ∈ turns, ∀ first last, turn.frames.head? = some first →
      turn.frames.getLast? = some last → turn.frames.Pairwise (· ≤ ·) →
      turn.gaps.sum = last - first := by
  intro turns gaps timings t
  obtain ⟨ht, htimings⟩ := run_ofTurns [] { start := started } calls
  have ht : t = ofTurns turns := ht
  refine ⟨Arrivals.flatMap_calls_ofCalls { start := started } calls, htimings.symm,
    fun now => ?_, ?_, ?_, ?_, ?_, ?_, ?_, ?_⟩
  · rw [Ne, ← lastFrame_run started]
    exact timing_recordFrame t now
  · rw [ht]
    exact frames_ofCalls started calls
  · rw [ht]
    exact gapCount_ofTurns turns
  · rw [ht]; rfl
  · rw [ht]; rfl
  · rw [ht]; rfl
  · rw [ht]
    exact gapTotal_le_ofTurns turns
  · intro turn _ first last hfirst hlast forward
    exact Arrivals.sum_gaps hfirst hlast forward

/-- Two turns with frames and two without, in one of them a clock that runs backwards. -/
theorem run_measures_backwards :
    let first : Arrivals := { start := 0, frames := [250, 310, 410] }
    let calls : List Call := first.frames.map .recordFrame ++
      [.startTurn 1000, .startTurn 900, .recordFrame 1100, .recordFrame 1050, .startTurn 2000]
    let r := (create 0).run calls
    r.1 = [.first 250, .gap 60, .gap 100, .first 200, .gap 0] ∧
    r.2.frames = 5 ∧ r.2.gapCount + 2 = 5 ∧ r.2.gapTotal = 160 ∧ r.2.maxGap = 100 ∧
    r.2.firstFrameDelay = some 200 ∧ first.gaps.sum = 410 - 250 := by
  intro first calls r
  obtain ⟨-, timings, -, frames, count, total, most, delay, -, whole⟩ := run_measures 0 calls
  rw [frames] at count
  exact ⟨timings, frames, count, total, most, delay,
    whole first (by decide) 250 410 rfl rfl (by decide)⟩

end LatencyTracker

end VoiceLink
