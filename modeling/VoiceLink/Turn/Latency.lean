/-!
# Latency of the replies

How long the first audio of a turn takes to arrive, and the gaps between the pieces that follow.
Instants are nanoseconds; a clock that runs backwards gives no negative durations.

The tracker keeps sums and the largest gap, so it needs no more room for a long session than for a
short one. It is not told when a turn ends: the next one that starts makes its first frame a first
frame again, and the delay of the turn before stands until that frame is there.

Counts are natural numbers. A counter of 32 bits would agree as long as fewer than `UInt32.size`
gaps are measured in a session, and that much is assumed wherever the mean gap is spoken of.
-/

namespace VoiceLink

/-! ## Instants -/

/-- A point in time, in nanoseconds since some origin. -/
abbrev Instant := Nat

def milliseconds (nanoseconds : Nat) : Float := Float.ofNat nanoseconds / 1000000.0

/-! ## Tracking -/

inductive FrameTiming where
  /-- The first frame of a turn, and how long after its start it came. -/
  | first (delay : Nat)
  /-- A later frame, and how long after the one before it came. -/
  | gap (duration : Nat)
  deriving DecidableEq, Repr

/-- What is known about the arrivals so far. `gapCount` is taken to stay below `UInt32.size`. -/
structure LatencyTracker where
  turnStarted : Instant
  lastFrame : Option Instant
  firstFrameDelay : Option Nat
  gapTotal : Nat
  gapCount : Nat
  maxGap : Nat
  frames : Nat
  deriving DecidableEq, Repr

namespace LatencyTracker

def create (now : Instant) : LatencyTracker :=
  { turnStarted := now, lastFrame := none, firstFrameDelay := none, gapTotal := 0, gapCount := 0,
    maxGap := 0, frames := 0 }

def startTurn (t : LatencyTracker) (now : Instant) : LatencyTracker :=
  { t with turnStarted := now, lastFrame := none }

def recordFrame (t : LatencyTracker) (now : Instant) : FrameTiming × LatencyTracker :=
  match t.lastFrame with
  | none =>
    -- subtraction stops at zero, also where the clock has run backwards
    let delay := now - t.turnStarted
    (.first delay,
      { t with firstFrameDelay := some delay, lastFrame := some now, frames := t.frames + 1 })
  | some last =>
    let gap := now - last
    (.gap gap,
      { t with
        gapTotal := t.gapTotal + gap
        gapCount := t.gapCount + 1
        maxGap := max t.maxGap gap
        lastFrame := some now
        frames := t.frames + 1 })

/-- The mean gap in milliseconds, zero where there was none. -/
def meanGapMs (t : LatencyTracker) : Float :=
  if t.gapCount = 0 then 0.0 else milliseconds t.gapTotal / Float.ofNat t.gapCount

end LatencyTracker

end VoiceLink
