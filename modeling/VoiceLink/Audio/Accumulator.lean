import VoiceLink.Text.Numeral

/-!
# The audio of a turn

An accumulator collects the decoded audio of the current turn together with statistics of each piece
and of the whole. It only adds up: who decides where a turn starts and ends is elsewhere, and so is
the decoding.

What is reported leaves as data of its own (`FrameStats`, `TurnStats`, `PcmSnapshot`), so nothing
that was handed out changes when more audio comes in. Counts are kept as they are, and durations are
computed from them when somebody asks.
-/

namespace VoiceLink

/-! ## Figures

Samples are counted per channel, and bytes on either side of the decoder. A duration in milliseconds
is a count of samples at the rate of the output; it is a fraction, as the rates need not divide a
thousand samples. -/

/-- Statistics of one appended piece. -/
structure FrameStats where
  /-- Position within the turn, from zero. -/
  index : Nat
  /-- Compressed bytes received. -/
  inputBytes : Nat
  /-- Decoded bytes. -/
  outputBytes : Nat
  /-- Samples per channel. -/
  samples : Nat
  deriving DecidableEq, Repr

structure TurnStats where
  frames : Nat := 0
  inputBytes : Nat := 0
  outputBytes : Nat := 0
  samples : Nat := 0
  deriving DecidableEq, Repr

/-- How long a number of samples lasts, in milliseconds. -/
def durationMs (samples sampleRate : Nat) : Float :=
  Float.ofNat samples * 1000.0 / Float.ofNat sampleRate

/-- How long a turn lasts, in milliseconds: no time before its first piece. -/
def TurnStats.duration (s : TurnStats) (sampleRate : Nat) : Float :=
  if s.frames = 0 then 0.0 else durationMs s.samples sampleRate

/-- The collected audio of one turn. -/
structure PcmSnapshot where
  pcm : List UInt8
  sampleRate : UInt32
  channels : UInt16
  stats : TurnStats
  frames : List FrameStats
  deriving DecidableEq, Repr

/-! ## Collecting

Audio comes in pieces, and a piece is taken in before it is counted (`takeIn`, `count`): whatever
may go wrong with counting, no byte is lost. A piece is counted in the list of frames and in the
totals at once. -/

/-- A collector of the current turn. -/
structure Accumulator where
  sampleRate : UInt32
  channels : UInt16
  buffer : List UInt8
  stats : TurnStats
  frames : List FrameStats
  deriving DecidableEq, Repr

namespace Accumulator

def empty (sampleRate : UInt32) (channels : UInt16) : Accumulator :=
  { sampleRate, channels, buffer := [], stats := {}, frames := [] }

def blockBytes (a : Accumulator) : Nat := 2 * a.channels.toNat

/-- The only way an accumulator fails: without channels, samples cannot be counted. -/
inductive Fault where
  | noChannels
  deriving DecidableEq, Repr

/-- The bytes of a piece are taken in before anything is counted. -/
def takeIn (a : Accumulator) (pcm : List UInt8) : Accumulator :=
  { a with buffer := a.buffer ++ pcm }

/-- Count one piece of `inputBytes` compressed and `outputBytes` decoded bytes. -/
def count (a : Accumulator) (inputBytes outputBytes : Nat) : FrameStats × Accumulator :=
  let frame : FrameStats :=
    { index := a.frames.length, inputBytes, outputBytes, samples := outputBytes / a.blockBytes }
  -- counted from all the bytes, so what is left of a sample at the end of a piece is not lost
  let total := a.stats.outputBytes + outputBytes
  let stats : TurnStats :=
    { frames := a.stats.frames + 1
      inputBytes := a.stats.inputBytes + inputBytes
      outputBytes := total
      samples := total / a.blockBytes }
  (frame, { a with stats, frames := a.frames ++ [frame] })

/-- Append one piece of decoded audio. Without channels the bytes are kept but not counted. -/
def append (a : Accumulator) (inputBytes : Nat) (pcm : List UInt8) :
    Except Fault FrameStats × Accumulator :=
  -- the bytes come first: the buffer keeps them even where they cannot be counted
  let a := a.takeIn pcm
  if a.channels = 0 then (.error .noChannels, a)
  else
    let (frame, a) := a.count inputBytes pcm.length
    (.ok frame, a)

/-- The turn so far. -/
def snapshot (a : Accumulator) : PcmSnapshot :=
  { pcm := a.buffer, sampleRate := a.sampleRate, channels := a.channels, stats := a.stats,
    frames := a.frames }

def reset (a : Accumulator) : Accumulator := empty a.sampleRate a.channels

/-- Whether no audio has been collected. -/
def isEmpty (a : Accumulator) : Bool := a.buffer.isEmpty

end Accumulator

end VoiceLink
