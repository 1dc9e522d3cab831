import Mathlib
import VoiceLink.Audio.Accumulator

/-!
# What an accumulator holds

`Accumulator.holding` describes an accumulator by the chunks that went into it: the bytes are those
of all chunks one after the other, the totals are sums over the chunks, and every chunk has its own
statistics. Appending to such an accumulator gives the one that holds one chunk more
(`append_holding`), so the description fits every accumulator that was filled from empty.

Statements about a turn are statements about its chunks then. What is left of the accumulator itself
is `Aligned`, for those who keep one inside a larger state and do not know its chunks.
-/

namespace VoiceLink

/-! ## Chunks -/

/-- One piece of decoded audio, and the size of the compressed data it came from. -/
structure Chunk where
  inputBytes : Nat
  pcm : List UInt8
  deriving DecidableEq, Repr

namespace Accumulator

def holding (sampleRate : UInt32) (channels : UInt16) (chunks : List Chunk) : Accumulator :=
  let block := 2 * channels.toNat
  let bytes := chunks.flatMap (·.pcm)
  { sampleRate, channels, buffer := bytes
    stats :=
      { frames := chunks.length
        inputBytes := (chunks.map (·.inputBytes)).sum
        outputBytes := bytes.length
        samples := bytes.length / block }
    frames := chunks.mapIdx fun i c =>
      { index := i, inputBytes := c.inputBytes, outputBytes := c.pcm.length
        samples := c.pcm.length / block } }

variable {sampleRate : UInt32} {channels : UInt16}

@[simp]
theorem holding_nil : holding sampleRate channels [] = empty sampleRate channels := by
  simp [holding, empty]

@[simp]
theorem reset_holding (chunks : List Chunk) :
    (holding sampleRate channels chunks).reset = holding sampleRate channels [] := by
  rw [holding_nil]
  rfl

/-- Appending adds a chunk at the end, as long as samples can be counted. -/
theorem append_holding (supported : channels ≠ 0) (chunks : List Chunk) (inputBytes : Nat)
    (pcm : List UInt8) :
    ((holding sampleRate channels chunks).append inputBytes pcm).2 =
      holding sampleRate channels (chunks ++ [⟨inputBytes, pcm⟩]) := by
  have kept : ((holding sampleRate channels chunks).takeIn pcm).channels ≠ 0 := supported
  rw [append]
  simp only [kept, ↓reduceIte]
  simp [count, takeIn, holding, blockBytes, List.mapIdx_append]

/-! ## Whole samples

A chunk may end inside a sample, and figures count whole samples only. A decoder gives whole ones.
Then the total and the figures of the chunks agree, and that is most of what `Aligned` says. -/

/-- The figures of an accumulator agree with what is in it, and what is in it stands in whole
samples of its channels. -/
structure Aligned (a : Accumulator) : Prop where
  channels_pos : 0 < a.channels.toNat
  length_buffer : a.buffer.length = a.stats.outputBytes
  dvd_length : a.blockBytes ∣ a.buffer.length
  length_frames : a.frames.length = a.stats.frames
  index_eq : ∀ i (h : i < a.frames.length), a.frames[i].index = i
  samples_eq : a.stats.samples = a.stats.outputBytes / a.blockBytes
  samples_sum : a.stats.samples = (a.frames.map (·.samples)).sum

theorem dvd_length_flatMap {block : Nat} {chunks : List Chunk}
    (whole : ∀ c ∈ chunks, block ∣ c.pcm.length) :
    block ∣ (chunks.flatMap (·.pcm)).length := by
  rw [List.length_flatMap]
  apply List.dvd_sum
  intro n hn
  obtain ⟨c, hc, rfl⟩ := List.mem_map.1 hn
  exact whole c hc

/-- Of whole samples, there are as many in all chunks together as in each of them. -/
theorem length_flatMap_div {block : Nat} {chunks : List Chunk}
    (whole : ∀ c ∈ chunks, block ∣ c.pcm.length) :
    (chunks.flatMap (·.pcm)).length / block = (chunks.map fun c => c.pcm.length / block).sum := by
  induction chunks with
  | nil => simp
  | cons c chunks ih =>
      have first : block ∣ c.pcm.length := whole c List.mem_cons_self
      have rest := ih fun c' hc' => whole c' (List.mem_cons_of_mem c hc')
      rw [List.flatMap_cons, List.length_append, Nat.add_div_of_dvd_right first, rest,
        List.map_cons, List.sum_cons]

theorem samples_frames_holding (chunks : List Chunk) :
    (holding sampleRate channels chunks).frames.map (·.samples) =
      chunks.map fun c => c.pcm.length / (2 * channels.toNat) := by
  apply List.ext_getElem
  · simp [holding]
  · intro i _ _
    simp [holding]

theorem aligned_holding (supported : 0 < channels.toNat) {chunks : List Chunk}
    (whole : ∀ c ∈ chunks, 2 * channels.toNat ∣ c.pcm.length) :
    (holding sampleRate channels chunks).Aligned where
  channels_pos := supported
  length_buffer := rfl
  dvd_length := dvd_length_flatMap whole
  length_frames := by simp [holding]
  index_eq i h := by simp [holding]
  samples_eq := rfl
  samples_sum := by
    show (chunks.flatMap (·.pcm)).length / (2 * channels.toNat) = _
    rw [length_flatMap_div whole, samples_frames_holding]

/-- An accumulator with channels can count what is appended. -/
theorem append_isOk {a : Accumulator} (ha : 0 < a.channels.toNat) (inputBytes : Nat)
    (pcm : List UInt8) : (a.append inputBytes pcm).1.isOk = true := by
  have kept : (a.takeIn pcm).channels ≠ 0 := by
    intro zero
    rw [show a.channels = 0 from zero] at ha
    cases ha
  rw [append]
  simp only [kept, ↓reduceIte]
  rfl

end Accumulator

end VoiceLink
