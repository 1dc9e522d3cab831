import Mathlib
import VoiceLink.Audio.Codec

/-!
# What a decoded packet measures

The framing of a sound packet names at least one frame, and no frame is without duration. So a
packet that the decoder accepts gives at least one sample for each channel (`samples_pos`), and its
audio has two bytes for every sample of every channel (`length_pcm`).

`decode_eq_ok` and `decode_eq_error` say all that decoding can do, once. Everything else about
decoders goes through these two.
-/

namespace VoiceLink

namespace Packet

/-! ## Sound packets last some time

The frames of a packet are never none, whichever of the four codes it has, and their number and
duration are bounded together. So a packet cannot be too short to be counted or too long for the
output buffer. -/

theorem frameTicks_pos (config : Nat) : 0 < frameTicks config := by
  have four : ∀ i < 4, 0 < [4, 8, 16, 24].getD i 0 := by decide
  have two : ∀ i < 2, 0 < [4, 8].getD i 0 := by decide
  have short : ∀ i < 4, 0 < [1, 2, 4, 8].getD i 0 := by decide
  unfold frameTicks
  split
  · exact four _ (Nat.mod_lt _ (by decide))
  · split
    · exact two _ (Nat.mod_lt _ (by decide))
    · exact short _ (Nat.mod_lt _ (by decide))

theorem lastTakesRest_ne_nil {lengths ls : List Nat} {total : Nat}
    (h : lastTakesRest lengths total = some ls) : ls ≠ [] := by
  simp only [lastTakesRest] at h
  split at h
  · cases h
    simp
  · cases h

theorem countedFrames_ne_nil {bytes : List UInt8} {ls : List Nat}
    (h : countedFrames bytes = some ls) : ls ≠ [] := by
  cases bytes with
  | nil => cases h
  | cons flags bytes =>
      simp only [countedFrames, Option.bind_eq_bind] at h
      -- the two ways of reading the padding go on alike
      split at h
      all_goals
        obtain ⟨⟨padding, rest⟩, -, h⟩ := Option.bind_eq_some_iff.1 h
        split at h
        · cases h
        · split at h
          · cases h
          · next count =>
            split at h
            · obtain ⟨⟨lengths, tail⟩, -, h⟩ := Option.bind_eq_some_iff.1 h
              exact lastTakesRest_ne_nil h
            · split at h
              · cases h
                simpa using count
              · cases h

theorem framesOf_ne_nil {code : Nat} {bytes : List UInt8} {ls : List Nat}
    (h : framesOf code bytes = some ls) : ls ≠ [] := by
  unfold framesOf at h
  split at h
  · cases h
    simp
  · split at h
    · cases h
      simp
    · cases h
  · obtain ⟨⟨length, rest⟩, -, h⟩ := Option.bind_eq_some_iff.1 h
    exact lastTakesRest_ne_nil h
  · exact countedFrames_ne_nil h

/-- A sound packet has frames, and lasts as long as they do. -/
theorem exists_frames {p : Packet} {ticks : Nat} (h : p.ticks? = some ticks) :
    ∃ (config : Nat) (lengths : List Nat), lengths ≠ [] ∧
      ticks = lengths.length * frameTicks config ∧ ticks ≤ maxTicks := by
  cases p with
  | nil => cases h
  | cons toc bytes =>
      simp only [ticks?, frames?, Option.map_eq_some_iff] at h
      obtain ⟨lengths, hlengths, rfl⟩ := h
      split at hlengths
      · cases hlengths
      · next found =>
        split at hlengths
        · next sound =>
          cases hlengths
          exact ⟨_, _, framesOf_ne_nil found, rfl, sound.2⟩
        · cases hlengths

/-- Every packet with a sound framing lasts at least one tick. -/
theorem ticks_pos {p : Packet} {ticks : Nat} (h : p.ticks? = some ticks) : 0 < ticks := by
  obtain ⟨config, lengths, some, rfl, -⟩ := exists_frames h
  exact Nat.mul_pos (List.length_pos_iff.2 some) (frameTicks_pos config)

/-- No packet with a sound framing lasts longer than 120 milliseconds. -/
theorem ticks_le {p : Packet} {ticks : Nat} (h : p.ticks? = some ticks) : ticks ≤ maxTicks := by
  obtain ⟨-, -, -, -, short⟩ := exists_frames h
  exact short

end Packet

/-! ## Formats

What the numbers of a format are, whichever of the supported ones it is. -/

theorem SampleRate.perTick_pos (r : SampleRate) : 0 < r.perTick := by cases r <;> decide

theorem SampleRate.hz_pos (r : SampleRate) : 0 < r.hz := by cases r <;> decide

theorem Channels.count_pos (c : Channels) : 0 < c.count := by cases c <;> decide

/-- A supported format is the one that was asked for. -/
theorem AudioFormat.of?_eq_some {sampleRate : UInt32} {channels : UInt16} {format : AudioFormat}
    (h : AudioFormat.of? sampleRate channels = some format) :
    format.rate.hz = sampleRate.toNat ∧ format.channels.count = channels.toNat := by
  obtain ⟨rate, hrate, h⟩ := Option.bind_eq_some_iff.1 h
  obtain ⟨layout, hlayout, h⟩ := Option.bind_eq_some_iff.1 h
  cases h
  refine ⟨by simpa using List.find?_some hrate, ?_⟩
  unfold Channels.ofCount? at hlayout
  split at hlayout
  · next one =>
    cases hlayout
    exact one.symm
  · next two =>
    cases hlayout
    exact two.symm
  · cases hlayout

namespace Decoder

/-! ## The audio of an accepted packet

An accepted packet is remembered by the decoder, a refused one is not, and the format stays in both
cases. -/

/-- A packet is accepted for its framing, and remembered. -/
theorem decode_eq_ok {d d' : Decoder} {p : Packet} {f : DecodedFrame}
    (h : d.decode p = (.ok f, d')) :
    ∃ ticks, p.ticks? = some ticks ∧ f.samples = ticks * d.format.rate.perTick ∧
      f.pcm = Pcm.toBytes (d.samplesOf p f.samples) ∧ d' = { d with heard := p :: d.heard } := by
  unfold decode at h
  split at h
  · cases h
  · split at h
    · cases h
    · next ticks hticks =>
      dsimp only at h
      split at h
      · cases h
      · cases h
        exact ⟨ticks, hticks, rfl, rfl, rfl⟩

/-- A packet that is refused leaves the decoder as it was. -/
theorem decode_eq_error {d d' : Decoder} {p : Packet} {e : AudioError}
    (h : d.decode p = (.error e, d')) : d' = d := by
  unfold decode at h
  split at h
  · cases h
    rfl
  · split at h
    · cases h
      rfl
    · dsimp only at h
      split at h
      · cases h
        rfl
      · cases h

theorem samples_pos {d d' : Decoder} {p : Packet} {f : DecodedFrame}
    (h : d.decode p = (.ok f, d')) : 0 < f.samples := by
  obtain ⟨ticks, hticks, hsamples, -, -⟩ := decode_eq_ok h
  rw [hsamples]
  exact Nat.mul_pos (Packet.ticks_pos hticks) (SampleRate.perTick_pos _)

theorem length_pcm {d d' : Decoder} {p : Packet} {f : DecodedFrame}
    (h : d.decode p = (.ok f, d')) :
    f.pcm.length = 2 * d.format.channels.count * f.samples := by
  obtain ⟨ticks, -, -, hpcm, -⟩ := decode_eq_ok h
  rw [hpcm, Pcm.length_toBytes, samplesOf, List.length_map, List.length_range]
  ring

/-- The output buffer has room for the longest packet, at every rate. -/
theorem capacity_eq (d : Decoder) : d.capacity = Packet.maxTicks * d.format.rate.perTick := by
  rw [capacity]
  cases d.format.rate <;> rfl

/-- What a packet gives fits into the output buffer. -/
theorem samples_le_capacity {d d' : Decoder} {p : Packet} {f : DecodedFrame}
    (h : d.decode p = (.ok f, d')) : f.samples ≤ d.capacity := by
  obtain ⟨ticks, hticks, hsamples, -, -⟩ := decode_eq_ok h
  rw [hsamples, capacity_eq]
  exact Nat.mul_le_mul_right _ (Packet.ticks_le hticks)

/-- Decoding changes neither the codec nor the format. -/
@[simp]
theorem decode_format (d : Decoder) (p : Packet) : (d.decode p).2.format = d.format := by
  cases h : d.decode p with
  | mk result d' =>
      cases result with
      | ok f =>
          obtain ⟨-, -, -, -, rfl⟩ := decode_eq_ok h
          rfl
      | error e => rw [decode_eq_error h]

end Decoder

end VoiceLink
