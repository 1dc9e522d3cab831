import VoiceLink.Proofs.Audio.Collected
import VoiceLink.Proofs.Audio.Framing
import VoiceLink.Proofs.Audio.Hearing

/-!
# Audio that is encoded and decoded again

An encoder hands its codec frames of one length. Side by side they are the samples and a little
silence, less than a frame of it, to fill up the last (`Encoder.exists_flatten_frames`). What comes
back from a decoder is as many samples as were handed over, so an accumulator at the other end
counts the samples that went in, rounded up to whole frames (`Encoder.encodeAll_passes`).

Nothing is said about the samples that come back, only about how many there are: the codec between
the two ends is any codec. What it gets is known exactly, and what is counted behind it.
-/

namespace VoiceLink

/-! ## Formats -/

/-- The rate and the channels of a format are supported. -/
theorem AudioFormat.supported_of_eq {format : AudioFormat} {sampleRate : UInt32} {channels : UInt16}
    (rate : format.rate.hz = sampleRate.toNat) (count : format.channels.count = channels.toNat) :
    Supported sampleRate channels := by
  rw [Supported, ← rate, ← count]
  constructor
  · cases format.rate <;> decide
  · cases format.channels <;> decide

namespace Encoder

/-- A frame has so many samples per channel as a packet of its duration. -/
theorem frameSize_eq (e : Encoder) : e.frameSize = e.duration.ticks * e.format.rate.perTick := by
  have rate := e.format.rate.perTick_mul
  have duration := e.duration.ticks_mul
  have scaled : e.format.rate.hz * e.duration.milliseconds =
      1000 * (e.duration.ticks * e.format.rate.perTick) := by
    nlinarith
  rw [frameSize, scaled, Nat.mul_div_cancel_left _ (by decide)]

/-! ## Frames side by side

All frames have the full length, so there is room between the samples and the end of the last one
for less than a frame. -/

variable (e : Encoder)

theorem length_filled {piece : List Int16} (h : piece.length ≤ e.frameLength) :
    (e.filled piece).length = e.frameLength := by
  rw [filled, List.length_append, List.length_replicate]
  exact Nat.add_sub_cancel' h

theorem filled_of_full {piece : List Int16} (h : piece.length = e.frameLength) :
    e.filled piece = piece := by
  rw [filled, h, Nat.sub_self, List.replicate_zero, List.append_nil]

theorem length_of_mem_frames {samples frame : List Int16} (h : frame ∈ e.frames samples) :
    frame.length = e.frameLength := by
  obtain ⟨piece, hpiece, rfl⟩ := List.mem_map.1 h
  exact e.length_filled (length_le_of_mem_pieces e.frameLength_pos hpiece)

theorem length_flatten_frames (samples : List Int16) :
    (e.frames samples).flatten.length = (e.frames samples).length * e.frameLength := by
  have each : (e.frames samples).map List.length =
      List.replicate (e.frames samples).length e.frameLength :=
    List.map_eq_replicate_iff.2 fun _ h => e.length_of_mem_frames h
  rw [List.length_flatten, each, List.sum_replicate, smul_eq_mul]

/-- The frames are the samples, and less than a frame of silence. -/
theorem exists_flatten_frames (samples : List Int16) :
    ∃ silence < e.frameLength,
      (e.frames samples).flatten = samples ++ List.replicate silence 0 := by
  have pos := e.frameLength_pos
  rw [frames]
  generalize frame : e.frameLength = n at pos ⊢
  fun_induction pieces n samples with
  | case1 => exact ⟨0, pos, rfl⟩
  | case2 x xs ih =>
      rcases Nat.lt_or_ge xs.length (n - 1) with last | more
      · -- nothing is left for another piece
        have taken : xs.take (n - 1) = xs := List.take_of_length_le last.le
        have left : xs.drop (n - 1) = [] := List.drop_of_length_le last.le
        refine ⟨n - (x :: xs).length, Nat.sub_lt pos (Nat.succ_pos _), ?_⟩
        simp [taken, left, pieces, filled, frame]
      · have full : (x :: xs.take (n - 1)).length = e.frameLength := by
          rw [List.length_cons, List.length_take, frame]
          omega
        obtain ⟨silence, short, rest⟩ := ih
        refine ⟨silence, short, ?_⟩
        rw [List.map_cons, List.flatten_cons, rest, e.filled_of_full full, ← List.append_assoc,
          List.cons_append, List.take_append_drop]

end Encoder

/-! ## The other end

A decoder that is given packets one after the other, with the audio of each put into an
accumulator. -/

def Decoder.collect : Decoder → Accumulator → List Packet → Except AudioError Accumulator
  | _, a, [] => .ok a
  | d, a, p :: packets =>
    match d.decode p with
    | (.error e, _) => .error e
    | (.ok f, d) => d.collect (a.append p.length f.pcm).2 packets

/-- Packets that last all the same time are all collected, and as many samples as belong to it come
from each. -/
theorem Decoder.collect_of_lasting {d : Decoder} {sampleRate : UInt32} {channels : UInt16}
    (supported : channels ≠ 0) (count : d.format.channels.count = channels.toNat)
    {packets : List Packet} {ticks : Nat} (lasts : ∀ p ∈ packets, p.ticks? = some ticks)
    (chunks : List Chunk) :
    ∃ more, d.collect (.holding sampleRate channels chunks) packets =
        .ok (.holding sampleRate channels (chunks ++ more)) ∧
      (more.flatMap (·.pcm)).length =
        2 * channels.toNat * (packets.length * (ticks * d.format.rate.perTick)) := by
  induction packets generalizing d chunks with
  | nil => exact ⟨[], by simp [collect], by simp⟩
  | cons p packets ih =>
      obtain ⟨f, decoded, samples⟩ := d.decode_of_lasting (lasts p List.mem_cons_self)
      obtain ⟨-, -, whole⟩ := decode_measured decoded
      obtain ⟨more, rest, length⟩ := ih (d := (d.decode p).2) (by rwa [decode_format])
        (fun q hq => lasts q (List.mem_cons_of_mem p hq)) (chunks ++ [⟨p.length, f.pcm⟩])
      have step : d.decode p = (.ok f, (d.decode p).2) := Prod.ext decoded rfl
      refine ⟨⟨p.length, f.pcm⟩ :: more, ?_, ?_⟩
      · rw [collect, step]
        dsimp only
        rw [Accumulator.append_holding supported, rest, List.append_assoc, List.singleton_append]
      · rw [List.flatMap_cons, List.length_append, length, whole, samples, count, decode_format,
          List.length_cons]
        ring

namespace Encoder

/-- **Nothing is lost on the way.** An encoder of any kind, whatever it has encoded before, hands
its codec frames of full length: side by side they are the samples and less than a frame of silence.
It gives back what the codec makes of them, one packet for every frame that has begun. A decoder of
the same format takes every packet for as many samples as are in a frame, and an accumulator that is
filled from them counts the samples and the silence. -/
theorem encodeAll_passes {codec : Codec} {sampleRate : UInt32} {channels : UInt16}
    {milliseconds : UInt32} {fresh : Encoder}
    (created : create codec sampleRate channels milliseconds = .ok fresh)
    (sent : List (List Int16)) (samples : List Int16) :
    let e : Encoder := { fresh with sent }
    ∃ frames silence,
      e.encodeAll samples =
        (.ok (e.packetsOf frames), { e with sent := frames.reverse ++ sent }) ∧
      e.frameLength = sampleRate.toNat * milliseconds.toNat / 1000 * channels.toNat ∧
      0 < e.frameLength ∧ (∀ frame ∈ frames, frame.length = e.frameLength) ∧
      frames.flatten = samples ++ List.replicate silence 0 ∧ silence < e.frameLength ∧
      (samples = [] → frames = []) ∧
      (e.packetsOf frames).length = samples.length ⌈/⌉ e.frameLength ∧
      ∀ codec', ∃ d, Decoder.create codec' sampleRate channels = .ok d ∧ ∀ past,
        (∀ p ∈ e.packetsOf frames, ∃ f, ((d.given past).decode p).1 = .ok f ∧
          f.samples = sampleRate.toNat * milliseconds.toNat / 1000) ∧
        ∃ a, (d.given past).collect (.empty sampleRate channels) (e.packetsOf frames) = .ok a ∧
          a.stats.samples * channels.toNat = samples.length + silence ∧
          e.frameLength ∣ samples.length + silence ∧
          (e.frameLength ∣ samples.length → a.stats.samples * channels.toNat = samples.length) := by
  intro e
  obtain ⟨rate, count, duration, -, -⟩ := create_eq_ok created
  obtain ⟨silence, short, flat⟩ := e.exists_flatten_frames samples
  have size : e.frameSize = sampleRate.toNat * milliseconds.toNat / 1000 := by
    rw [← rate, ← duration]
    rfl
  have length : e.frameLength = e.frameSize * channels.toNat := by
    rw [← count]
    rfl
  have total : samples.length + silence = (e.frames samples).length * e.frameLength := by
    rw [← e.length_flatten_frames, flat, List.length_append, List.length_replicate]
  have whole : e.frameLength ∣ samples.length + silence := ⟨_, total.trans (Nat.mul_comm _ _)⟩
  refine ⟨e.frames samples, silence, e.encodeAll_frames samples, by rw [length, size],
    e.frameLength_pos, fun _ h => e.length_of_mem_frames h, flat, short, ?_, ?_, ?_⟩
  · rintro rfl
    simp [frames, pieces]
  · rw [length_packetsOf, length_frames, Nat.ceilDiv_eq_add_pred_div]
  · intro codec'
    obtain ⟨d, heard⟩ := Decoder.create_isOk_iff.2 (AudioFormat.supported_of_eq rate count)
    obtain ⟨rate', count'⟩ := AudioFormat.of?_eq_some (Decoder.create_eq_ok heard).1
    refine ⟨d, heard, fun past => ?_⟩
    have format := d.given_format past
    -- the two formats are only known to have the same numbers
    have perTick : (d.given past).format.rate.perTick = e.format.rate.perTick := by
      have hz : (d.given past).format.rate.hz = e.format.rate.hz := by rw [format, rate', ← rate]
      rw [← SampleRate.perTick_mul, ← SampleRate.perTick_mul] at hz
      omega
    have lasts : ∀ p ∈ e.packetsOf (e.frames samples), p.ticks? = some e.duration.ticks :=
      fun _ h => ticks_of_mem_packetsOf h
    constructor
    · intro p hp
      obtain ⟨f, decoded, samples⟩ := (d.given past).decode_of_lasting (lasts p hp)
      exact ⟨f, decoded, by rw [samples, perTick, ← e.frameSize_eq, size]⟩
    · have pos : 0 < channels.toNat := count' ▸ d.format.channels.count_pos
      have supported : channels ≠ 0 := by
        rintro rfl
        cases pos
      obtain ⟨more, collected, bytes⟩ := (d.given past).collect_of_lasting supported
        (by rw [format, count']) lasts []
      rw [Accumulator.holding_nil, List.nil_append] at collected
      have counted : (more.flatMap (·.pcm)).length / (2 * channels.toNat) * channels.toNat =
          samples.length + silence := by
        rw [bytes, Nat.mul_div_cancel_left _ (by omega), length_packetsOf, perTick,
          ← e.frameSize_eq, total, length, Nat.mul_assoc]
      refine ⟨_, collected, counted, whole, fun even => ?_⟩
      have none : silence = 0 :=
        Nat.eq_zero_of_dvd_of_lt ((Nat.dvd_add_right even).1 whole) short
      exact counted.trans (by rw [none, Nat.add_zero])

/-- Eighty-one samples on each of two channels are two frames of five milliseconds and a bit, and
come back as three. -/
theorem encodeAll_passes_three_frames :
    let samples : List Int16 := List.replicate 162 7
    ∃ e, create .silent 8000 2 5 = .ok e ∧ ∃ frames,
      (e.encodeAll samples).1 = .ok (e.packetsOf frames) ∧
      frames.flatten = samples ++ List.replicate 78 0 ∧ (e.packetsOf frames).length = 3 ∧
      ∃ d a, Decoder.create .silent 8000 2 = .ok d ∧
        d.collect (.empty 8000 2) (e.packetsOf frames) = .ok a ∧ a.stats.samples = 120 := by
  intro samples
  have created : ∃ e, create .silent 8000 2 5 = .ok e := ⟨_, rfl⟩
  obtain ⟨e, created⟩ := created
  obtain ⟨frames, silence, encoded, length, -, -, flat, short, -, count, other⟩ :=
    encodeAll_passes created [] samples
  obtain ⟨d, heard, past⟩ := other .silent
  obtain ⟨-, a, collected, total, whole, -⟩ := past []
  have fresh : { e with sent := [] } = e := by
    cases created
    rfl
  rw [fresh] at encoded length short count collected whole
  have eighty : e.frameLength = 80 := length
  have given : samples.length = 162 := List.length_replicate
  rw [eighty] at short whole count
  rw [given] at total whole count
  have left : silence = 78 := by omega
  subst left
  refine ⟨e, created, frames, congrArg Prod.fst encoded, flat, count, d, a, heard, collected, ?_⟩
  have two : (2 : UInt16).toNat = 2 := rfl
  rw [two] at total
  omega

end Encoder

end VoiceLink
