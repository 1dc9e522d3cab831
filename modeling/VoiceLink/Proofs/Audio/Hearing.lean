import VoiceLink.Proofs.Audio.Decoding
import VoiceLink.Proofs.Audio.Layout

/-!
# What decoders of different formats make of a packet

A decoder is made for a rate and a number of channels, but a packet tells itself whether it can be
decoded and how long it lasts. So decoders of all formats agree on which packets they accept and on
how long these last (`Decoder.decode_agrees`), whatever they were given before; and since the
longest packet fits into the output buffer at every rate, no decoder ever lacks space.

How much of that lies in the packet and how much in the decoder is the point. What is accepted
depends on the framing alone, described in `Packet.Holds`; the format only decides how many samples
make up the same time.
-/

namespace VoiceLink

/-! ## Formats

Formats are asked for by numbers. These are the numbers for which there is one. -/

/-- The rates and channel counts that there are decoders and encoders for. -/
def AudioFormat.Supported (sampleRate : UInt32) (channels : UInt16) : Prop :=
  sampleRate.toNat ∈ [8000, 12000, 16000, 24000, 48000] ∧ channels.toNat ∈ [1, 2]

instance (sampleRate : UInt32) (channels : UInt16) :
    Decidable (AudioFormat.Supported sampleRate channels) := by
  unfold AudioFormat.Supported
  infer_instance

theorem SampleRate.exists_ofHz?_iff {n : Nat} :
    (∃ r, ofHz? n = some r) ↔ n ∈ [8000, 12000, 16000, 24000, 48000] := by
  rw [← Option.isSome_iff_exists, ofHz?, List.find?_isSome]
  simp [hz, eq_comm]

theorem Channels.exists_ofCount?_iff {n : Nat} : (∃ c, ofCount? n = some c) ↔ n ∈ [1, 2] := by
  constructor
  · rintro ⟨c, h⟩
    unfold ofCount? at h
    split at h
    · decide
    · decide
    · cases h
  · intro h
    rcases List.mem_pair.1 h with rfl | rfl
    · exact ⟨mono, rfl⟩
    · exact ⟨stereo, rfl⟩

theorem AudioFormat.exists_of?_iff {sampleRate : UInt32} {channels : UInt16} :
    (∃ format, of? sampleRate channels = some format) ↔ Supported sampleRate channels := by
  rw [Supported, ← SampleRate.exists_ofHz?_iff, ← Channels.exists_ofCount?_iff]
  constructor
  · rintro ⟨format, h⟩
    obtain ⟨rate, hrate, h⟩ := Option.bind_eq_some_iff.1 h
    obtain ⟨layout, hlayout, -⟩ := Option.bind_eq_some_iff.1 h
    exact ⟨⟨rate, hrate⟩, layout, hlayout⟩
  · rintro ⟨⟨rate, hrate⟩, layout, hlayout⟩
    exact ⟨{ rate, channels := layout }, by simp [of?, hrate, hlayout]⟩

namespace Decoder

variable {codec : Codec} {sampleRate : UInt32} {channels : UInt16}

/-- A new decoder has the format that was asked for, and has heard nothing. -/
theorem create_eq_ok {d : Decoder} (h : create codec sampleRate channels = .ok d) :
    AudioFormat.of? sampleRate channels = some d.format ∧ d = ⟨codec, d.format, []⟩ := by
  unfold create at h
  split at h
  · next format found =>
    cases h
    exact ⟨found, rfl⟩
  · cases h

/-- There are decoders for the supported formats, and for no other. -/
theorem create_isOk_iff :
    (∃ d, create codec sampleRate channels = .ok d) ↔
      AudioFormat.Supported sampleRate channels := by
  rw [← AudioFormat.exists_of?_iff]
  constructor
  · rintro ⟨d, h⟩
    exact ⟨d.format, (create_eq_ok h).1⟩
  · rintro ⟨format, found⟩
    exact ⟨⟨codec, format, []⟩, by simp only [create, found]⟩

/-! ## Hearing

What a decoder was given before is part of its state, and of every statement: `given` stands for any
past at all, refused packets included. -/

/-- A decoder that some packets have been given to, whether it accepted them or not. -/
def given (d : Decoder) (packets : List Packet) : Decoder :=
  packets.foldl (fun d p => (d.decode p).2) d

@[simp]
theorem given_format (d : Decoder) (packets : List Packet) :
    (d.given packets).format = d.format := by
  induction packets generalizing d with
  | nil => rfl
  | cons p packets ih => exact (ih _).trans (d.decode_format p)

/-- A decoder accepts the packets that last some time: its buffer has room for them. -/
theorem decode_of_lasting (d : Decoder) {p : Packet} {ticks : Nat} (h : p.ticks? = some ticks) :
    ∃ f, (d.decode p).1 = .ok f ∧ f.samples = ticks * d.format.rate.perTick := by
  have some : p.isEmpty = false := by
    cases p with
    | nil => cases h
    | cons => rfl
  have room : ¬d.capacity < ticks * d.format.rate.perTick := by
    rw [capacity_eq]
    exact Nat.not_lt.2 (Nat.mul_le_mul_right _ (Packet.ticks_le h))
  let samples := ticks * d.format.rate.perTick
  refine ⟨{ pcm := Pcm.toBytes (d.samplesOf p samples), samples }, ?_, rfl⟩
  simp only [decode, some, h, room, Bool.false_eq_true, ↓reduceIte, samples]

/-- It refuses all others for what they are. -/
theorem decode_of_broken (d : Decoder) {p : Packet} (h : p.ticks? = none) :
    (d.decode p).1 = .error (.malformed p.length (if p = [] then .empty else .corrupted)) := by
  cases p with
  | nil => rfl
  | cons toc bytes => simp [decode, h]

/-- What a decoder makes of a packet is whole samples, some and not too many. -/
theorem decode_measured {d : Decoder} {p : Packet} {f : DecodedFrame} (h : (d.decode p).1 = .ok f) :
    0 < f.samples ∧ f.samples ≤ d.format.rate.hz * 120 / 1000 ∧
      f.pcm.length = 2 * d.format.channels.count * f.samples := by
  have decoded : d.decode p = (.ok f, (d.decode p).2) := Prod.ext h rfl
  exact ⟨samples_pos decoded, samples_le_capacity decoded, length_pcm decoded⟩

/-- It lasts as long as the frames of the packet. -/
theorem decode_duration {d : Decoder} {p : Packet} {f : DecodedFrame} (h : (d.decode p).1 = .ok f)
    {config : Nat} {frames : List (List UInt8)} (holds : p.Holds config frames) :
    (f.samples : ℚ) / d.format.rate.hz =
      (frames.length * Packet.frameTicks config : Nat) / 400 := by
  obtain ⟨f', decoded, samples⟩ :=
    d.decode_of_lasting (Packet.ticks?_eq_some_iff.2 ⟨config, frames, holds, rfl⟩)
  cases h.symm.trans decoded
  have rate_ne : (d.format.rate.hz : ℚ) ≠ 0 := by exact_mod_cast d.format.rate.hz_pos.ne'
  rw [samples, div_eq_div_iff rate_ne (by norm_num), ← SampleRate.perTick_mul]
  push_cast
  ring

/-- Decoding succeeds for the packets that hold frames, whatever the format and the past. -/
theorem decode_isOk_iff (d : Decoder) (p : Packet) :
    (d.decode p).1.isOk ↔ ∃ config frames, p.Holds config frames := by
  constructor
  · intro h
    cases lasts : p.ticks? with
    | none =>
        rw [d.decode_of_broken lasts] at h
        cases h
    | some ticks =>
        obtain ⟨config, frames, holds, -⟩ := Packet.ticks?_eq_some_iff.1 lasts
        exact ⟨config, frames, holds⟩
  · rintro ⟨config, frames, holds⟩
    obtain ⟨f, decoded, -⟩ := d.decode_of_lasting
      (Packet.ticks?_eq_some_iff.2 ⟨config, frames, holds, rfl⟩)
    rw [decoded]
    rfl

/-- **All formats hear the same.** A decoder of a supported format, whatever it was given before,
accepts the packets that hold frames and no others, so not the empty one. What it accepts lasts as
long as the frames, in every format, and is whole samples of the format, at least one and no more
than there is room for; what it refuses it refuses for its framing. -/
theorem decode_agrees {codec₁ codec₂ : Codec} {rate₁ rate₂ : UInt32} {channels₁ channels₂ : UInt16}
    (supported₁ : AudioFormat.Supported rate₁ channels₁)
    (supported₂ : AudioFormat.Supported rate₂ channels₂) :
    ∃ d₁ d₂, create codec₁ rate₁ channels₁ = .ok d₁ ∧ create codec₂ rate₂ channels₂ = .ok d₂ ∧
      ∀ past₁ past₂ p,
        let heard₁ := ((d₁.given past₁).decode p).1
        let heard₂ := ((d₂.given past₂).decode p).1
        (heard₁.isOk ↔ heard₂.isOk) ∧
        (heard₁.isOk ↔ ∃ config frames, p.Holds config frames) ∧ (p = [] → ¬heard₁.isOk) ∧
        (∀ e, heard₁ = .error e →
          e = .malformed p.length (if p = [] then .empty else .corrupted)) ∧
        ∀ f₁, heard₁ = .ok f₁ →
          0 < f₁.samples ∧ f₁.samples ≤ rate₁.toNat * 120 / 1000 ∧
          f₁.pcm.length = 2 * channels₁.toNat * f₁.samples ∧
          (∀ config frames, p.Holds config frames → (f₁.samples : ℚ) / rate₁.toNat =
            (frames.length * Packet.frameTicks config : Nat) / 400) ∧
          ∀ f₂, heard₂ = .ok f₂ →
            (f₁.samples : ℚ) / rate₁.toNat = f₂.samples / rate₂.toNat := by
  obtain ⟨d₁, created₁⟩ := create_isOk_iff.2 supported₁
  obtain ⟨d₂, created₂⟩ := create_isOk_iff.2 supported₂
  obtain ⟨hz₁, count₁⟩ := AudioFormat.of?_eq_some (create_eq_ok created₁).1
  obtain ⟨hz₂, count₂⟩ := AudioFormat.of?_eq_some (create_eq_ok created₂).1
  refine ⟨d₁, d₂, created₁, created₂, fun past₁ past₂ p => ?_⟩
  intro heard₁ heard₂
  refine ⟨by rw [decode_isOk_iff, decode_isOk_iff], decode_isOk_iff _ _, ?_, ?_, ?_⟩
  · rintro rfl
    rw [decode_isOk_iff]
    rintro ⟨config, frames, ⟨⟨toc, bytes, none, -⟩, -⟩⟩
    cases none
  · intro e refused
    cases lasts : p.ticks? with
    | none => exact Except.error.inj (refused.symm.trans (decode_of_broken _ lasts))
    | some ticks =>
        obtain ⟨f, decoded, -⟩ := (d₁.given past₁).decode_of_lasting lasts
        cases refused.symm.trans decoded
  · intro f₁ decoded₁
    obtain ⟨pos, room, whole⟩ := decode_measured decoded₁
    have duration {config frames} (holds : p.Holds config frames) := decode_duration decoded₁ holds
    rw [given_format, hz₁] at room duration
    rw [given_format, count₁] at whole
    refine ⟨pos, room, whole, fun _ _ holds => duration holds, fun f₂ decoded₂ => ?_⟩
    -- the frames are those of the packet, whichever decoder has accepted it
    obtain ⟨config, frames, holds⟩ := (decode_isOk_iff _ p).1 (congrArg Except.isOk decoded₁)
    rw [duration holds, ← decode_duration decoded₂ holds, given_format, hz₂]

/-- Two frames of 2.5 milliseconds that tell their lengths, with two bytes of padding behind
them. -/
theorem decode_agrees_padded :
    let p : Packet := [0xe3, 0xc2, 2, 1, 7, 8, 9, 0, 0]
    ∃ d₁ d₂, create .silent 8000 1 = .ok d₁ ∧ create .silent 48000 2 = .ok d₂ ∧
      (∃ config frames, p.Holds config frames) ∧
      ∃ f₁ f₂, ((d₁.given [[], p]).decode p).1 = .ok f₁ ∧
        ((d₂.given [[0xff]]).decode p).1 = .ok f₂ ∧ f₁.samples = 40 ∧
        (f₁.samples : ℚ) / 8000 = f₂.samples / 48000 := by
  intro p
  obtain ⟨d₁, d₂, created₁, created₂, agree⟩ :=
    @decode_agrees .silent .silent 8000 48000 1 2 (by decide) (by decide)
  obtain ⟨-, holds, -, -, measured⟩ := agree [[], p] [[0xff]] p
  cases created₁
  cases created₂
  have lasts : p.ticks? = some 2 := by decide
  obtain ⟨f₁, decoded₁, forty⟩ :=
    (given ⟨.silent, ⟨.hz8000, .mono⟩, []⟩ [[], p]).decode_of_lasting lasts
  obtain ⟨f₂, decoded₂, -⟩ :=
    (given ⟨.silent, ⟨.hz48000, .stereo⟩, []⟩ [[0xff]]).decode_of_lasting lasts
  obtain ⟨-, -, -, -, alike⟩ := measured f₁ decoded₁
  refine ⟨_, _, rfl, rfl, holds.1 ?_, f₁, f₂, decoded₁, decoded₂, forty, ?_⟩
  · exact congrArg Except.isOk decoded₁
  · exact_mod_cast alike f₂ decoded₂

end Decoder

end VoiceLink
