import VoiceLink.Proofs.Session.Contents
import VoiceLink.Proofs.Session.Runs
import VoiceLink.Proofs.Turn.Containers

/-!
# Whole samples all the way

A WAV file is only written of whole samples, and the accumulator divides by the size of one, but
neither of the two looks at where its bytes come from. It is the decoder that makes them: it exists
only for one channel or two, its buffer has room for the longest packet, and a packet gives as many
bytes as it has samples. `Router.Aligned` says what this comes to for the parts of a router, and
`Loop.run_aligned` that every router keeps it up, so that only the disk can keep a turn from being
written.

Lengths that a word cannot hold are no exception. They are cut off, but between two samples, so that
the file is written as well.
-/

namespace VoiceLink

/-! ## Writing whole samples

The errors of a write are sorted: those that come from the audio, and those that come from the
disk. -/

/-- Lengths are kept in words of 32 bits, and these are cut off between two samples. -/
theorem Channels.dvd_size (c : Channels) : 2 * c.count ∣ UInt32.size := by cases c <;> decide

def ContainerError.isDisk : ContainerError → Bool
  | .io _ => true
  | .persist _ => true
  | .misaligned _ _ => false
  | .encode _ => false
  | .zeroRate => false

/-- Whole samples of a rate can be put into a file, as long as a word holds whole samples. -/
theorem Wave.encode_of_whole {pcm : List UInt8} {sampleRate channels : Nat}
    (rate : sampleRate ≠ 0) (word : 2 * channels ∣ UInt32.size)
    (whole : 2 * channels ∣ pcm.length) :
    encode pcm sampleRate channels = .ok (header sampleRate channels pcm.length ++ pcm) := by
  obtain ⟨k, hk⟩ := (Nat.dvd_mod_iff word).2 whole
  have finished : pcm.length % UInt32.size / 2 % channels = 0 := by
    rw [hk, Nat.mul_assoc, Nat.mul_div_cancel_left _ (by decide), Nat.mul_mod_right]
  rw [encode, if_neg rate, if_neg (by simpa using finished)]

/-- To write whole samples is to save a header and them. -/
theorem Disk.writeWave_of_whole {pcm : List UInt8} {sampleRate : UInt32} {channels : UInt16}
    (rate : sampleRate.toNat ≠ 0) (positive : 0 < channels.toNat)
    (word : 2 * channels.toNat ∣ UInt32.size) (whole : 2 * channels.toNat ∣ pcm.length) (d : Disk)
    (path : String) :
    (d.writeWave path pcm sampleRate channels).1 =
      (d.save path (.ok (Wave.header sampleRate.toNat channels.toNat pcm.length ++ pcm))
        true).1.mapError .ofSave := by
  have block : channels.toNat * (Wave.bitsPerSample / 8) = 2 * channels.toNat := Nat.mul_comm _ _
  have aligned : ¬(2 * channels.toNat = 0 ∨ pcm.length % (2 * channels.toNat) ≠ 0) := by
    rw [not_or, not_not]
    exact ⟨by omega, Nat.mod_eq_zero_of_dvd whole⟩
  simp only [writeWave, block, if_neg aligned, Wave.encode_of_whole rate word whole]
  generalize d.save path _ true = outcome
  obtain ⟨result, d'⟩ := outcome
  cases result <;> rfl

/-- What keeps whole samples from being written is the disk. -/
theorem Disk.isDisk_of_writeWave {d : Disk} {path : String} {pcm : List UInt8} {sampleRate : UInt32}
    {channels : UInt16} {e : ContainerError} (rate : sampleRate.toNat ≠ 0)
    (positive : 0 < channels.toNat) (word : 2 * channels.toNat ∣ UInt32.size)
    (whole : 2 * channels.toNat ∣ pcm.length)
    (h : (d.writeWave path pcm sampleRate channels).1 = .error e) : e.isDisk = true := by
  rw [writeWave_of_whole rate positive word whole] at h
  cases saved : (d.save path (.ok (Wave.header sampleRate.toNat channels.toNat pcm.length ++ pcm))
      true : Except (SaveError Wave.EncodeFault) Unit × Disk).1 with
  | ok u =>
      rw [saved] at h
      cases h
  | error e' =>
      rw [saved] at h
      cases h
      rcases d.save_of_content path _ true saved with ⟨o, rfl⟩ | ⟨o, rfl⟩
      · rfl
      · rfl

theorem ContainerWriter.isDisk_of_write {w : ContainerWriter} {d : Disk} {s : PcmSnapshot}
    {e : ContainerError} (rate : s.sampleRate.toNat ≠ 0) (positive : 0 < s.channels.toNat)
    (word : 2 * s.channels.toNat ∣ UInt32.size) (whole : 2 * s.channels.toNat ∣ s.pcm.length)
    (h : (w.write d s).1 = .error e) : e.isDisk = true := by
  cases written : d.writeWave w.nextPath s.pcm s.sampleRate s.channels with
  | mk result d' =>
      simp only [write, written] at h
      cases result with
      | ok u => cases h
      | error e' =>
          cases h
          exact Disk.isDisk_of_writeWave rate positive word whole (congrArg Prod.fst written)

/-! ## The parts of a router

Each of the parts is right for its own reasons, and what they have in common is the format. The
decoder keeps it, the accumulator was made with it, and the writer is told it with every turn. -/

/-- The parts of a router agree on what a sample is, and none of them fails for want of it. -/
structure Router.Aligned (c : SessionConfig) (r : Router) : Prop where
  /-- The accumulator holds whole samples, and its figures are those of what it holds. -/
  accumulator : r.accumulator.Aligned
  channels_eq : r.accumulator.channels = c.outputChannels
  /-- What a packet decodes to is in the output buffer, and its bytes are whole samples. -/
  decode : ∀ p f decoder, r.decoder.decode p = (.ok f, decoder) →
    f.samples * c.outputChannels.toNat ≤ r.decoder.capacity * c.outputChannels.toNat ∧
      f.pcm.length = 2 * c.outputChannels.toNat * f.samples
  /-- Nothing that is appended fails to be counted. -/
  append : ∀ inputBytes pcm, (r.accumulator.append inputBytes pcm).1.isOk = true
  /-- Only the disk keeps the collected turn from being written. -/
  write : ∀ d e, (r.writer.write d r.accumulator.snapshot).1 = .error e → e.isDisk = true

namespace SessionConfig

variable {c : SessionConfig} {t : Turn}

/-- An accumulator that holds a measured turn holds whole samples. -/
theorem accumulated_aligned (supported : c.outputChannels ≠ 0)
    (measured : t.Measured c.outputChannels.toNat) : (c.accumulated t).Aligned := by
  refine Accumulator.aligned_holding (channels_pos supported) ?_
  intro chunk hchunk
  obtain ⟨piece, hpiece, rfl⟩ := List.mem_map.1 hchunk
  rw [show _ = _ from (measured piece hpiece).2]
  exact Nat.dvd_mul_right _ _

end SessionConfig

namespace Router

variable {c : SessionConfig} {r : Router}

/-- A router that decodes in its format and has collected a measured turn. -/
theorem aligned_of_turn {t : Turn}
    (format : AudioFormat.of? c.outputSampleRate c.outputChannels = some r.decoder.format)
    (collected : r.accumulator = c.accumulated t) (measured : t.Measured c.outputChannels.toNat) :
    r.Aligned c := by
  obtain ⟨rate, channels⟩ := AudioFormat.of?_eq_some format
  -- no format has no channels
  have positive : 0 < c.outputChannels.toNat := channels ▸ r.decoder.format.channels.count_pos
  have supported : c.outputChannels ≠ 0 := by
    intro zero
    rw [zero] at positive
    cases positive
  have aligned : (c.accumulated t).Aligned := SessionConfig.accumulated_aligned supported measured
  refine ⟨?_, ?_, ?_, ?_, ?_⟩
  · rw [collected]
    exact aligned
  · rw [collected]
    rfl
  · intro p f decoder decoded
    refine ⟨Nat.mul_le_mul_right _ (Decoder.samples_le_capacity decoded), ?_⟩
    rw [← channels]
    exact Decoder.length_pcm decoded
  · rw [collected]
    exact Accumulator.append_isOk positive
  · intro d e refused
    rw [collected] at refused
    refine ContainerWriter.isDisk_of_write ?_ positive ?_ aligned.dvd_length refused
    · show c.outputSampleRate.toNat ≠ 0
      rw [← rate]
      exact Nat.ne_of_gt r.decoder.format.rate.hz_pos
    · show 2 * c.outputChannels.toNat ∣ UInt32.size
      rw [← channels]
      exact r.decoder.format.channels.dvd_size

end Router

@[simp]
theorem Decoder.after_format (d : Decoder) (frames : List InboundFrame) :
    (d.after frames).format = d.format := by
  induction frames using List.reverseRecOn with
  | nil => rfl
  | append_singleton frames f ih => rw [after_concat, hear_format, ih]

namespace Loop

variable {codec : Codec} {c : SessionConfig} {state : SessionState} {made : Instant} {r : Router}

/-- **Nothing is out of line.** Whatever frames a new router is handed, and whatever happens to its
loop until it has ended and after: the accumulator holds whole samples of the configured channels
and counts them right, the next packet will be decoded within the output buffer, what comes of it
can be counted, and the collected turn can be put into a file, whatever the disk is. -/
theorem run_aligned (created : Router.create codec c state made = .ok r) (d : Disk) :
    (∀ frames, (r.handleAll d frames).1.Aligned c) ∧
      ∀ next time mark steps,
        ((Watched.start (r.transition next) d time mark).run steps).loop.router.Aligned c := by
  obtain ⟨supported, -⟩ := Router.create_supported created
  have format := Router.create_format created
  constructor
  · intro frames
    have follows := Router.handleAll_follows supported (Router.create_follows created d) frames
    have decoder : (r.handleAll d frames).1.decoder = _ := follows.decoder_eq
    refine Router.aligned_of_turn ?_ follows.accumulator_eq (Router.create_measured created _).turn
    rw [decoder, Decoder.after_format]
    exact format
  · intro next time mark steps
    have started := Watched.create_follows created d next time mark
    obtain ⟨a, follows, part⟩ := started.run supported steps
    generalize (Watched.start (r.transition next) d time mark).run steps = w at follows part ⊢
    have measured := Router.create_measured created w.handled
    have heard : a.decoder.format = r.decoder.format := by
      rw [follows.decoder_eq, Decoder.after_format]
    split at part
    · -- the loop has ended: the accumulator is empty, and so is the turn it holds
      have decoder : w.loop.router.decoder = a.decoder := congrArg Router.AudioPart.decoder part
      have dropped : w.loop.router.accumulator = c.accumulated ⟨[], []⟩ :=
        (congrArg Router.AudioPart.accumulator part).trans
          ((congrArg Accumulator.reset follows.accumulator_eq).trans (Accumulator.reset_holding _))
      refine Router.aligned_of_turn ?_ dropped nofun
      rw [decoder, heard]
      exact format
    · have decoder : w.loop.router.decoder = a.decoder := congrArg Router.AudioPart.decoder part
      have collected : w.loop.router.accumulator = c.accumulated _ :=
        (congrArg Router.AudioPart.accumulator part).trans follows.accumulator_eq
      refine Router.aligned_of_turn ?_ collected measured.turn
      rw [decoder, heard]
      exact format

/-- Two channels: a packet of 2.5 milliseconds is collected, and the empty one after it is not. -/
theorem run_aligned_two_channels :
    let c : SessionConfig := { outputSampleRate := 8000, outputChannels := 2 }
    ∃ r, Router.create .silent c .active 0 = .ok r ∧
      let w := (Watched.start r { tree := .empty, cwd := [] } 0 {}).run
        [.deliver (.binary [0xe0]), .deliver (.binary []), .poll, .poll]
      w.loop.router.Aligned c ∧ w.loop.router.accumulator.buffer = List.replicate 80 0 ∧
        w.loop.router.accumulator.stats = ⟨1, 1, 80, 20⟩ := by
  intro c
  have created : ∃ r, Router.create .silent c .active 0 = .ok r := ⟨_, rfl⟩
  obtain ⟨r, created⟩ := created
  obtain ⟨-, run⟩ := run_aligned created { tree := .empty, cwd := [] }
  have aligned := run .active 0 {} [.deliver (.binary [0xe0]), .deliver (.binary []), .poll, .poll]
  refine ⟨r, created, ?_⟩
  cases created
  exact ⟨aligned, by decide +kernel, by decide +kernel⟩

end Loop

end VoiceLink
