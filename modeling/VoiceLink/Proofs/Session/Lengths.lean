import VoiceLink.Proofs.Audio.Hearing
import VoiceLink.Proofs.Audio.Truncation
import VoiceLink.Proofs.Session.Alignment
import VoiceLink.Proofs.Session.Files
import VoiceLink.Proofs.Storage.Device

/-!
# Turns that are longer than a file can say

Nothing bounds a turn, but a WAV file counts its bytes in words of 32 bits. Audio that these cannot
count is written like any other: on a device that does not fail it is refused only where no audio at
all would be refused, and the lengths in the file are what is left of the true ones
(`Wave.Wrapped`). Whoever opens the file finds that much of the audio and no more.
`Loop.run_lengths_wrap` says so of every write and of every container a session reports.

How this comes about is a matter of where lengths are checked. The writer checks that audio ends
with a sample and nothing more; the header takes what a word holds; and a reader only looks at as
many bytes as the header counts.
-/

namespace VoiceLink

/-! ## Formats

All supported formats fit a header, and a word is full at the end of a sample in all of them. -/

namespace AudioFormat.Supported

variable {sampleRate : UInt32} {channels : UInt16}

/-- The header has room for every supported format. -/
theorem fits (supported : Supported sampleRate channels) :
    Wave.Fits sampleRate.toNat channels.toNat := by
  obtain ⟨rate, count⟩ := supported
  simp only [List.mem_cons, List.not_mem_nil, or_false] at rate count
  have block : UInt16.size = 65536 := rfl
  have speed : UInt32.size = 4294967296 := rfl
  constructor
  · omega
  · omega
  · omega
  · rcases count with one | two
    · rw [one]
      omega
    · rw [two]
      omega

/-- Where a word is full, a sample of each channel has ended. -/
theorem dvd_size (supported : Supported sampleRate channels) :
    2 * channels.toNat ∣ UInt32.size := by
  obtain ⟨format, found⟩ := exists_of?_iff.2 supported
  rw [← (of?_eq_some found).2]
  exact format.channels.dvd_size

end AudioFormat.Supported

/-! ## Writing

Whether audio is written and what is written are two questions. A steady device answers the first
without looking at the audio. -/

namespace Disk

variable {d d' : Disk} {path : String} {pcm : List UInt8} {sampleRate : UInt32} {channels : UInt16}

/-- On a device that does not fail, the length of the audio is no reason to refuse it. -/
theorem writeWave_of_steady (supported : AudioFormat.Supported sampleRate channels)
    (whole : 2 * channels.toNat ∣ pcm.length) (steady : d.Steady) (path : String) :
    (d.writeWave path pcm sampleRate channels).1 =
      (d.writeWave path [] sampleRate channels).1 := by
  have rate := supported.fits.rate_ne_zero
  have positive := Nat.pos_of_ne_zero supported.fits.channels_ne_zero
  rw [writeWave_of_whole rate positive supported.dvd_size whole,
    writeWave_of_whole rate positive supported.dvd_size (Nat.dvd_zero _), save_of_steady steady]

/-- Of written audio, as many bytes can be read again as the words in the header count. -/
theorem writeWave_wrapped (supported : AudioFormat.Supported sampleRate channels)
    (written : d.writeWave path pcm sampleRate channels = (.ok (), d')) :
    (∃ bytes, d'.read path = .ok bytes ∧ Wave.Wrapped bytes pcm channels.toNat) ∧
      ∃ r, Recording.load d' path = .ok r ∧
        r.IsOf (pcm.take (pcm.length % UInt32.size)) sampleRate.toNat channels.toNat := by
  obtain ⟨⟨-, some, whole⟩, read⟩ := writeWave_eq_ok written
  have counted : 2 * channels.toNat ∣ pcm.length % UInt32.size :=
    (Nat.dvd_mod_iff supported.dvd_size).2 whole
  have enough : pcm.length % UInt32.size ≤ pcm.length := Nat.mod_le _ _
  have even : (pcm.take (pcm.length % UInt32.size)).length % 2 = 0 := by
    rw [List.length_take, Nat.min_eq_left enough]
    exact Nat.mod_eq_zero_of_dvd ((Nat.dvd_mul_right 2 _).trans counted)
  refine ⟨⟨_, read, Wave.wrapped_header _ _ pcm⟩, _, ?_,
    Recording.isOf_ofBytes path even sampleRate.toNat (Nat.one_le_iff_ne_zero.2 some)⟩
  simp only [Recording.load, read]
  exact Recording.ofBytes_counted path supported.fits counted enough

theorem counted_two_past {n : Nat} (h : n = UInt32.size + 2) : n % UInt32.size = 2 := by
  rw [h, Nat.add_mod_left]
  exact Nat.mod_eq_of_lt (by decide)

/-- Audio of two bytes more than a word can count is written, and its file says that there are
two. -/
theorem writeWave_two_past {d : Disk} {pcm : List UInt8} {path : String} (steady : d.Steady)
    (possible : (d.writeWave path [] 8000 1).1 = .ok ()) (length : pcm.length = UInt32.size + 2) :
    ∃ d' bytes r, d.writeWave path pcm 8000 1 = (.ok (), d') ∧ d'.read path = .ok bytes ∧
      Wave.ofWord ((bytes.drop 40).take 4) = 2 ∧ Recording.load d' path = .ok r ∧
        r.samples.length = 1 := by
  have supported : AudioFormat.Supported 8000 1 := by decide
  have counted := counted_two_past length
  have whole : 2 * (1 : UInt16).toNat ∣ pcm.length := by
    rw [length]
    exact (Nat.dvd_add_right supported.dvd_size).2 (Nat.dvd_refl 2)
  have done : (d.writeWave path pcm 8000 1).1 = .ok () := by
    rw [writeWave_of_steady supported whole steady]
    exact possible
  obtain ⟨⟨bytes, read, wrapped⟩, r, loaded, isOf⟩ :=
    writeWave_wrapped supported (Prod.ext done rfl)
  refine ⟨_, bytes, r, Prod.ext done rfl, read, ?_, loaded, ?_⟩
  · rw [← counted]
    exact wrapped.data
  · rw [isOf.length, List.length_take, counted, length]
    rw [Nat.min_eq_left (Nat.le_add_left 2 _)]

end Disk

/-! ## Containers

The containers of a session are such files, and the report has the true length. -/

namespace Loop

/-- **Lengths wrap.** In every supported format, audio of whole samples is refused by nothing but
the disk, however long it is: a steady device takes it if it takes no audio at all. What is written
has the length of the audio in its header as far as a word of 32 bits holds that, and opening it
gives only so much of the beginning. The same goes for every container a session reports: the length
in the file is what a word holds of the length in the report. -/
theorem run_lengths_wrap {c : SessionConfig}
    (supported : AudioFormat.Supported c.outputSampleRate c.outputChannels) :
    (∀ (d : Disk) (path : String) (pcm : List UInt8), 2 * c.outputChannels.toNat ∣ pcm.length →
        (∀ e, (d.writeWave path pcm c.outputSampleRate c.outputChannels).1 = .error e →
          e.isDisk = true) ∧
        (d.Steady → (d.writeWave path pcm c.outputSampleRate c.outputChannels).1 =
          (d.writeWave path [] c.outputSampleRate c.outputChannels).1) ∧
        ∀ d', d.writeWave path pcm c.outputSampleRate c.outputChannels = (.ok (), d') →
          (∃ bytes, d'.read path = .ok bytes ∧
            Wave.Wrapped bytes pcm c.outputChannels.toNat) ∧
          ∃ r, Recording.load d' path = .ok r ∧
            r.IsOf (pcm.take (pcm.length % UInt32.size)) c.outputSampleRate.toNat
              c.outputChannels.toNat) ∧
      ∀ codec state made, ∃ r, Router.create codec c state made = .ok r ∧
        ∀ d next time mark steps,
          let w := (Watched.start (r.transition next) d time mark).run steps
          ∀ m ∈ w.loop.router.report.containers, ∃ bytes pcm,
            w.disk.read m.filePath = .ok bytes ∧ m.dataBytes = pcm.length ∧
              Wave.Wrapped bytes pcm c.outputChannels.toNat := by
  have positive := Nat.pos_of_ne_zero supported.fits.channels_ne_zero
  constructor
  · intro d path pcm whole
    refine ⟨?_, ?_, ?_⟩
    · intro e refused
      exact Disk.isDisk_of_writeWave supported.fits.rate_ne_zero positive supported.dvd_size whole
        refused
    · intro steady
      exact Disk.writeWave_of_steady supported whole steady path
    · intro d' written
      exact Disk.writeWave_wrapped supported written
  · intro codec state made
    obtain ⟨decoder, decodes⟩ := Decoder.create_isOk_iff.2 supported
    have created : ∃ r, Router.create codec c state made = .ok r := by
      rw [Router.create, decodes]
      exact ⟨_, rfl⟩
    obtain ⟨r, created⟩ := created
    refine ⟨r, created, ?_⟩
    intro d next time mark steps w m hm
    have follows := (Watched.create_follows created d next time mark).run
      (Router.create_supported created).1 steps
    -- a container of the report is one that was filed, with the turn that went into it
    obtain ⟨k, f, hf, kept, filed⟩ := follows.exists_filing hm
    obtain ⟨-, -, read⟩ := filed.container m kept
    obtain ⟨_, -, metadata⟩ :=
      SessionConfig.metadata_of_mem_fileAll (List.mem_of_getElem? hf) kept
    refine ⟨_, f.turn.pcm, read, ?_, Wave.wrapped_header _ _ _⟩
    rw [metadata, ← c.pcm_accumulated f.turn]
    rfl

/-- A turn of one packet is far from wrapping: the length in its file is the one in the report. Two
bytes more than a word can count are taken as well, and these two are all there is to read. -/
theorem run_lengths_wrap_short_and_long :
    AudioFormat.Supported 8000 1 ∧
      (∃ r bytes, Router.create .silent { outputSampleRate := 8000 } .active 0 = .ok r ∧
        ((Watched.start (r.transition .active) { tree := .empty, cwd := [] } 0 {}).run
          [.deliver (.binary [0xe0]), .poll,
            .deliver (.text "\x7b\"type\":\"tts\",\"state\":\"stop\"\x7d"), .poll]).disk.read
              "recordings/test-device-001-turn-000.wav" = .ok bytes ∧
        Wave.ofWord ((bytes.drop 40).take 4) = 40) ∧
      let d : Disk := { tree := .empty, cwd := [] }
      let pcm : List UInt8 := List.replicate (UInt32.size + 2) 0
      d.Steady ∧ pcm.length = UInt32.size + 2 ∧
        ∃ d' bytes r, d.writeWave "long.wav" pcm 8000 1 = (.ok (), d') ∧
          d'.read "long.wav" = .ok bytes ∧ Wave.ofWord ((bytes.drop 40).take 4) = 2 ∧
          Recording.load d' "long.wav" = .ok r ∧ r.samples.length = 1 := by
  have supported : AudioFormat.Supported 8000 1 := by decide
  let c : SessionConfig := { outputSampleRate := 8000 }
  obtain ⟨writes, run⟩ := run_lengths_wrap (show AudioFormat.Supported c.outputSampleRate
    c.outputChannels from supported)
  refine ⟨supported, ?_, ?_⟩
  · obtain ⟨r, created, wrapped⟩ := run .silent .active 0
    have reported := wrapped { tree := .empty, cwd := [] } .active 0 {}
      [.deliver (.binary [0xe0]), .poll,
        .deliver (.text "\x7b\"type\":\"tts\",\"state\":\"stop\"\x7d"), .poll]
    refine ⟨r, ?_⟩
    cases created
    obtain ⟨bytes, pcm, read, length, counts⟩ := reported
      ⟨0, "recordings/test-device-001-turn-000.wav", 8000, 1, 20, 40, 1⟩ (by decide +kernel)
    have data : Wave.ofWord ((bytes.drop 40).take 4) = pcm.length % UInt32.size := counts.data
    refine ⟨bytes, rfl, read, ?_⟩
    rw [data, ← length]
    rfl
  · intro d pcm
    have length : pcm.length = UInt32.size + 2 := List.length_replicate
    -- only the length matters from here on, and nothing may be computed from the bytes
    clear_value pcm
    have counted := Disk.counted_two_past length
    have whole : 2 * c.outputChannels.toNat ∣ pcm.length :=
      length ▸ (Nat.dvd_add_right supported.dvd_size).2 (Nat.dvd_refl 2)
    obtain ⟨-, alike, wrapped⟩ := writes d "long.wav" pcm whole
    have possible : (d.writeWave "long.wav" [] 8000 1).1 = .ok () := by decide +kernel
    have done := (alike fun _ => rfl).trans possible
    obtain ⟨⟨bytes, read, counts⟩, r, loaded, isOf⟩ := wrapped _ (Prod.ext done rfl)
    refine ⟨fun _ => rfl, length, _, bytes, r, Prod.ext done rfl, read, ?_, loaded, ?_⟩
    · rw [← counted]
      exact counts.data
    · rw [isOf.length, List.length_take, counted, length]
      rw [Nat.min_eq_left (Nat.le_add_left 2 _)]

end Loop

/-- A little more than four gigabytes cannot be counted in a file, and are written without an error
all the same. -/
theorem Disk.writeWave_past_four_gigabytes :
    let d : Disk := { tree := .empty, cwd := [] }
    let pcm : List UInt8 := List.replicate (UInt32.size + 2) 0
    AudioFormat.Supported 8000 1 ∧ 2 ∣ pcm.length ∧ UInt32.size ≤ pcm.length + 36 ∧
      ∃ d' bytes r, d.writeWave "big.wav" pcm 8000 1 = (.ok (), d') ∧
        d'.read "big.wav" = .ok bytes ∧ Wave.ofWord ((bytes.drop 40).take 4) = 2 ∧
        Recording.load d' "big.wav" = .ok r ∧ r.samples.length = 1 := by
  intro d pcm
  have length : pcm.length = UInt32.size + 2 := List.length_replicate
  have possible : (d.writeWave "big.wav" [] 8000 1).1 = .ok () := by decide +kernel
  refine ⟨by decide, ?_, ?_, writeWave_two_past (fun _ => rfl) possible length⟩
  · rw [length]
    decide
  · rw [length]
    omega

end VoiceLink
