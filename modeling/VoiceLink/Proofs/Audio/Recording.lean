import VoiceLink.Audio.Recording
import VoiceLink.Proofs.Turn.Containers
import VoiceLink.Proofs.Wave.RoundTrip

/-!
# Recordings of what was written

A file of samples that was written is a header and these samples, and opening it gives them back
(`Recording.load_written`). Between the two stands the disk: the file that is read is the one that
was saved.

The lengths in a header are words of 32 bits. `Wrapped` is what the header says of any samples, with
the lengths as far as words hold them, and `IsFileOf` is the case in which they fit. Only in that
case do the samples come back.
-/

namespace VoiceLink

namespace Wave

/-! ## Headers -/

/-- A file is a header followed by the samples, and the lengths in the header are those of the
samples and of the file. -/
structure IsFileOf (bytes pcm : List UInt8) (channels : Nat) : Prop where
  layout : ∃ head, head.length = (if channels ≤ 2 then 44 else 68) ∧ bytes = head ++ pcm
  mark : (bytes.drop (headerLength channels - 8)).take 4 = tag "data"
  data : ofWord ((bytes.drop (headerLength channels - 4)).take 4) = pcm.length
  total : ofWord ((bytes.drop 4).take 4) = bytes.length - 8

/-- A file is a header followed by the samples, and the lengths in the header are those of the
samples and of the file as far as words hold them. -/
structure Wrapped (bytes pcm : List UInt8) (channels : Nat) : Prop where
  layout : ∃ head, head.length = (if channels ≤ 2 then 44 else 68) ∧ bytes = head ++ pcm
  mark : (bytes.drop (headerLength channels - 8)).take 4 = tag "data"
  data : ofWord ((bytes.drop (headerLength channels - 4)).take 4) = pcm.length % UInt32.size
  total : ofWord ((bytes.drop 4).take 4) = (bytes.length - 8) % UInt32.size

theorem wrapped_header (sampleRate channels : Nat) (pcm : List UInt8) :
    Wrapped (header sampleRate channels pcm.length ++ pcm) pcm channels := by
  have mark : (tag "data").length = 4 := rfl
  refine ⟨⟨_, length_header _ _ _, rfl⟩, ?_, ?_, ?_⟩
  · rw [header_data, List.take_left' mark]
  · have behind : headerLength channels - 4 = headerLength channels - 8 + 4 := by
      unfold headerLength
      split <;> rfl
    rw [behind, ← List.drop_drop, header_data, List.drop_left' mark,
      List.take_left' (length_word _ _)]
    exact ofWord_word_mod 4 _
  · rw [header_total, List.length_append, length_header]

theorem isFileOf_header {pcm : List UInt8} {sampleRate channels : Nat}
    (short : pcm.length + headerLength channels < UInt32.size) :
    IsFileOf (header sampleRate channels pcm.length ++ pcm) pcm channels := by
  have wrapped := wrapped_header sampleRate channels pcm
  refine ⟨wrapped.layout, wrapped.mark, ?_, ?_⟩
  · rw [wrapped.data, Nat.mod_eq_of_lt (by omega)]
  · rw [wrapped.total, List.length_append, length_header, Nat.mod_eq_of_lt (by omega)]

/-- Only files with a rate are written. -/
theorem rate_ne_zero_of_encode {pcm bytes : List UInt8} {sampleRate channels : Nat}
    (h : encode pcm sampleRate channels = .ok bytes) : sampleRate ≠ 0 := by
  unfold encode at h
  exact (ite_error_eq_ok.1 h).1

end Wave

namespace Recording

/-! ## Reading back

A reader believes the header: it reads as many samples as are counted there, and whatever stands
behind them is left alone. -/

/-- A recording has the samples that some bytes stand for: two bytes each, the low one first, in
their order. -/
structure IsOf (r : Recording) (pcm : List UInt8) (sampleRate channels : Nat) : Prop where
  sampleRate_eq : r.sampleRate = sampleRate
  channels_eq : r.channels = channels
  length : r.samples.length = pcm.length / 2
  sample : ∀ i (h : i < r.samples.length), r.samples[i].toUInt16.toNat =
    (pcm.getD (2 * i) 0).toNat + 256 * (pcm.getD (2 * i + 1) 0).toNat
  toBytes : Pcm.toBytes r.samples = pcm
  sampleCount : r.sampleCount = pcm.length / (2 * channels)

theorem isOf_ofBytes (path : String) {pcm : List UInt8} (even : pcm.length % 2 = 0)
    (sampleRate : Nat) {channels : Nat} (positive : 1 ≤ channels) :
    IsOf { path, sampleRate, channels, samples := Pcm.ofBytes pcm } pcm sampleRate channels :=
  { sampleRate_eq := rfl
    channels_eq := rfl
    length := Pcm.length_ofBytes pcm
    sample := fun i h => Pcm.getElem_ofBytes pcm h
    toBytes := Pcm.toBytes_ofBytes pcm even
    sampleCount := by
      rw [sampleCount, Pcm.length_ofBytes, Nat.max_eq_left positive, Nat.div_div_eq_div_mul] }

/-- Behind a header as many bytes are read as its word holds, and nobody looks at what is behind
these. -/
theorem ofBytes_counted (path : String) {data : List UInt8} {sampleRate channels count : Nat}
    (fits : Wave.Fits sampleRate channels) (whole : 2 * channels ∣ count % UInt32.size)
    (enough : count % UInt32.size ≤ data.length) :
    ofBytes path (Wave.header sampleRate channels count ++ data) =
      .ok { path, sampleRate, channels
            samples := Pcm.ofBytes (data.take (count % UInt32.size)) } := by
  have even : 2 * (count % UInt32.size / 2) = count % UInt32.size :=
    Nat.mul_div_cancel' ((Nat.dvd_mul_right 2 channels).trans whole)
  have short : count % UInt32.size < UInt32.size := Nat.mod_lt _ (by decide)
  rw [ofBytes, ← Wave.header_mod,
    Wave.readHead_header fits (Nat.mod_eq_zero_of_dvd whole) short]
  simp only [Wave.readSamples_plain, even, if_neg (Nat.not_lt.2 enough)]
  rfl

/-- The bytes of a written file are read as their samples. -/
theorem ofBytes_header (path : String) {pcm : List UInt8} {sampleRate channels : Nat}
    (fits : Wave.Fits sampleRate channels) (whole : pcm.length % (2 * channels) = 0)
    (short : pcm.length + Wave.headerLength channels < UInt32.size) :
    ofBytes path (Wave.header sampleRate channels pcm.length ++ pcm) =
      .ok { path, sampleRate, channels, samples := Pcm.ofBytes pcm } := by
  have count : pcm.length % UInt32.size = pcm.length := Nat.mod_eq_of_lt (by omega)
  rw [ofBytes_counted path fits (by rw [count]; exact Nat.dvd_of_mod_eq_zero whole) (by rw [count]),
    count, List.take_length]

/-- **What is written as a WAV file is what opening it gives.** The file is a header of 44 or 68
bytes and the samples, and all lengths in it are right. -/
theorem load_written {d d' : Disk} {path : String} {pcm : List UInt8} {sampleRate : UInt32}
    {channels : UInt16} (positive : 1 ≤ channels.toNat)
    (whole : pcm.length % (2 * channels.toNat) = 0) (block : 2 * channels.toNat < UInt16.size)
    (speed : sampleRate.toNat * 2 * channels.toNat < UInt32.size)
    (short : pcm.length + (if channels.toNat ≤ 2 then 44 else 68) < UInt32.size)
    (written : d.writeWave path pcm sampleRate channels = (.ok (), d')) :
    ∃ bytes r, d'.read path = .ok bytes ∧ Wave.IsFileOf bytes pcm channels.toNat ∧
      Recording.load d' path = .ok r ∧ r.IsOf pcm sampleRate.toNat channels.toNat := by
  have stored := d.writeWave_stored path pcm sampleRate channels
  rw [written] at stored
  cases stored with
  | done u made grown read =>
      have fits : Wave.Fits sampleRate.toNat channels.toNat :=
        { rate_ne_zero := Wave.rate_ne_zero_of_encode made
          channels_ne_zero := Nat.one_le_iff_ne_zero.1 positive
          block_lt := block
          speed_lt := speed }
      have even : pcm.length % 2 = 0 := Nat.mod_eq_zero_of_dvd
        ((Nat.dvd_mul_right 2 _).trans (Nat.dvd_of_mod_eq_zero whole))
      rw [Wave.encode_eq_ok made] at read
      refine ⟨_, _, read, Wave.isFileOf_header short, ?_,
        isOf_ofBytes path even sampleRate.toNat positive⟩
      simp only [load, read]
      exact ofBytes_header path fits whole short

/-- Two samples on each of three channels. -/
theorem load_written_three_channels :
    let pcm : List UInt8 := [1, 0, 2, 0, 3, 0, 255, 255, 0, 128, 255, 127]
    let d : Disk := { tree := .empty, cwd := [] }
    ∃ d' bytes r, d.writeWave "a.wav" pcm 8000 3 = (.ok (), d') ∧ d'.read "a.wav" = .ok bytes ∧
      Wave.IsFileOf bytes pcm 3 ∧ Recording.load d' "a.wav" = .ok r ∧ r.IsOf pcm 8000 3 := by
  intro pcm d
  have done : (d.writeWave "a.wav" pcm 8000 3).1 = .ok () := by decide +kernel
  have written : d.writeWave "a.wav" pcm 8000 3 = (.ok (), (d.writeWave "a.wav" pcm 8000 3).2) :=
    Prod.ext done rfl
  obtain ⟨bytes, r, h⟩ := load_written (by decide) (by decide) (by decide) (by decide) (by decide)
    written
  exact ⟨_, bytes, r, written, h⟩

end Recording

end VoiceLink
