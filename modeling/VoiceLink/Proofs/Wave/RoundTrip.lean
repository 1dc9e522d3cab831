import VoiceLink.Proofs.Basic
import VoiceLink.Wave.Reader

/-!
# Reading the header that was written

Writer and reader share no code but the little-endian words. Each part of a header is read where it
was written, and what comes behind it is left. From the parts, `Wave.readHead_header` says that a
written header is read as the format and the number of samples it was made for.

A header of more than two channels is longer, with fields that tell nothing new. Reader and writer
agree about them too, and for what comes after the header the two forms are alike.

Numbers that are too large for their field are written all the same, cut to its width. So there are
two kinds of lemmas, those about what is written, which always hold, and those about what is read,
for which the numbers have to fit.
-/

namespace VoiceLink

/-! ## Samples

A sample is two bytes, so an odd one at the end is lost when bytes are read as samples. -/

namespace Pcm

theorem toNat_sampleOf (low high : UInt8) :
    (sampleOf low high).toUInt16.toNat = low.toNat + 256 * high.toNat := by
  have fits : low.toNat + 256 * high.toNat < UInt16.size := by
    have := low.toNat_lt
    have := high.toNat_lt
    have : UInt16.size = 65536 := rfl
    omega
  rw [sampleOf, UInt16.toUInt16_toInt16, UInt16.toNat_ofNat_of_lt' fits]

theorem sampleBytes_sampleOf (low high : UInt8) :
    sampleBytes (sampleOf low high) = [low, high] := by
  have := low.toNat_lt
  have lower : (low.toNat + 256 * high.toNat) % 256 = low.toNat := by omega
  have upper : (low.toNat + 256 * high.toNat) / 256 = high.toNat := by omega
  simp only [sampleBytes, toNat_sampleOf, lower, upper, UInt8.ofNat_toNat]

/-- Whole samples are written as they were read. -/
theorem toBytes_ofBytes (bytes : List UInt8) (even : bytes.length % 2 = 0) :
    toBytes (ofBytes bytes) = bytes := by
  fun_induction ofBytes bytes with
  | case1 low high rest ih =>
      have rest_even : rest.length % 2 = 0 := by
        simp only [List.length_cons] at even
        omega
      rw [toBytes, List.flatMap_cons, sampleBytes_sampleOf, ← toBytes, ih rest_even]
      rfl
  | case2 bytes single =>
      -- what is left is too short for a sample, so nothing is left
      rcases bytes with _ | ⟨b, _ | ⟨b', rest⟩⟩
      · rfl
      · cases even
      · exact absurd rfl (single b b' rest)

theorem length_ofBytes (bytes : List UInt8) : (ofBytes bytes).length = bytes.length / 2 := by
  fun_induction ofBytes bytes with
  | case1 low high rest ih =>
      simp only [List.length_cons, ih]
      omega
  | case2 bytes single =>
      rcases bytes with _ | ⟨b, _ | ⟨b', rest⟩⟩
      · rfl
      · simp
      · exact absurd rfl (single b b' rest)

/-- A sample is made of the two bytes at its place, the low one first. -/
theorem getElem_ofBytes (bytes : List UInt8) {i : Nat} (h : i < (ofBytes bytes).length) :
    (ofBytes bytes)[i].toUInt16.toNat =
      (bytes.getD (2 * i) 0).toNat + 256 * (bytes.getD (2 * i + 1) 0).toNat := by
  fun_induction ofBytes bytes generalizing i with
  | case1 low high rest ih =>
      cases i with
      | zero => exact toNat_sampleOf low high
      | succ i =>
          have next : 2 * (i + 1) = 2 * i + 1 + 1 := by omega
          rw [next]
          exact ih (Nat.lt_of_succ_lt_succ h)
  | case2 => cases h

end Pcm

namespace Wave

/-! ## Words

Words are read by the place they are at: `rest` is all that comes behind them. -/

theorem takeBytes_append {n : Nat} {bytes : List UInt8} (h : bytes.length = n)
    (rest : List UInt8) : takeBytes n (bytes ++ rest) = .ok (bytes, rest) := by
  subst h
  rw [takeBytes, if_neg (by simp), List.take_left, List.drop_left]

/-- A word holds a number as far as there is room for it. -/
theorem word_mod (width n : Nat) : word width (n % Nat.pow 256 width) = word width n := by
  induction width generalizing n with
  | zero => rfl
  | succ width ih =>
      have power : Nat.pow 256 (width + 1) = 256 * Nat.pow 256 width := Nat.mul_comm _ _
      have low : UInt8.ofNat (n % Nat.pow 256 (width + 1)) = UInt8.ofNat n := by
        apply UInt8.toNat_inj.1
        rw [UInt8.toNat_ofNat', UInt8.toNat_ofNat', power]
        exact Nat.mod_mul_right_mod n 256 _
      have high : n % Nat.pow 256 (width + 1) / 256 = n / 256 % Nat.pow 256 width := by
        rw [power]
        exact Nat.mod_mul_right_div_self n 256 _
      rw [word, word, low, high, ih]

theorem ofWord_word_mod (width n : Nat) : ofWord (word width n) = n % Nat.pow 256 width := by
  rw [← word_mod]
  exact ofWord_word width _ (Nat.mod_lt n (Nat.pow_pos (by decide)))

theorem takeWord_word_mod (width n : Nat) (rest : List UInt8) :
    takeWord width (word width n ++ rest) = .ok (n % Nat.pow 256 width, rest) := by
  rw [takeWord, takeBytes_append (length_word width n)]
  simp only [bind, Except.bind, ofWord_word_mod]
  rfl

theorem takeWord_word {width n : Nat} (fits : n < Nat.pow 256 width) (rest : List UInt8) :
    takeWord width (word width n ++ rest) = .ok (n, rest) := by
  rw [takeWord_word_mod, Nat.mod_eq_of_lt fits]

theorem takeWord_two {n : Nat} (fits : n < UInt16.size) (rest : List UInt8) :
    takeWord 2 (word 2 n ++ rest) = .ok (n, rest) :=
  takeWord_word (show n < Nat.pow 256 2 from fits) rest

theorem takeWord_four {n : Nat} (fits : n < UInt32.size) (rest : List UInt8) :
    takeWord 4 (word 4 n ++ rest) = .ok (n, rest) :=
  takeWord_word (show n < Nat.pow 256 4 from fits) rest

theorem require_of {p : Prop} [Decidable p] (h : p) (fault : WaveFault) :
    require (decide p) fault = .ok () := if_pos (decide_eq_true h)

theorem require_true (fault : WaveFault) : require true fault = .ok () := rfl

/-! ## The format

`Fits` is what the format fields ask for, apart from the number of samples. -/

/-- A rate and a number of channels for which a header can say what it should. -/
structure Fits (sampleRate channels : Nat) : Prop where
  rate_ne_zero : sampleRate ≠ 0
  channels_ne_zero : channels ≠ 0
  block_lt : 2 * channels < UInt16.size
  speed_lt : sampleRate * 2 * channels < UInt32.size

def plainSpec (sampleRate channels : Nat) : Spec :=
  { channels, sampleRate, bits := bitsPerSample, isFloat := false, bytesPerSample := 2 }

variable {sampleRate channels : Nat}

theorem Fits.byteRate_eq (fits : Fits sampleRate channels) :
    byteRate sampleRate channels = sampleRate * 2 * channels := Nat.mod_eq_of_lt fits.speed_lt

theorem Fits.blockBytes_eq (fits : Fits sampleRate channels) :
    byteRate sampleRate channels / sampleRate = 2 * channels := by
  rw [fits.byteRate_eq, Nat.mul_assoc,
    Nat.mul_div_cancel_left _ (Nat.pos_of_ne_zero fits.rate_ne_zero)]

theorem Fits.rate_lt (fits : Fits sampleRate channels) : sampleRate < UInt32.size := by
  have positive := Nat.pos_of_ne_zero fits.channels_ne_zero
  calc sampleRate ≤ sampleRate * (2 * channels) := Nat.le_mul_of_pos_right _ (by omega)
    _ = sampleRate * 2 * channels := (Nat.mul_assoc _ _ _).symm
    _ < UInt32.size := fits.speed_lt

theorem Fits.commonFields_eq (fits : Fits sampleRate channels) :
    commonFields sampleRate channels = word 2 channels ++ word 4 sampleRate ++
      word 4 (sampleRate * 2 * channels) ++ word 2 (2 * channels) ++ word 2 bitsPerSample := by
  rw [commonFields, fits.blockBytes_eq, fits.byteRate_eq]

/-- The fields that all formats have are read, and what the kind asks for is read behind them. -/
theorem readFormat_common (fits : Fits sampleRate channels) {length kind : Nat}
    (long : 16 ≤ length) (known : kind < UInt16.size) (rest : List UInt8) :
    readFormat length (word 2 kind ++ (commonFields sampleRate channels ++ rest)) =
      if kind = 1 then readPlain length (plainSpec sampleRate channels) rest
      else if kind = 3 then readFloat length (plainSpec sampleRate channels) rest
      else if kind = 0xfffe then readExtensible length (plainSpec sampleRate channels) rest
      else .error .unsupported := by
  have narrow : channels < UInt16.size := by
    have := fits.block_lt
    omega
  have bits : bitsPerSample < UInt16.size := by decide
  have perSample : 2 * channels / channels = 2 :=
    Nat.mul_div_cancel _ (Nat.pos_of_ne_zero fits.channels_ne_zero)
  have consistent : sampleRate * 2 * channels = 2 * channels * sampleRate := by ring
  simp only [readFormat, fits.commonFields_eq, List.append_assoc, bind, Except.bind,
    takeWord_two known, takeWord_two narrow, takeWord_four fits.rate_lt,
    takeWord_four fits.speed_lt, takeWord_two fits.block_lt, takeWord_two bits, perSample,
    require_of long, require_of fits.channels_ne_zero, require_of consistent]
  rfl

theorem readPlain_short (spec : Spec) (rest : List UInt8) :
    readPlain 16 spec rest = .ok (spec, rest) := rfl

/-- What a format that names its speakers adds is skipped, but for the bits of a sample. -/
theorem readExtensible_written (spec : Spec) (same : spec.bits = bitsPerSample) {mask : Nat}
    (narrow : mask < UInt32.size) (rest : List UInt8) :
    readExtensible 40 spec
      (word 2 22 ++ (word 2 bitsPerSample ++ (word 4 mask ++ (pcmSubformat ++ rest)))) =
      .ok (spec, rest) := by
  have extra : 22 < UInt16.size := by decide
  have bits : bitsPerSample < UInt16.size := by decide
  have mark : pcmSubformat.length = 16 := rfl
  simp only [readExtensible, bind, Except.bind, takeWord_two extra, takeWord_two bits,
    takeWord_four narrow, takeBytes_append mark, require_of (Nat.le_refl 40), ↓reduceIte]
  have kept : (if 0 < bitsPerSample then { spec with bits := bitsPerSample } else spec) = spec := by
    rw [← same]
    exact ite_self _
  rw [kept]
  rfl

theorem speakerMask_lt (channels : Nat) : speakerMask channels < UInt32.size := by
  have most : Nat.pow 2 (min channels 18) ≤ Nat.pow 2 18 :=
    Nat.pow_le_pow_right (by decide) (Nat.min_le_right _ _)
  have : Nat.pow 2 18 = 262144 := by decide
  have : UInt32.size = 4294967296 := rfl
  rw [speakerMask]
  omega

/-- The format chunk is read as the format it was written for. -/
theorem readChunks_formatChunk (fits : Fits sampleRate channels) (fuel : Nat)
    (rest : List UInt8) :
    readChunks (fuel + 1) none (formatChunk sampleRate channels ++ rest) =
      readChunks fuel (some (plainSpec sampleRate channels)) rest := by
  have mark : (tag "fmt ").length = 4 := rfl
  rw [readChunks, formatChunk]
  split
  · have length : 16 < UInt32.size := by decide
    have format := readFormat_common fits (Nat.le_refl 16) (show 1 < UInt16.size by decide) rest
    simp only [List.append_assoc, bind, Except.bind, takeBytes_append mark, takeWord_four length,
      ↓reduceIte, format, readPlain_short]
  · have length : 40 < UInt32.size := by decide
    have format := readFormat_common fits (show 16 ≤ 40 by decide)
      (show 0xfffe < UInt16.size by decide)
    have extension := readExtensible_written (plainSpec sampleRate channels) rfl
      (speakerMask_lt channels) rest
    simp only [List.append_assoc, bind, Except.bind, takeBytes_append mark, takeWord_four length,
      ↓reduceIte, format, extension, Nat.reduceEqDiff]

/-- The data chunk ends the search: behind its length the samples begin. -/
theorem readChunks_data {dataBytes : Nat}
    (whole : dataBytes % (2 * channels) = 0) (short : dataBytes < UInt32.size) (fuel : Nat)
    (rest : List UInt8) :
    readChunks (fuel + 1) (some (plainSpec sampleRate channels))
        (tag "data" ++ (word 4 dataBytes ++ rest)) =
      .ok (plainSpec sampleRate channels, dataBytes / 2, rest) := by
  have mark : (tag "data").length = 4 := rfl
  obtain ⟨count, rfl⟩ := Nat.dvd_of_mod_eq_zero whole
  have samples : 2 * channels * count % (plainSpec sampleRate channels).bytesPerSample = 0 := by
    rw [Nat.mul_assoc]
    exact Nat.mul_mod_right _ _
  have blocks : 2 * channels * count / (plainSpec sampleRate channels).bytesPerSample %
      (plainSpec sampleRate channels).channels = 0 := by
    rw [Nat.mul_assoc]
    exact (congrArg (· % channels) (Nat.mul_div_cancel_left _ (by decide))).trans
      (Nat.mul_mod_right _ _)
  have other₁ : tag "data" ≠ tag "fmt " := by decide
  have other₂ : tag "data" ≠ tag "fact" := by decide
  rw [readChunks]
  simp only [bind, Except.bind, takeBytes_append mark, takeWord_four short, if_neg other₁,
    if_neg other₂, ↓reduceIte, require_of samples, require_of blocks]
  rfl

/-! ## The header

What is said of a header for itself, without a reader: its length, and where the lengths in it
stand. -/

/-- How long a header is. -/
def headerLength (channels : Nat) : Nat := if channels ≤ 2 then 44 else 68

theorem length_formatChunk (sampleRate channels : Nat) :
    (formatChunk sampleRate channels).length = headerLength channels - 20 := by
  unfold formatChunk headerLength
  split <;> simp [commonFields, tag, pcmSubformat]

theorem length_header (sampleRate channels dataBytes : Nat) :
    (header sampleRate channels dataBytes).length = headerLength channels := by
  simp only [header, List.length_append, length_formatChunk, length_word]
  unfold headerLength
  split <;> rfl

/-- Behind the first mark stands how many bytes follow, as far as a word holds that. -/
theorem header_total (sampleRate channels dataBytes : Nat) (rest : List UInt8) :
    ofWord (((header sampleRate channels dataBytes ++ rest).drop 4).take 4) =
      (headerLength channels + dataBytes - 8) % UInt32.size := by
  have total : 4 + (formatChunk sampleRate channels).length + 8 + dataBytes =
      headerLength channels + dataBytes - 8 := by
    rw [length_formatChunk]
    unfold headerLength
    split <;> omega
  have riff : (tag "RIFF").length = 4 := rfl
  simp only [header, List.append_assoc, total]
  rw [List.drop_left' riff, List.take_left' (length_word _ _)]
  exact ofWord_word_mod 4 _

/-- The last eight bytes of a header mark the data and say how long they are. -/
theorem header_data {dataBytes : Nat} (rest : List UInt8) :
    (header sampleRate channels dataBytes ++ rest).drop (headerLength channels - 8) =
      tag "data" ++ (word 4 dataBytes ++ rest) := by
  have length : (tag "RIFF" ++ (word 4 (4 + (formatChunk sampleRate channels).length + 8 +
      dataBytes) ++ (tag "WAVE" ++ formatChunk sampleRate channels))).length =
      headerLength channels - 8 := by
    simp only [List.length_append, length_formatChunk, length_word]
    unfold headerLength
    split <;> rfl
  have split : header sampleRate channels dataBytes ++ rest =
      (tag "RIFF" ++ (word 4 (4 + (formatChunk sampleRate channels).length + 8 + dataBytes) ++
        (tag "WAVE" ++ formatChunk sampleRate channels))) ++
        (tag "data" ++ (word 4 dataBytes ++ rest)) := by
    simp only [header, List.append_assoc]
  rw [split, List.drop_left' length]

/-- A header holds the length of its samples as far as there is room for it. -/
theorem header_mod (sampleRate channels dataBytes : Nat) :
    header sampleRate channels (dataBytes % UInt32.size) =
      header sampleRate channels dataBytes := by
  have room : Nat.pow 256 4 = UInt32.size := rfl
  have data : word 4 (dataBytes % UInt32.size) = word 4 dataBytes := word_mod 4 dataBytes
  have total (before : Nat) :
      word 4 (before + dataBytes % UInt32.size) = word 4 (before + dataBytes) := by
    rw [← word_mod 4 (before + dataBytes), ← word_mod, room, Nat.add_mod_mod]
  rw [header, header, data, total]

/-! ## Reading it -/

/-- A written header is read as what it was written for, and the samples are left. Nobody looks at
the length of the whole. -/
theorem readHead_header (fits : Fits sampleRate channels) {dataBytes : Nat}
    (whole : dataBytes % (2 * channels) = 0) (short : dataBytes < UInt32.size)
    (data : List UInt8) :
    readHead (header sampleRate channels dataBytes ++ data) =
      .ok (plainSpec sampleRate channels, dataBytes / 2, data) := by
  have riff : (tag "RIFF").length = 4 := rfl
  have wave : (tag "WAVE").length = 4 := rfl
  simp only [readHead, header, List.append_assoc, bind, Except.bind, takeBytes_append riff,
    takeBytes_append wave, takeWord_word_mod, decide_true, require_true]
  -- two chunks are read, for which any file with a header has enough rounds
  have rounds : 2 ≤
      (formatChunk sampleRate channels ++ (tag "data" ++ (word 4 dataBytes ++ data))).length := by
    simp only [List.length_append, length_word]
    omega
  obtain ⟨fuel, rounds⟩ := Nat.exists_eq_add_of_le' rounds
  rw [rounds, readChunks_formatChunk fits, readChunks_data whole short]

/-- The samples are those of the first bytes, of which there must be enough. -/
theorem readSamples_plain (sampleRate channels count : Nat) (data : List UInt8) :
    readSamples (plainSpec sampleRate channels) count data =
      if data.length < 2 * count then .error .truncated
      else .ok (Pcm.ofBytes (data.take (2 * count))) := by
  unfold readSamples
  split
  · next none =>
    rw [none]
    simp [Pcm.ofBytes]
  · by_cases few : data.length < 2 * count
    · simp [plainSpec, takeBytes, few, bind, Except.bind]
    · simp [plainSpec, takeBytes, few, bind, Except.bind, pure, Except.pure]

end Wave

end VoiceLink
