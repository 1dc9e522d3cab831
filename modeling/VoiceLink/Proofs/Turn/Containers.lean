import VoiceLink.Proofs.Basic
import VoiceLink.Proofs.Storage.Naming
import VoiceLink.Proofs.Storage.Saving
import VoiceLink.Turn.Container

/-!
# Containers and dumps on the disk

A container or a dump is saved under the name of its turn, whole or not at all
(`Disk.write_whole_or_not`): if that succeeds it can be read there, and if not every file is as it
was. Different turns have different files, and no container is a dump.

Which of its two outcomes a write has is up to the disk. What the disk does in between is in
`Disk.AllOrNothing`; most proofs about runs want no more than `Disk.Stored`, in which one step is
over.
-/

namespace VoiceLink

/-! ## Whole or not at all

Both writers save bytes that they make out of their arguments beforehand. The one for containers may
find that it cannot make any, and then there is nothing to save. -/

theorem Wave.encode_eq_ok {pcm bytes : List UInt8} {sampleRate channels : Nat}
    (h : encode pcm sampleRate channels = .ok bytes) :
    bytes = header sampleRate channels pcm.length ++ pcm := by
  unfold encode at h
  obtain ⟨-, h⟩ := ite_error_eq_ok.1 h
  obtain ⟨-, h⟩ := ite_error_eq_ok.1 h
  exact (Except.ok.inj h).symm

namespace Disk

theorem writeWave_allOrNothing (d : Disk) (path : String) (pcm : List UInt8) (sampleRate : UInt32)
    (channels : UInt16) :
    d.AllOrNothing path (Wave.encode pcm sampleRate.toNat channels.toNat)
      (d.writeWave path pcm sampleRate channels) := by
  unfold writeWave
  dsimp only
  split
  · exact .of_failed _ (fun l => .inl rfl) (.refl (.inl rfl))
  · have saved := d.save_allOrNothing path (Wave.encode pcm sampleRate.toNat channels.toNat) true
    split
    · next done =>
      rw [done] at saved
      exact saved.of_same nofun fun _ _ => ⟨_, rfl⟩
    · next failed =>
      rw [failed] at saved
      exact saved.of_same (fun _ _ => ⟨_, rfl⟩) nofun

theorem writeWave_stored (d : Disk) (path : String) (pcm : List UInt8) (sampleRate : UInt32)
    (channels : UInt16) :
    d.Stored path (Wave.encode pcm sampleRate.toNat channels.toNat)
      (d.writeWave path pcm sampleRate channels) :=
  (d.writeWave_allOrNothing path pcm sampleRate channels).stored

theorem writeRawFrames_allOrNothing (d : Disk) (path : String) (frames : List (List UInt8)) :
    d.AllOrNothing path (.ok frames.flatten : Except Empty _) (d.writeRawFrames path frames) := by
  have saved := d.save_allOrNothing path (.ok frames.flatten : Except Empty _) false
  unfold writeRawFrames
  split
  · next done =>
    rw [done] at saved
    exact saved.of_same nofun fun _ _ => ⟨_, rfl⟩
  · next failed =>
    rw [failed] at saved
    exact saved.of_same (fun _ _ => ⟨_, rfl⟩) nofun

theorem writeRawFrames_stored (d : Disk) (path : String) (frames : List (List UInt8)) :
    d.Stored path (.ok frames.flatten : Except Empty _) (d.writeRawFrames path frames) :=
  (d.writeRawFrames_allOrNothing path frames).stored

/-- Audio that is not of whole samples is refused. -/
theorem writeWave_of_partial {pcm : List UInt8} {channels : UInt16}
    (odd : channels.toNat = 0 ∨ ¬2 * channels.toNat ∣ pcm.length) (d : Disk) (path : String)
    (sampleRate : UInt32) :
    d.writeWave path pcm sampleRate channels =
      (.error (.misaligned pcm.length (2 * channels.toNat)), d) := by
  have block : channels.toNat * (Wave.bitsPerSample / 8) = 2 * channels.toNat := Nat.mul_comm _ _
  have refused : 2 * channels.toNat = 0 ∨ pcm.length % (2 * channels.toNat) ≠ 0 := by
    rw [Nat.dvd_iff_mod_eq_zero] at odd
    exact odd.imp_left fun none => by rw [none]
  rw [writeWave, block]
  exact if_pos refused

/-- That refusal comes before the disk is touched. -/
theorem writeWave_untouched {d d' : Disk} {path : String} {pcm : List UInt8} {sampleRate : UInt32}
    {channels : UInt16} {length block : Nat}
    (h : d.writeWave path pcm sampleRate channels = (.error (.misaligned length block), d')) :
    d' = d := by
  unfold writeWave at h
  dsimp only at h
  split at h
  · cases h
    rfl
  · -- no error of saving is this one
    split at h
    · cases h
    · next e _ _ => rcases e with _ | (_ | _) | _ <;> cases h

/-- **Files are written whole or not at all.** Whatever the disk holds and whichever operation
fails, an error leaves every entry as it was and nothing new but directories on the way, a success
leaves the complete file under the path, and at no time is anything else there but what was there
before. Audio that is not of whole samples is refused without anything being touched. -/
theorem write_whole_or_not (d : Disk) (path : String) (pcm : List UInt8) (sampleRate : UInt32)
    (channels : UInt16) (frames : List (List UInt8)) :
    d.AllOrNothing path (Wave.encode pcm sampleRate.toNat channels.toNat)
        (d.writeWave path pcm sampleRate channels) ∧
      d.AllOrNothing path (.ok frames.flatten : Except Empty _) (d.writeRawFrames path frames) ∧
      ((channels.toNat = 0 ∨ ¬2 * channels.toNat ∣ pcm.length) →
        d.writeWave path pcm sampleRate channels =
          (.error (.misaligned pcm.length (2 * channels.toNat)), d)) ∧
      ∀ length block d',
        d.writeWave path pcm sampleRate channels = (.error (.misaligned length block), d') →
          d' = d := by
  refine ⟨d.writeWave_allOrNothing path pcm sampleRate channels,
    d.writeRawFrames_allOrNothing path frames, ?_, ?_⟩
  · intro odd
    exact writeWave_of_partial odd d path sampleRate
  · intro length block d' refused
    exact writeWave_untouched refused

/-- The device fails when the finished file is to be moved: there is a new directory on the way, and
under the path is still the old file. -/
theorem write_whole_or_not_failed_move :
    let d : Disk :=
      { tree := .put (.put .empty ["a"] .directory) ["a", "b.raw"] (.file [7]), cwd := []
        faults := fun n => if n = 7 then some .noSpace else none }
    ∃ d', d.writeRawFrames "c/../a/b.raw" [[1], [2, 3]] = (.error (.persist .noSpace), d') ∧
      (∀ l, d.tree.Kept (Path.OnTheWay [] "c/../a/b.raw") d'.tree l) ∧
      d'.tree.find? ["c"] = some .directory ∧ d'.read "c/../a/b.raw" = .ok [7] := by
  intro d
  obtain ⟨-, raw, -⟩ := d.write_whole_or_not "c/../a/b.raw" [] 8000 1 [[1], [2, 3]]
  have failed : (d.writeRawFrames "c/../a/b.raw" [[1], [2, 3]]).1 = .error (.persist .noSpace) := by
    decide +kernel
  exact ⟨_, Prod.ext failed rfl, raw.failed _ failed, by decide +kernel, by decide +kernel⟩

end Disk

namespace ContainerWriter

/-! ## Names

The number of a turn is padded, so the name of a container is one text with different endings.
Endings have no slash in them, and that is all `Path.location_injective` asks. -/

/-- What the name of a turn's file has behind the name of the session. -/
def turnEnding (turn : Nat) (ending : String) : String :=
  "-turn-" ++ Numeral.padded 3 turn ++ ending

theorem isEnding_turnEnding (turn : Nat) {ending : String} (hending : '/' ∉ ending.toList) :
    Path.IsEnding (turnEnding turn ending) := by
  constructor
  · have : 6 ≤ (turnEnding turn ending).length := by
      rw [turnEnding, String.length_append, String.length_append]
      have : "-turn-".length = 6 := by decide
      omega
    omega
  · rw [turnEnding, String.toList_append, String.toList_append, List.mem_append, List.mem_append]
    rintro ((slash | slash) | slash)
    · exact absurd slash (by decide)
    · exact Numeral.slash_not_mem_padded 3 turn slash
    · exact hending slash

variable (w : ContainerWriter) (cwd : Location)

theorem fileName_eq (turn : Nat) (ending : String) :
    w.fileName turn ending = w.stem ++ turnEnding turn ending := by
  simp only [fileName, turnEnding, String.append_assoc]

theorem wavePath_eq (turn : Nat) :
    w.wavePath turn = Path.join w.outputDir w.stem ++ turnEnding turn ".wav" := by
  rw [wavePath, fileName_eq, Path.join_append (isEnding_turnEnding turn (by decide))]

theorem rawPath_eq (turn : Nat) :
    w.rawPath turn = Path.join w.outputDir w.stem ++ turnEnding turn ".opus.raw" := by
  rw [rawPath, fileName_eq, Path.join_append (isEnding_turnEnding turn (by decide))]

theorem turnEnding_injective (ending : String) :
    Function.Injective fun turn => turnEnding turn ending := by
  intro j k h
  refine Numeral.padded_injective 3 ?_
  simpa [turnEnding, String.ext_iff] using h

theorem getLast?_turnEnding (turn : Nat) {ending : String} {c : Char}
    (h : ending.toList.getLast? = some c) : (turnEnding turn ending).toList.getLast? = some c := by
  rw [turnEnding, String.toList_append, List.getLast?_append, h]
  rfl

/-- No container has the name of a dump: they end in different letters. -/
theorem turnEnding_ne (j k : Nat) : turnEnding j ".wav" ≠ turnEnding k ".opus.raw" := by
  intro h
  have wave : (turnEnding j ".wav").toList.getLast? = some 'v' := getLast?_turnEnding j (by decide)
  have raw : (turnEnding k ".opus.raw").toList.getLast? = some 'w' :=
    getLast?_turnEnding k (by decide)
  rw [h, raw] at wave
  exact absurd wave (by decide)

/-- The containers of different turns are different files. -/
theorem location_wavePath_injective :
    Function.Injective fun turn => Path.location cwd (w.wavePath turn) := by
  intro j k h
  simp only [wavePath_eq] at h
  exact turnEnding_injective _ (Path.location_injective (isEnding_turnEnding j (by decide))
    (isEnding_turnEnding k (by decide)) h)

/-- The dumps of different turns are different files. -/
theorem location_rawPath_injective :
    Function.Injective fun turn => Path.location cwd (w.rawPath turn) := by
  intro j k h
  simp only [rawPath_eq] at h
  exact turnEnding_injective _ (Path.location_injective (isEnding_turnEnding j (by decide))
    (isEnding_turnEnding k (by decide)) h)

/-- No container is a dump. -/
theorem location_wavePath_ne_rawPath (j k : Nat) :
    Path.location cwd (w.wavePath j) ≠ Path.location cwd (w.rawPath k) := by
  intro h
  rw [wavePath_eq, rawPath_eq] at h
  exact turnEnding_ne j k (Path.location_injective (isEnding_turnEnding j (by decide))
    (isEnding_turnEnding k (by decide)) h)

/-! ## Writing

What a write has done to the disk and to the writer: these are two matters, and only the first
depends on how it went. -/

variable (d : Disk)

theorem write_stored (s : PcmSnapshot) :
    d.Stored w.nextPath (Wave.encode s.pcm s.sampleRate.toNat s.channels.toNat)
      ((w.write d s).1, (w.write d s).2.2) := by
  have stored := d.writeWave_stored w.nextPath s.pcm s.sampleRate s.channels
  unfold write
  generalize d.writeWave w.nextPath s.pcm s.sampleRate s.channels = outcome at stored
  cases stored with
  | failed e grown => exact .failed _ grown
  | done u made grown read => exact .done _ made grown read

theorem writeRaw_stored (frames : List (List UInt8)) :
    d.Stored (w.rawPath (w.turnIndex - 1)) (.ok frames.flatten : Except Empty _)
      (w.writeRaw d frames) := by
  have stored := d.writeRawFrames_stored (w.rawPath (w.turnIndex - 1)) frames
  unfold writeRaw
  dsimp only
  generalize d.writeRawFrames (w.rawPath (w.turnIndex - 1)) frames = outcome at stored
  cases stored with
  | failed e grown => exact .failed _ grown
  | done u made grown read => exact .done _ made grown read

/-- Written or not, a turn has used up its number. -/
theorem write_writer (s : PcmSnapshot) :
    (w.write d s).2.1 = { w with turnIndex := w.turnIndex + 1 } := by
  simp only [write]
  split <;> rfl

/-- A write that succeeds has written the snapshot's metadata. -/
theorem write_eq_ok {w w' : ContainerWriter} {d d' : Disk} {s : PcmSnapshot}
    {m : ContainerMetadata} (h : w.write d s = (.ok m, w', d')) : m = w.metadata s := by
  simp only [write] at h
  split at h
  · cases h
    rfl
  · cases h

theorem writeRaw_eq_ok {w : ContainerWriter} {d d' : Disk} {frames : List (List UInt8)}
    {path : String} (h : w.writeRaw d frames = (.ok path, d')) :
    path = w.rawPath (w.turnIndex - 1) := by
  unfold writeRaw at h
  dsimp only at h
  generalize d.writeRawFrames (w.rawPath (w.turnIndex - 1)) frames = outcome at h
  obtain ⟨result, d₁⟩ := outcome
  cases result <;> cases h
  rfl

end ContainerWriter

end VoiceLink
