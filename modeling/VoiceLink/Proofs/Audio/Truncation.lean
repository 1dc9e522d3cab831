import VoiceLink.Proofs.Audio.Recording

/-!
# Files that were cut off

A file goes from its first byte to its last, and so does its reader. Given the beginning of a file
that it could read, a reader reads the same as before or runs out of bytes (`Wave.Cut`); it never
takes what is left for something else. For a file that was written, `Recording.load_truncated` says
where it runs out: behind the header the samples are missed, because the header says how many there
should be.

`Cut` is closed under the steps that readers are made of, so each reader has a proof in the shape of
the reader. The header of a written file then needs no look inside: as the whole can be read, its
beginning can be read as far as it goes.
-/

namespace VoiceLink

namespace Wave

/-! ## Reading a beginning

An error that the whole would give is of no interest, as the whole is a file that can be read. So
`Cut` says nothing when the whole is refused. -/

/-- What a reader makes of a beginning, in view of what it makes of the whole: the same, but for the
bytes that are missing, or it runs out of them. `extend` adds what is missing. -/
def Cut {α : Type} (extend : α → α) (whole part : Except WaveError α) : Prop :=
  ∀ a, whole = .ok a → part = .error .truncated ∨ ∃ b, part = .ok b ∧ a = extend b

/-- Add bytes behind those that a reader has left. -/
def behind {α : Type} (more : List UInt8) (a : α × List UInt8) : α × List UInt8 :=
  (a.1, a.2 ++ more)

namespace Cut

variable {α β : Type} {extend : α → α} {extend' : β → β}

theorem pure (a : α) : Cut extend (.ok (extend a)) (.ok a) := by
  rintro _ ⟨⟩
  exact .inr ⟨a, rfl, rfl⟩

theorem error (e : WaveError) (part : Except WaveError α) : Cut extend (.error e) part := by
  rintro _ ⟨⟩

/-- A reader in steps can run out of bytes at any of them. -/
theorem bind {whole part : Except WaveError α} {next next' : α → Except WaveError β}
    (first : Cut extend whole part) (rest : ∀ a, Cut extend' (next (extend a)) (next' a)) :
    Cut extend' (whole >>= next) (part >>= next') := by
  intro b h
  obtain ⟨a, read, h⟩ := bind_eq_ok.1 h
  rcases first a read with short | ⟨a', same, rfl⟩
  · left
    rw [short]
    rfl
  · rw [same]
    exact rest a' b h

/-- A condition does not look at the bytes. -/
theorem require {condition : Bool} {fault : WaveFault} {next next' : Unit → Except WaveError α}
    (rest : Cut extend (next ()) (next' ())) :
    Cut extend (Wave.require condition fault >>= next)
      (Wave.require condition fault >>= next') := by
  cases condition with
  | false => exact .error _ _
  | true => exact rest

theorem ite {p : Prop} [Decidable p] {whole part whole' part' : Except WaveError α}
    (yes : Cut extend whole part) (no : Cut extend whole' part') :
    Cut extend (if p then whole else whole') (if p then part else part') := by
  by_cases hp : p
  · rw [if_pos hp, if_pos hp]
    exact yes
  · rw [if_neg hp, if_neg hp]
    exact no

end Cut

variable (more : List UInt8)

theorem takeBytes_cut (n : Nat) (bytes : List UInt8) :
    Cut (behind more) (takeBytes n (bytes ++ more)) (takeBytes n bytes) := by
  intro a h
  by_cases short : bytes.length < n
  · left
    rw [takeBytes, if_pos short]
  · right
    rw [takeBytes] at h
    obtain ⟨-, h⟩ := ite_error_eq_ok.1 h
    cases h
    have enough : n ≤ bytes.length := Nat.le_of_not_lt short
    refine ⟨_, if_neg short, ?_⟩
    rw [behind, List.take_append_of_le_length enough, List.drop_append_of_le_length enough]

theorem takeWord_cut (width : Nat) (bytes : List UInt8) :
    Cut (behind more) (takeWord width (bytes ++ more)) (takeWord width bytes) :=
  (takeBytes_cut more width bytes).bind fun a => .pure (ofWord a.1, a.2)

/-! ## Formats

Every reader runs on the whole and on the beginning side by side, and the two agree up to the place
where the beginning ends. -/

theorem readPlain_cut (length : Nat) (spec : Spec) (bytes : List UInt8) :
    Cut (behind more) (readPlain length spec (bytes ++ more)) (readPlain length spec bytes) := by
  apply Cut.require
  apply Cut.ite
  · exact .pure (spec, bytes)
  · apply (takeWord_cut more 2 bytes).bind
    rintro ⟨-, bytes⟩
    apply Cut.require
    apply Cut.ite
    · apply (takeBytes_cut more 22 bytes).bind
      rintro ⟨-, bytes⟩
      exact .pure (spec, bytes)
    · exact .pure (spec, bytes)

theorem readFloat_cut (length : Nat) (spec : Spec) (bytes : List UInt8) :
    Cut (behind more) (readFloat length spec (bytes ++ more)) (readFloat length spec bytes) := by
  apply Cut.require
  apply Cut.ite
  · apply (takeWord_cut more 2 bytes).bind
    rintro ⟨-, bytes⟩
    apply Cut.require
    apply Cut.require
    exact .pure (_, bytes)
  · apply Cut.require
    exact .pure (_, bytes)

theorem readExtensible_cut (length : Nat) (spec : Spec) (bytes : List UInt8) :
    Cut (behind more) (readExtensible length spec (bytes ++ more))
      (readExtensible length spec bytes) := by
  apply Cut.require
  apply (takeWord_cut more 2 bytes).bind
  rintro ⟨extra, bytes⟩
  apply Cut.require
  apply (takeWord_cut more 2 bytes).bind
  rintro ⟨validBits, bytes⟩
  apply (takeWord_cut more 4 bytes).bind
  rintro ⟨-, bytes⟩
  apply (takeBytes_cut more 16 bytes).bind
  rintro ⟨subformat, bytes⟩
  apply Cut.ite
  · exact .pure (_, bytes)
  · apply Cut.ite
    · exact .pure (_, bytes)
    · exact .error _ _

theorem readFormat_cut (length : Nat) (bytes : List UInt8) :
    Cut (behind more) (readFormat length (bytes ++ more)) (readFormat length bytes) := by
  apply Cut.require
  apply (takeWord_cut more 2 bytes).bind
  rintro ⟨kind, bytes⟩
  apply (takeWord_cut more 2 bytes).bind
  rintro ⟨channels, bytes⟩
  apply (takeWord_cut more 4 bytes).bind
  rintro ⟨sampleRate, bytes⟩
  apply (takeWord_cut more 4 bytes).bind
  rintro ⟨bytesPerSecond, bytes⟩
  apply (takeWord_cut more 2 bytes).bind
  rintro ⟨blockBytes, bytes⟩
  apply (takeWord_cut more 2 bytes).bind
  rintro ⟨bits, bytes⟩
  iterate 5 apply Cut.require
  apply Cut.ite
  · exact readPlain_cut more length _ bytes
  · apply Cut.ite
    · exact readFloat_cut more length _ bytes
    · apply Cut.ite
      · exact readExtensible_cut more length _ bytes
      · exact .error _ _

/-! ## Chunks -/

/-- A beginning has fewer bytes, and so fewer rounds are made over it. -/
theorem readChunks_cut (fuel fuel' : Nat) (spec : Option Spec) (bytes : List UInt8) :
    Cut (fun a => (a.1, behind more a.2)) (readChunks fuel spec (bytes ++ more))
      (readChunks fuel' spec bytes) := by
  induction fuel generalizing fuel' spec bytes with
  | zero => exact .error _ _
  | succ fuel ih =>
      cases fuel' with
      | zero =>
          -- a beginning that has had all its rounds has no bytes for one more
          intro a h
          exact .inl rfl
      | succ fuel' =>
          rw [readChunks, readChunks]
          apply (takeBytes_cut more 4 bytes).bind
          rintro ⟨kind, bytes⟩
          apply (takeWord_cut more 4 bytes).bind
          rintro ⟨length, bytes⟩
          apply Cut.ite
          · apply (readFormat_cut more length bytes).bind
            rintro ⟨spec, bytes⟩
            exact ih fuel' (some spec) bytes
          apply Cut.ite
          · apply (takeBytes_cut more 4 bytes).bind
            rintro ⟨-, bytes⟩
            exact ih fuel' spec bytes
          apply Cut.ite
          · cases spec with
            | none => exact .error _ _
            | some spec =>
                apply Cut.require
                apply Cut.require
                exact .pure (spec, _, bytes)
          · apply (takeBytes_cut more length bytes).bind
            rintro ⟨-, bytes⟩
            exact ih fuel' spec bytes

theorem readHead_cut (bytes : List UInt8) :
    Cut (fun a => (a.1, behind more a.2)) (readHead (bytes ++ more)) (readHead bytes) := by
  apply (takeBytes_cut more 4 bytes).bind
  rintro ⟨riff, bytes⟩
  apply Cut.require
  apply (takeWord_cut more 4 bytes).bind
  rintro ⟨-, bytes⟩
  apply (takeBytes_cut more 4 bytes).bind
  rintro ⟨wave, bytes⟩
  apply Cut.require
  exact readChunks_cut more _ _ none bytes

end Wave

/-! ## Files that were written

Of a beginning it is known whether it reaches past the header. If it does not, the header is what is
missed; if it does, the number of samples in the header is more than there are. -/

/-- A file of samples is only written of whole ones, at a rate. -/
theorem Disk.writeWave_eq_ok {d d' : Disk} {path : String} {pcm : List UInt8} {sampleRate : UInt32}
    {channels : UInt16} (h : d.writeWave path pcm sampleRate channels = (.ok (), d')) :
    (sampleRate.toNat ≠ 0 ∧ channels.toNat ≠ 0 ∧ 2 * channels.toNat ∣ pcm.length) ∧
      d'.read path =
        .ok (Wave.header sampleRate.toNat channels.toNat pcm.length ++ pcm) := by
  have whole : channels.toNat ≠ 0 ∧ 2 * channels.toNat ∣ pcm.length := by
    by_contra odd
    rw [not_and_or, not_not] at odd
    rw [Disk.writeWave_of_partial odd] at h
    cases h
  have stored := d.writeWave_stored path pcm sampleRate channels
  rw [h] at stored
  cases stored with
  | done u made grown read =>
      refine ⟨⟨Wave.rate_ne_zero_of_encode made, whole⟩, ?_⟩
      rw [← Wave.encode_eq_ok made]
      exact read

namespace Recording

variable {pcm cut more : List UInt8} {sampleRate channels : Nat}

/-- A beginning that has the whole header has too few samples. -/
theorem ofBytes_part (path : String) (fits : Wave.Fits sampleRate channels)
    (whole : 2 * channels ∣ pcm.length) (short : pcm.length < UInt32.size)
    (part : cut.length < pcm.length) :
    ofBytes path (Wave.header sampleRate channels pcm.length ++ cut) =
      .error (.brokenSamples .truncated) := by
  have even : 2 * (pcm.length / 2) = pcm.length :=
    Nat.mul_div_cancel' ((Nat.dvd_mul_right 2 channels).trans whole)
  have few : cut.length < 2 * (pcm.length / 2) := by omega
  rw [ofBytes, Wave.readHead_header fits (Nat.mod_eq_zero_of_dvd whole) short]
  simp only [Wave.readSamples_plain, if_pos few]
  rfl

/-- A beginning that ends in the header is not taken for a file. -/
theorem ofBytes_head (path : String) (fits : Wave.Fits sampleRate channels)
    (whole : 2 * channels ∣ pcm.length) (short : pcm.length < UInt32.size)
    (part : cut ++ more = Wave.header sampleRate channels pcm.length ++ pcm)
    (few : cut.length < Wave.headerLength channels) :
    ofBytes path cut = .error (.notWave path .truncated) := by
  have read := Wave.readHead_header fits (Nat.mod_eq_zero_of_dvd whole) short pcm
  rw [← part] at read
  rcases Wave.readHead_cut more cut _ read with truncated | ⟨⟨spec, count, left⟩, -, same⟩
  · rw [ofBytes, truncated]
  · -- what was left would be the beginning of the samples, and the header in front of it
    exfalso
    have samples : pcm = left ++ more := congrArg (fun a => a.2.2) same
    rw [samples, ← List.append_assoc] at part
    have lengths := congrArg List.length (List.append_cancel_right part)
    rw [List.length_append, Wave.length_header] at lengths
    omega

/-- **A file that was cut off is refused.** Of a file that was written, no beginning but the whole
can be opened, wherever it ends: in the header it is no file, and behind the header its samples are
missed, also where the end is one of a sample or of a block. -/
theorem load_truncated {d d' : Disk} {path : String} {pcm : List UInt8} {sampleRate : UInt32}
    {channels : UInt16} (block : 2 * channels.toNat < UInt16.size)
    (speed : sampleRate.toNat * 2 * channels.toNat < UInt32.size)
    (short : pcm.length < UInt32.size)
    (written : d.writeWave path pcm sampleRate channels = (.ok (), d')) :
    ∃ bytes, d'.read path = .ok bytes ∧ ∀ cut, cut <+: bytes → cut ≠ bytes →
      ∀ (e : Disk) (path' : String), e.read path' = .ok cut →
        Recording.load e path' = .error
          (if cut.length < (if channels.toNat ≤ 2 then 44 else 68) then
            .notWave path' .truncated
          else .brokenSamples .truncated) := by
  obtain ⟨⟨rate, some, whole⟩, read⟩ := Disk.writeWave_eq_ok written
  have fits : Wave.Fits sampleRate.toNat channels.toNat := ⟨rate, some, block, speed⟩
  refine ⟨_, read, ?_⟩
  rintro cut ⟨more, part⟩ proper e path' found
  have length : (if channels.toNat ≤ 2 then 44 else 68) = Wave.headerLength channels.toNat := rfl
  rw [length]
  simp only [load, found]
  by_cases few : cut.length < Wave.headerLength channels.toNat
  · rw [if_pos few]
    exact ofBytes_head path' fits whole short part few
  · rw [if_neg few]
    have head : Wave.header sampleRate.toNat channels.toNat pcm.length <+: cut := by
      apply List.prefix_of_prefix_length_le (List.prefix_append _ pcm) ⟨more, part⟩
      rw [Wave.length_header]
      omega
    obtain ⟨left, rfl⟩ := head
    rw [List.append_assoc] at part
    have samples : left ++ more = pcm := List.append_cancel_left part
    apply ofBytes_part path' fits whole short
    -- something is missing, and it is missing from the samples
    have missing : more ≠ [] := by
      rintro rfl
      rw [List.append_nil] at samples
      exact proper (by rw [samples])
    have := List.length_pos_of_ne_nil missing
    rw [← samples, List.length_append]
    omega

/-- Two samples, of which the second is cut off: every sample that is there is whole. -/
theorem load_truncated_second_sample :
    let d : Disk := { tree := .empty, cwd := [] }
    let cut := Wave.header 8000 1 4 ++ [1, 0]
    ∃ d', d.writeWave "a.wav" [1, 0, 2, 0] 8000 1 = (.ok (), d') ∧
      Recording.load { tree := FileTree.empty.put ["b.wav"] (.file cut), cwd := [] } "b.wav" =
        .error (.brokenSamples .truncated) := by
  intro d cut
  have done : (d.writeWave "a.wav" [1, 0, 2, 0] 8000 1).1 = .ok () := by decide +kernel
  have written : d.writeWave "a.wav" [1, 0, 2, 0] 8000 1 =
      (.ok (), (d.writeWave "a.wav" [1, 0, 2, 0] 8000 1).2) := Prod.ext done rfl
  obtain ⟨bytes, read, refused⟩ :=
    load_truncated (by decide) (by decide) (by decide) written
  have whole : bytes = Wave.header 8000 1 4 ++ [1, 0, 2, 0] := by
    have found : (d.writeWave "a.wav" [1, 0, 2, 0] 8000 1).2.read "a.wav" =
        .ok (Wave.header 8000 1 4 ++ [1, 0, 2, 0]) := by decide +kernel
    exact Except.ok.inj (read.symm.trans found)
  subst whole
  refine ⟨_, written, ?_⟩
  exact refused cut ⟨[2, 0], by simp [cut]⟩ (by simp [cut]) _ "b.wav" (by decide +kernel)

end Recording

end VoiceLink
