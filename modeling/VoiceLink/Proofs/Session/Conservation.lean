import VoiceLink.Proofs.Session.Contents

/-!
# Where decoded audio goes

Every packet that was decoded ends up in one place: in a container, in a turn whose container was
not written, in a turn that was dropped, or in the accumulator. `Router.Accounts` says so in the
counters of the report, and `Router.audio_conserved` that the counters of every router say so,
before and after it is closed.

The counters themselves are of no help in this: those of turns that were not written and of turns
that were dropped do not say how much was in them. So they are compared with the history of the
connection, which does.
-/

namespace VoiceLink

/-! ## Packets in turns

Each packet belongs to one turn of the history, and each turn has been finished, has been dropped or
is open. This is only counting. -/

/-- Every packet was refused, or belongs to a turn that was finished, was dropped or is open. -/
theorem History.countP_isAudio (h : History) :
    h.countP Arrival.isAudio =
      h.countP Arrival.isRefusal + (h.finished.map Turn.frames).sum +
        (h.dropped.map Turn.frames).sum + h.turn.frames := by
  induction h using List.reverseRecOn with
  | nil => rfl
  | append_singleton h m ih =>
      rw [List.countP_append, List.countP_append, ih]
      cases m with
      | other =>
          rw [finished_of_isBoundary_eq_false rfl, dropped_of_isBoundary_eq_false rfl, turn_other]
          simp
      | audio p decoded =>
          rw [finished_of_isBoundary_eq_false rfl, dropped_of_isBoundary_eq_false rfl]
          cases decoded with
          | none =>
              rw [turn_refused]
              simp [Turn.frames]
              omega
          | some f =>
              rw [turn_decoded]
              simp [Turn.frames]
              omega
      | boundary kind =>
          -- the open turn is finished or dropped, and nothing of it is left
          rw [turn_boundary]
          by_cases hkind : kind = .stop
          · rw [hkind, finished_stop, dropped_stop]
            simp [Turn.frames]
            omega
          · rw [finished_of_ne_stop hkind, dropped_of_ne_stop hkind]
            simp [Turn.frames]
            omega

/-! ## Turns without a container

A container tells the number of its turn, and the numbers are those of all finished turns. The turns
without one are those whose number is not among them. -/

/-- The turns, counted from zero, under whose number no container is recorded. -/
def unwritten (containers : List ContainerMetadata) (turns : List Turn) : List Turn :=
  turns.zipIdx.filterMap fun (t, k) =>
    if k ∈ containers.map (·.turnIndex) then none else some t

variable {containers : List ContainerMetadata} {turns : List Turn}

theorem unwritten_concat_of_error (earlier : ∀ m ∈ containers, m.turnIndex < turns.length)
    (t : Turn) : unwritten containers (turns ++ [t]) = unwritten containers turns ++ [t] := by
  have fresh : turns.length ∉ containers.map (·.turnIndex) := by
    intro used
    obtain ⟨m, hm, same⟩ := List.mem_map.1 used
    exact (earlier m hm).ne same
  simp only [unwritten, List.zipIdx_append, List.zipIdx_singleton, List.filterMap_append,
    Nat.zero_add, List.filterMap_cons, fresh, ↓reduceIte, List.filterMap_nil]

theorem unwritten_concat_of_ok {m : ContainerMetadata} (hm : m.turnIndex = turns.length)
    (t : Turn) : unwritten (containers ++ [m]) (turns ++ [t]) = unwritten containers turns := by
  have same : ∀ x ∈ turns.zipIdx,
      (if x.2 ∈ (containers ++ [m]).map (·.turnIndex) then none else some x.1) =
        if x.2 ∈ containers.map (·.turnIndex) then none else some x.1 := by
    rintro ⟨t, k⟩ hx
    have hk : k < turns.length := by
      have := List.snd_lt_of_mem_zipIdx hx
      omega
    have other : k ≠ m.turnIndex := by omega
    simp [other]
  rw [unwritten, List.zipIdx_append, List.filterMap_append, List.filterMap_congr same]
  simp [unwritten, hm]

namespace SessionConfig

variable {c : SessionConfig} {d : Disk}

/-- A container that was filed is recorded as the writer says. -/
theorem metadata_of_file {k : Nat} {t : Turn} {m : ContainerMetadata}
    (kept : (c.file k d t).1.container = .ok m) :
    m = (c.writer k).metadata (c.accumulated t).snapshot := by
  cases written : (c.writer k).write d (c.accumulated t).snapshot with
  | mk result rest =>
      cases result with
      | error e =>
          rw [file_of_error written] at kept
          cases kept
      | ok m' =>
          rw [file_of_ok written] at kept
          cases kept
          exact ContainerWriter.write_eq_ok written

/-- So is every container of turns that were filed one after the other, each with its number. -/
theorem metadata_of_mem_fileAll {f : Filing} {m : ContainerMetadata}
    (hf : f ∈ (c.fileAll d turns).1) (kept : f.container = .ok m) :
    ∃ k, k < turns.length ∧ m = (c.writer k).metadata (c.accumulated f.turn).snapshot := by
  induction turns using List.reverseRecOn with
  | nil => cases hf
  | append_singleton turns t ih =>
      rw [fileAll_concat, List.mem_append, List.mem_singleton] at hf
      rw [List.length_append, List.length_singleton]
      rcases hf with earlier | rfl
      · obtain ⟨k, hk, metadata⟩ := ih earlier
        exact ⟨k, Nat.lt_succ_of_lt hk, metadata⟩
      · rw [file_turn]
        exact ⟨turns.length, Nat.lt_succ_self _, metadata_of_file kept⟩

theorem turnIndex_lt_of_mem_fileAll {m : ContainerMetadata}
    (hm : m ∈ (c.fileAll d turns).1.filterMap fun f => f.container.toOption) :
    m.turnIndex < turns.length := by
  obtain ⟨f, hf, kept⟩ := List.mem_filterMap.1 hm
  obtain ⟨k, hk, rfl⟩ := metadata_of_mem_fileAll hf (Filing.container_of_toOption kept)
  exact hk

/-- The packets of filed turns are in their containers, or in turns without one. -/
theorem sum_frames_fileAll (supported : c.outputChannels ≠ 0)
    (measured : ∀ t ∈ turns, t.Measured c.outputChannels.toNat) :
    let containers := (c.fileAll d turns).1.filterMap fun f => f.container.toOption
    (turns.map Turn.frames).sum =
      (containers.map (·.frames)).sum + ((unwritten containers turns).map Turn.frames).sum := by
  induction turns using List.reverseRecOn with
  | nil => rfl
  | append_singleton turns t ih =>
      have before := ih fun t ht => measured t (List.mem_append_left _ ht)
      have figures := snapshot_accumulated supported (measured t (by simp))
      simp only [fileAll_concat, List.filterMap_append, List.map_append, List.sum_append]
      cases kept : (c.file turns.length (c.fileAll d turns).2 t).1.container with
      | error e =>
          -- no container has the number of the turn, so it is one of those without
          have none : [(c.file turns.length (c.fileAll d turns).2 t).1].filterMap
              (fun f => f.container.toOption) = [] := by simp [kept, Except.toOption]
          rw [none, List.append_nil, before, unwritten_concat_of_error
            (fun m hm => turnIndex_lt_of_mem_fileAll hm) t, List.map_append, List.sum_append]
          simp
          omega
      | ok m =>
          -- the container says how many packets it has
          have some : [(c.file turns.length (c.fileAll d turns).2 t).1].filterMap
              (fun f => f.container.toOption) = [m] := by simp [kept, Except.toOption]
          have hm : m.IsOf turns.length t := metadata_of_file kept ▸ metadata_isOf figures
          rw [some, before, unwritten_concat_of_ok hm.turnIndex_eq]
          simp [hm.frames_eq]
          omega

end SessionConfig

/-! ## The account of a router

The history of what a router has handled, with the containers of its report put beside the turns. -/

namespace Router

/-- The counters of a router account for every packet of a history in which some turns were
dropped. -/
structure Accounts (h : History) (dropped : List Turn) (r : Router) : Prop where
  audioFrames_eq : r.report.audioFrames =
    r.report.decodeErrors + (r.report.containers.map (·.frames)).sum +
      ((unwritten r.report.containers h.finished).map Turn.frames).sum +
      (dropped.map Turn.frames).sum + r.accumulator.stats.frames
  discardedTurns_eq : r.report.discardedTurns = dropped.countP fun t => t.pieces ≠ []

variable {codec : Codec} {c : SessionConfig} {state : SessionState} {made : Instant} {r : Router}

theorem accounts_of_follows {decoder : Decoder} {h : History} {d₀ d : Disk}
    (supported : c.outputChannels ≠ 0) (measured : h.Measured c.outputChannels.toNat)
    (hf : r.audioPart.Follows c d₀ decoder h d) : r.Accounts h h.dropped where
  audioFrames_eq := by
    have audio : r.report.audioFrames = h.countP Arrival.isAudio := hf.audioFrames_eq
    have refused : r.report.decodeErrors = h.countP Arrival.isRefusal := hf.decodeErrors_eq
    have written : r.report.containers =
        (c.fileAll d₀ h.finished).1.filterMap fun f => f.container.toOption := hf.containers_eq
    have collected : r.accumulator = c.accumulated h.turn := hf.accumulator_eq
    have figures := SessionConfig.snapshot_accumulated supported measured.turn
    have open_eq : r.accumulator.stats.frames = h.turn.frames := collected ▸ figures.frames_eq
    have filed : (h.finished.map Turn.frames).sum = _ :=
      SessionConfig.sum_frames_fileAll (d := d₀) supported fun t ht => measured.ended ht
    rw [audio, refused, written, open_eq, h.countP_isAudio, filed]
    omega
  discardedTurns_eq := by
    have counted : r.report.discardedTurns =
        h.dropped.countP fun t => !(c.accumulated t).isEmpty := hf.discardedTurns_eq
    rw [counted]
    apply List.countP_congr
    intro t ht
    rw [SessionConfig.isEmpty_accumulated supported (measured.ended ht)]
    simp

/-- Closing drops the open turn. -/
theorem accounts_close {h : History} {dropped : List Turn} (ha : r.Accounts h dropped)
    (hframes : r.accumulator.stats.frames = h.turn.frames)
    (hempty : r.accumulator.isEmpty = h.turn.pieces.isEmpty) (reason : CloseReason) :
    (r.close reason).Accounts h (dropped ++ [h.turn]) := by
  have part := audioPart_close r reason
  have audio : (r.close reason).report.audioFrames = r.report.audioFrames :=
    congrArg AudioPart.audioFrames part
  have refused : (r.close reason).report.decodeErrors = r.report.decodeErrors :=
    congrArg AudioPart.decodeErrors part
  have written : (r.close reason).report.containers = r.report.containers :=
    congrArg AudioPart.containers part
  have cleared : (r.close reason).accumulator.stats.frames = 0 :=
    congrArg (fun a => a.accumulator.stats.frames) part
  have discarded : (r.close reason).report.discardedTurns =
      r.report.discardedTurns + if r.accumulator.isEmpty then 0 else 1 :=
    congrArg AudioPart.discardedTurns part
  constructor
  · rw [audio, refused, written, cleared, ha.audioFrames_eq, hframes, List.map_append,
      List.sum_append]
    simp
    omega
  · rw [discarded, hempty, ha.discardedTurns_eq, List.countP_append, List.countP_singleton]
    cases h.turn.pieces <;> simp

/-- **Decoded audio is conserved.** After any frames, a new router accounts for every packet: the
audio frames that were not refused are in containers, in turns that could not be written, in turns
that were dropped, and in the accumulator. Closing it empties the accumulator, and the open turn
is one of those that were dropped. -/
theorem audio_conserved (created : create codec c state made = .ok r) (d : Disk)
    (frames : List (Instant × InboundFrame)) :
    let h := r.decoder.history (frames.map (·.2))
    let after := (r.handleAll d frames).1
    after.Accounts h h.dropped ∧
      ∀ reason, (after.close reason).Accounts h (h.dropped ++ [h.turn]) ∧
        (after.close reason).accumulator.stats.frames = 0 := by
  intro h after
  obtain ⟨supported, -⟩ := create_supported created
  have measured := create_measured created (frames.map (·.2))
  have follows := handleAll_follows supported (create_follows created d) frames
  have accounts : after.Accounts h h.dropped := accounts_of_follows supported measured follows
  have collected : after.accumulator = c.accumulated h.turn := follows.accumulator_eq
  have figures := SessionConfig.snapshot_accumulated supported measured.turn
  have open_eq : after.accumulator.stats.frames = h.turn.frames := collected ▸ figures.frames_eq
  have empty_eq : after.accumulator.isEmpty = h.turn.pieces.isEmpty :=
    collected ▸ SessionConfig.isEmpty_accumulated supported measured.turn
  refine ⟨accounts, fun reason => ⟨accounts_close accounts open_eq empty_eq reason, ?_⟩⟩
  have cleared : (after.close reason).accumulator = after.accumulator.reset :=
    congrArg AudioPart.accumulator (audioPart_close after reason)
  rw [cleared]
  rfl

/-- One packet is dropped by an abort, the next is still in the accumulator. -/
theorem audio_conserved_abort :
    let frames : List InboundFrame :=
      [.binary [0xe0], .text "\x7b\"type\":\"abort\"\x7d", .binary [0xe0]]
    ∃ r : Router, create .silent { outputSampleRate := 8000 } .active 0 = .ok r ∧
      (r.handleAll { tree := .empty, cwd := [] } (frames.map (0, ·))).1.Accounts
        (r.decoder.history frames) [⟨[[0xe0]], [([0xe0], ⟨List.replicate 40 0, 20⟩)]⟩] := by
  intro frames
  have created : ∃ r, create .silent { outputSampleRate := 8000 } .active 0 = .ok r := ⟨_, rfl⟩
  obtain ⟨r, created⟩ := created
  obtain ⟨accounts, -⟩ :=
    audio_conserved created { tree := .empty, cwd := [] } (frames.map (0, ·))
  refine ⟨r, created, ?_⟩
  cases created
  exact accounts

end Router

end VoiceLink
