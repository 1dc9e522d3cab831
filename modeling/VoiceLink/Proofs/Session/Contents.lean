import VoiceLink.Proofs.Audio.Decoding
import VoiceLink.Proofs.Session.Turns
import VoiceLink.Proofs.Turn.Containers

/-!
# What a finished turn puts into its container

A router collects audio piece by piece; the container of a turn is to hold the audio between two
boundaries of the whole history. `Router.stop_writes_turn` says that it does, for every boundary
that finishes a turn and whatever came before it. Its figures are those of the turn because a
decoded packet has as many bytes as it says it has samples (`History.Measured`).

The theorem is about the step at the boundary. That the router follows the history up to there is
known from the module on turns; what is added is what the router does next, and that the bytes of
the turn have the figures the container is told.
-/

namespace VoiceLink

/-! ## Audio that measures what it says

A decoder measures what it gives, and nothing else gets into a turn. This is carried from packets to
turns to histories. -/

/-- Decoded audio of some channels: it has two bytes for each sample, and it has samples. -/
def DecodedFrame.Measured (channels : Nat) (f : DecodedFrame) : Prop :=
  0 < f.samples ∧ f.pcm.length = 2 * channels * f.samples

/-- Turns whose audio measures what it says. -/
def Turn.Measured (channels : Nat) (t : Turn) : Prop :=
  ∀ piece ∈ t.pieces, piece.2.Measured channels

/-- Histories whose audio measures what it says. -/
def History.Measured (channels : Nat) (h : History) : Prop :=
  ∀ m ∈ h, ∀ piece ∈ m.piece?, piece.2.Measured channels

namespace Turn

variable {channels : Nat} {t : Turn}

theorem length_pcm (measured : t.Measured channels) :
    t.pcm.length = 2 * channels * t.samples := by
  have each : t.pieces.map (fun piece => piece.2.pcm.length) =
      t.pieces.map fun piece => 2 * channels * piece.2.samples :=
    List.map_congr_left fun piece hpiece => (measured piece hpiece).2
  rw [pcm, List.length_flatMap, each, List.sum_map_mul_left, samples]

/-- Only a turn without any decoded packet is silent. -/
theorem pcm_eq_nil_iff (supported : 0 < channels) (measured : t.Measured channels) :
    t.pcm = [] ↔ t.pieces = [] := by
  constructor
  · intro silent
    by_contra some
    obtain ⟨piece, hpiece⟩ := List.exists_mem_of_ne_nil _ some
    obtain ⟨hpos, hlength⟩ := measured piece hpiece
    have none : piece.2.pcm = [] := List.flatMap_eq_nil_iff.1 silent piece hpiece
    rw [none, List.length_nil] at hlength
    have := Nat.mul_pos (Nat.mul_pos (by decide : 0 < 2) supported) hpos
    omega
  · intro none
    simp [pcm, none]

end Turn

namespace History

variable {channels : Nat} {h : History}

theorem Measured.turn (measured : h.Measured channels) : h.turn.Measured channels := by
  intro piece hpiece
  obtain ⟨m, hm, heard⟩ := List.mem_filterMap.1 hpiece
  exact measured m ((List.rtakeWhile_suffix _ h).subset hm) piece heard

/-- A turn that has ended was open at some point of the history. -/
theorem exists_of_mem_ended {kinds : List Boundary} {t : Turn} (ht : t ∈ h.ended kinds) :
    ∃ past : History, past <+: h ∧ past.turn = t := by
  induction h using List.reverseRecOn with
  | nil => cases ht
  | append_singleton h m ih =>
      have earlier (ht : t ∈ ended h kinds) :
          ∃ past : History, past <+: h ++ [m] ∧ past.turn = t := by
        obtain ⟨past, before, rfl⟩ := ih ht
        exact ⟨past, before.trans (List.prefix_append _ _), rfl⟩
      cases hb : m.isBoundary with
      | false =>
          -- what is no boundary ends nothing
          rw [ended_of_isBoundary_eq_false hb] at ht
          exact earlier ht
      | true =>
          obtain ⟨kind, rfl⟩ := Arrival.exists_of_isBoundary hb
          rw [ended_boundary, List.mem_append] at ht
          rcases ht with ht | ht
          · exact earlier ht
          · -- the turn is the one that was open when the boundary came
            split at ht
            · exact ⟨h, List.prefix_append _ _, (List.mem_singleton.1 ht).symm⟩
            · cases ht

theorem Measured.ended (measured : h.Measured channels) {kinds : List Boundary} {t : Turn}
    (ht : t ∈ h.ended kinds) : t.Measured channels := by
  obtain ⟨past, before, rfl⟩ := exists_of_mem_ended ht
  have earlier : History.Measured channels past := fun m hm => measured m (before.subset hm)
  exact earlier.turn

end History

namespace Decoder

@[simp]
theorem hear_format (d : Decoder) (f : InboundFrame) : (d.hear f).2.format = d.format := by
  cases f with
  | closed => rfl
  | failed reason => rfl
  | text text =>
      simp only [hear]
      split <;> rfl
  | binary p =>
      rw [← d.decode_format p]
      simp only [hear]
      split <;> next decoded => rw [decoded]

/-- What comes out of a frame measures what it says. -/
theorem hear_measured {d : Decoder} {f : InboundFrame} {piece : Packet × DecodedFrame}
    (h : (d.hear f).1.piece? = some piece) : piece.2.Measured d.format.channels.count := by
  cases f with
  | closed => cases h
  | failed reason => cases h
  | text text =>
      simp only [hear] at h
      split at h <;> cases h
  | binary p =>
      simp only [hear] at h
      split at h
      · next decoded =>
        cases h
        exact ⟨samples_pos decoded, length_pcm decoded⟩
      · cases h

/-- Whatever a decoder hears measures what it says. -/
theorem history_measured (d : Decoder) (frames : List InboundFrame) :
    (d.history frames).Measured d.format.channels.count := by
  induction frames generalizing d with
  | nil => exact nofun
  | cons f frames ih =>
      intro m hm piece hpiece
      rcases List.mem_cons.1 hm with rfl | hm
      · exact hear_measured hpiece
      · exact d.hear_format f ▸ ih _ m hm piece hpiece

end Decoder

/-! ## The figures of a turn

What a snapshot and a container state about a turn, and that the accumulator of the turn comes to
the same. -/

/-- A snapshot holds the audio of a turn and states its figures. -/
structure PcmSnapshot.IsOf (s : PcmSnapshot) (t : Turn) : Prop where
  pcm_eq : s.pcm = t.pcm
  frames_eq : s.stats.frames = t.frames
  inputBytes_eq : s.stats.inputBytes = t.inputBytes
  samples_eq : s.stats.samples = t.samples

/-- What is recorded of a container states the number and the figures of a turn. -/
structure ContainerMetadata.IsOf (m : ContainerMetadata) (k : Nat) (t : Turn) : Prop where
  turnIndex_eq : m.turnIndex = k
  dataBytes_eq : m.dataBytes = t.pcm.length
  sampleCount_eq : m.sampleCount = t.samples
  frames_eq : m.frames = t.frames

namespace SessionConfig

variable {c : SessionConfig} {t : Turn}

theorem channels_pos (supported : c.outputChannels ≠ 0) : 0 < c.outputChannels.toNat :=
  Nat.pos_of_ne_zero fun zero => supported (UInt16.toNat_inj.1 zero)

@[simp]
theorem pcm_accumulated (c : SessionConfig) (t : Turn) :
    (c.accumulated t).snapshot.pcm = t.pcm := by
  simp [accumulated, Accumulator.snapshot, Accumulator.holding, Turn.chunks, Turn.pcm,
    List.flatMap_map]

theorem snapshot_accumulated (supported : c.outputChannels ≠ 0)
    (measured : t.Measured c.outputChannels.toNat) : (c.accumulated t).snapshot.IsOf t := by
  have block : 0 < 2 * c.outputChannels.toNat := Nat.mul_pos (by decide) (channels_pos supported)
  have pcm := c.pcm_accumulated t
  have samples : (c.accumulated t).snapshot.stats.samples =
      (c.accumulated t).snapshot.pcm.length / (2 * c.outputChannels.toNat) := rfl
  exact
    { pcm_eq := pcm
      frames_eq := by
        simp [accumulated, Accumulator.snapshot, Accumulator.holding, Turn.chunks, Turn.frames]
      inputBytes_eq := by
        simp [accumulated, Accumulator.snapshot, Accumulator.holding, Turn.chunks, Turn.inputBytes,
          Function.comp_def]
      samples_eq := by
        rw [samples, pcm, Turn.length_pcm measured, Nat.mul_div_cancel_left _ block] }

theorem isEmpty_accumulated (supported : c.outputChannels ≠ 0)
    (measured : t.Measured c.outputChannels.toNat) :
    (c.accumulated t).isEmpty = t.pieces.isEmpty := by
  have buffer : (c.accumulated t).buffer = t.pcm := c.pcm_accumulated t
  rw [Accumulator.isEmpty, buffer, Bool.eq_iff_iff, List.isEmpty_iff, List.isEmpty_iff,
    Turn.pcm_eq_nil_iff (channels_pos supported) measured]

/-- What the writer of a session records of a snapshot states the figures of the turn. -/
theorem metadata_isOf {k : Nat} {s : PcmSnapshot} (hs : s.IsOf t) :
    ((c.writer k).metadata s).IsOf k t where
  turnIndex_eq := rfl
  dataBytes_eq := congrArg List.length hs.pcm_eq
  sampleCount_eq := hs.samples_eq
  frames_eq := hs.frames_eq

end SessionConfig

/-! ## What a router writes

A router that follows a history has the open turn in its accumulator, and a stop hands that over. -/

namespace Router

variable {codec : Codec} {c : SessionConfig} {state : SessionState} {made : Instant} {r : Router}

/-- A new router decodes in the format it is configured for. -/
theorem create_format (created : create codec c state made = .ok r) :
    AudioFormat.of? c.outputSampleRate c.outputChannels = some r.decoder.format := by
  unfold create Decoder.create at created
  cases found : AudioFormat.of? c.outputSampleRate c.outputChannels with
  | none => simp [found] at created
  | some format =>
      simp only [found, Except.ok.injEq] at created
      rw [← created]

/-- A router is only made for a format that the codec supports. -/
theorem create_supported (created : create codec c state made = .ok r) :
    c.outputChannels ≠ 0 ∧ r.decoder.format.channels.count = c.outputChannels.toNat := by
  obtain ⟨-, count⟩ := AudioFormat.of?_eq_some (create_format created)
  refine ⟨?_, count⟩
  intro zero
  have positive := r.decoder.format.channels.count_pos
  rw [count, zero] at positive
  cases positive

/-- The history of a new router's connection measures what it says. -/
theorem create_measured (created : create codec c state made = .ok r)
    (frames : List InboundFrame) :
    (r.decoder.history frames).Measured c.outputChannels.toNat :=
  (create_supported created).2 ▸ r.decoder.history_measured frames

/-- A router that follows a history files its open turn at a `tts stop`. -/
theorem stop_of_follows {decoder : Decoder} {h : History} {d₀ d : Disk}
    (hf : r.audioPart.Follows c d₀ decoder h d) (now : Instant) {text : String}
    (stop : Boundary.ofText? text = some .stop)
    (snapshot : (c.accumulated h.turn).snapshot.IsOf h.turn) :
    match r.writer.write d (c.accumulated h.turn).snapshot with
    | (.ok m, w, d') =>
      m.IsOf (h.count (.boundary .stop)) h.turn ∧
        (r.handle d now (.text text)).1.report.containers = r.report.containers ++ [m] ∧
        (r.handle d now (.text text)).1.events = r.events ++ [.flushed m] ∧
        (r.handle d now (.text text)).2 =
          if c.dumpRawOpus then (w.writeRaw d' h.turn.packets).2 else d'
    | (.error e, _, d') =>
      (r.handle d now (.text text)).1.report.containers = r.report.containers ∧
        (r.handle d now (.text text)).1.report.writeErrors = r.report.writeErrors + 1 ∧
        (r.handle d now (.text text)).1.events = r.events ++ [.flushFailed e.message] ∧
        (r.handle d now (.text text)).2 = d' := by
  rw [handle_boundary r d now stop, atBoundary]
  have collected : r.countControl.accumulator.snapshot = (c.accumulated h.turn).snapshot :=
    congrArg Accumulator.snapshot hf.accumulator_eq
  cases written : r.writer.write d (c.accumulated h.turn).snapshot with
  | mk result rest =>
      obtain ⟨w, d'⟩ := rest
      -- the snapshot taken at the boundary is that of the open turn
      have call : r.countControl.writer.write d r.countControl.accumulator.snapshot =
          (result, w, d') := by
        rw [collected]
        exact written
      cases result with
      | error e =>
          obtain ⟨part, disk⟩ := flush_of_error now call
          exact ⟨congrArg AudioPart.containers part, congrArg AudioPart.writeErrors part,
            congrArg AudioPart.events part, disk⟩
      | ok m =>
          obtain ⟨part, disk⟩ := flush_of_ok now call
          refine ⟨?_, congrArg AudioPart.containers part, congrArg AudioPart.events part, ?_⟩
          · -- the writer has counted the stops so far
            have writer : r.writer = c.writer (h.count (.boundary .stop)) := by
              rw [← History.length_finished]
              exact hf.writer_eq
            rw [ContainerWriter.write_eq_ok written, writer]
            exact SessionConfig.metadata_isOf snapshot
          · have config : r.countControl.config = c := hf.config_eq
            have raw : r.countControl.rawFrames = if c.dumpRawOpus then h.turn.packets else [] :=
              hf.rawFrames_eq
            rw [disk, config, raw]
            cases dump : c.dumpRawOpus <;> simp

/-- **The contents of a turn.** Whatever a new router has handled, the next `tts stop` hands the
writer a snapshot of the audio since the last boundary. If the write succeeds, the container is
recorded under the number of turns finished before, with the figures of the audio; if not, there is
no container. -/
theorem stop_writes_turn (created : create codec c state made = .ok r) (d : Disk)
    (past : List (Instant × InboundFrame)) (now : Instant) {text : String}
    (stop : Boundary.ofText? text = some .stop) :
    let h := r.decoder.history (past.map (·.2))
    let before := r.handleAll d past
    let after := r.handleAll d (past ++ [(now, .text text)])
    ∃ s : PcmSnapshot, s.IsOf h.turn ∧
      match before.1.writer.write before.2 s with
      | (.ok m, w, d') =>
        m.IsOf (h.count (.boundary .stop)) h.turn ∧
          after.1.report.containers = before.1.report.containers ++ [m] ∧
          after.1.events = before.1.events ++ [.flushed m] ∧
          after.2 = if c.dumpRawOpus then (w.writeRaw d' h.turn.packets).2 else d'
      | (.error e, _, d') =>
        after.1.report.containers = before.1.report.containers ∧
          after.1.report.writeErrors = before.1.report.writeErrors + 1 ∧
          after.1.events = before.1.events ++ [.flushFailed e.message] ∧
          after.2 = d' := by
  intro h before after
  obtain ⟨supported, -⟩ := create_supported created
  have measured : h.turn.Measured c.outputChannels.toNat := (create_measured created _).turn
  have snapshot := SessionConfig.snapshot_accumulated supported measured
  have last : after = before.1.handle before.2 now (.text text) := handleAll_concat r d past now _
  refine ⟨(c.accumulated h.turn).snapshot, snapshot, ?_⟩
  rw [last]
  exact stop_of_follows (handleAll_follows supported (create_follows created d) past) now stop
    snapshot

/-- A packet of 2.5 milliseconds is heard; the empty packet after it is refused and leaves
nothing. -/
theorem stop_writes_turn_one_packet :
    ∃ (r : Router) (s : PcmSnapshot),
      create .silent { outputSampleRate := 8000 } .active 0 = .ok r ∧
        Boundary.ofText? "\x7b\"type\":\"tts\",\"state\":\"stop\"\x7d" = some .stop ∧
        s.IsOf ⟨[[0xe0], []], [([0xe0], ⟨List.replicate 40 0, 20⟩)]⟩ := by
  have created : ∃ r, create .silent { outputSampleRate := 8000 } .active 0 = .ok r := ⟨_, rfl⟩
  obtain ⟨r, created⟩ := created
  have stop : Boundary.ofText? "\x7b\"type\":\"tts\",\"state\":\"stop\"\x7d" = some .stop := by
    decide
  obtain ⟨s, hs, -⟩ := stop_writes_turn created { tree := .empty, cwd := [] }
    [(0, .binary [0xe0]), (1, .binary [])] 2 stop
  refine ⟨r, s, created, stop, ?_⟩
  cases created
  exact hs

end Router

end VoiceLink
