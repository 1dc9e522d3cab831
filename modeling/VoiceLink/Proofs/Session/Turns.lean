import VoiceLink.Proofs.Session.Filing

/-!
# A router follows its history

The router handles one frame at a time and keeps no history. `Router.Follows` says what its parts
have to do with the history nevertheless: the accumulator holds the open turn, the raw frames are
its packets, the writer has counted the finished turns, and these have been filed on the disk in
order. Every frame keeps this up (`Follows.handle`), so it holds after any number of frames.

A router has other parts, for the state and the timing and the messages. They do not matter here,
and a frame that is about nothing else is one in which nothing happens.
-/

namespace VoiceLink

namespace Router

def handleAll (r : Router) (d : Disk) (frames : List (Instant × InboundFrame)) : Router × Disk :=
  frames.foldl (fun (r, d) (now, f) => r.handle d now f) (r, d)

@[simp]
theorem handleAll_concat (r : Router) (d : Disk) (frames : List (Instant × InboundFrame))
    (now : Instant) (f : InboundFrame) :
    r.handleAll d (frames ++ [(now, f)]) =
      (r.handleAll d frames).1.handle (r.handleAll d frames).2 now f := by
  simp [handleAll]

/-! ## The part that has to do with audio

The fields that the history has a say in. The rest of the router may change at any time. -/

/-- What a router knows about audio, and what it has told of it. -/
structure AudioPart where
  config : SessionConfig
  decoder : Decoder
  accumulator : Accumulator
  rawFrames : List Packet
  writer : ContainerWriter
  events : List SessionEvent
  audioFrames : Nat
  decodeErrors : Nat
  writeErrors : Nat
  discardedTurns : Nat
  containers : List ContainerMetadata

def audioPart (r : Router) : AudioPart :=
  { config := r.config, decoder := r.decoder, accumulator := r.accumulator
    rawFrames := r.rawFrames, writer := r.writer, events := r.events
    audioFrames := r.report.audioFrames, decodeErrors := r.report.decodeErrors
    writeErrors := r.report.writeErrors, discardedTurns := r.report.discardedTurns
    containers := r.report.containers }

@[simp]
theorem audioPart_startLatency (r : Router) (now : Instant) :
    (r.startLatency now).audioPart = r.audioPart := rfl

@[simp]
theorem audioPart_emit (r : Router) (e : SessionEvent) :
    (r.emit e).audioPart = { r.audioPart with events := r.audioPart.events ++ [e] } := rfl

@[simp]
theorem audioPart_transition (r : Router) (next : SessionState) :
    (r.transition next).audioPart = r.audioPart := by
  unfold transition
  split <;> rfl

@[simp]
theorem audioPart_greet (r : Router) (sessionId : Option String) (params : Option AudioParams) :
    (r.greet sessionId params).audioPart = r.audioPart := by
  cases params with
  | none => cases sessionId <;> rfl
  | some p =>
      -- whether the formats agree only matters to the log
      cases sessionId <;> dsimp only [greet] <;> split <;> rfl

/-! ## What each frame does to it

The functions of the router, cut down to the audio part. A boundary files or drops the open turn; a
packet adds to it; and a text that is neither does nothing. -/

/-- A text that is no boundary has nothing to do with audio. -/
theorem handle_other (r : Router) (d : Disk) (now : Instant) {text : String}
    (h : Boundary.ofText? text = none) :
    (r.handle d now (.text text)).1.audioPart = r.audioPart ∧
      (r.handle d now (.text text)).2 = d := by
  simp only [handle, handleText]
  unfold Boundary.ofText? at h
  cases parsed : ControlMessage.parse text with
  | error e => exact ⟨rfl, rfl⟩
  | ok message =>
      rw [parsed] at h
      cases message with
      | hello sessionId transport params => exact ⟨audioPart_greet _ _ _, rfl⟩
      | tts state text =>
          cases state with
          | stop => cases h
          | start => cases h
          | _ => exact ⟨rfl, rfl⟩
      | abort reason => cases h
      | _ => exact ⟨rfl, rfl⟩

/-- A message is counted before anything is done about it. -/
def countControl (r : Router) : Router :=
  r.account fun a => { a with controlMessages := a.controlMessages + 1 }

@[simp]
theorem audioPart_countControl (r : Router) : r.countControl.audioPart = r.audioPart := rfl

/-- A boundary is a message, and the message says which one. -/
theorem parse_of_ofText? {text : String} {kind : Boundary} (h : Boundary.ofText? text = some kind) :
    ∃ message, ControlMessage.parse text = .ok message ∧ message.boundary? = some kind := by
  unfold Boundary.ofText? at h
  cases parsed : ControlMessage.parse text with
  | error e =>
      rw [parsed] at h
      cases h
  | ok message =>
      rw [parsed] at h
      exact ⟨message, rfl, h⟩

/-- What a router does at a boundary. -/
def atBoundary (r : Router) (d : Disk) (now : Instant) : Boundary → Router × Disk
  | .stop => r.flush d now
  | .start => (r.startTurn, d)
  | .abort => (r.abortTurn now, d)

theorem handle_boundary (r : Router) (d : Disk) (now : Instant) {text : String} {kind : Boundary}
    (h : Boundary.ofText? text = some kind) :
    r.handle d now (.text text) = r.countControl.atBoundary d now kind := by
  obtain ⟨message, parsed, hkind⟩ := parse_of_ofText? h
  simp only [handle, handleText, parsed]
  cases message with
  | tts state text => cases state <;> cases hkind <;> rfl
  | abort reason =>
      cases hkind
      rfl
  | _ => cases hkind

/-- The audio part without the open turn, which counts as dropped if it had any audio. -/
def AudioPart.dropTurn (a : AudioPart) : AudioPart :=
  { a with
    accumulator := a.accumulator.reset
    rawFrames := []
    discardedTurns := a.discardedTurns + if a.accumulator.isEmpty then 0 else 1 }

@[simp]
theorem audioPart_dropTurn (r : Router) :
    r.countDiscarded.resetAudio.audioPart = r.audioPart.dropTurn := by
  unfold countDiscarded
  split
  · next empty => simp [audioPart, AudioPart.dropTurn, resetAudio, empty]
  · next some => simp [audioPart, AudioPart.dropTurn, resetAudio, account, some]

@[simp]
theorem audioPart_startTurn (r : Router) : r.startTurn.audioPart = r.audioPart.dropTurn := by
  rw [startTurn, audioPart_dropTurn]
  split <;> rfl

@[simp]
theorem audioPart_abortTurn (r : Router) (now : Instant) :
    (r.abortTurn now).audioPart =
      { r.audioPart.dropTurn with events := r.audioPart.events ++ [.turnAborted] } := by
  rw [abortTurn, audioPart_emit, audioPart_startLatency, audioPart_dropTurn]
  rfl

@[simp]
theorem audioPart_close (r : Router) (reason : CloseReason) :
    (r.close reason).audioPart = r.audioPart.dropTurn := by
  have closed (s : Router) (latency : LatencyTracker) : (s.account fun a =>
      { a with closeReason := some reason, latency }).audioPart = s.audioPart := rfl
  simp [close, closed]

@[simp]
theorem audioPart_dumpRaw (r : Router) (d : Disk) : (r.dumpRaw d).1.audioPart = r.audioPart := by
  unfold dumpRaw
  split
  · split <;> rfl
  · rfl

theorem dumpRaw_disk (r : Router) (d : Disk) :
    (r.dumpRaw d).2 =
      if r.config.dumpRawOpus then (r.writer.writeRaw d r.rawFrames).2 else d := by
  unfold dumpRaw
  split
  · split <;> next written => rw [written]
  · rfl

/-- The audio part after the open turn has been filed. -/
def AudioPart.fileTurn (a : AudioPart) (f : Filing) : AudioPart :=
  { a with
    accumulator := a.accumulator.reset
    rawFrames := []
    writer := { a.writer with turnIndex := a.writer.turnIndex + 1 }
    events := a.events ++ [f.event]
    writeErrors := a.writeErrors + if f.failed then 1 else 0
    containers := a.containers ++ f.container.toOption.toList }

theorem flush_of_ok {r : Router} {d d' : Disk} {m : ContainerMetadata} {w : ContainerWriter}
    (now : Instant) (written : r.writer.write d r.accumulator.snapshot = (.ok m, w, d')) :
    (r.flush d now).1.audioPart =
        { r.audioPart with
          accumulator := r.accumulator.reset, rawFrames := [], writer := w
          events := r.events ++ [.flushed m]
          containers := r.report.containers ++ [m] } ∧
      (r.flush d now).2 = if r.config.dumpRawOpus then (w.writeRaw d' r.rawFrames).2 else d' := by
  have part := audioPart_dumpRaw { r with writer := w } d'
  have disk := dumpRaw_disk { r with writer := w } d'
  simp only [flush, written]
  refine ⟨?_, disk⟩
  rw [audioPart_startLatency]
  simp only [audioPart, AudioPart.mk.injEq] at part
  simp [audioPart, resetAudio, emit, account, part]

theorem flush_of_error {r : Router} {d d' : Disk} {e : ContainerError} {w : ContainerWriter}
    (now : Instant) (refused : r.writer.write d r.accumulator.snapshot = (.error e, w, d')) :
    (r.flush d now).1.audioPart =
        { r.audioPart with
          accumulator := r.accumulator.reset, rawFrames := [], writer := w
          events := r.events ++ [.flushFailed e.message]
          writeErrors := r.report.writeErrors + 1 } ∧
      (r.flush d now).2 = d' := by
  simp only [flush, refused]
  exact ⟨rfl, trivial⟩

/-- A finished turn is filed, whatever comes of it, and the next one begins. -/
theorem audioPart_flush {r : Router} {c : SessionConfig} {k : Nat} {t : Turn} (d : Disk)
    (now : Instant) (hconfig : r.config = c) (hwriter : r.writer = c.writer k)
    (haccumulator : r.accumulator = c.accumulated t)
    (hraw : r.rawFrames = if c.dumpRawOpus then t.packets else []) :
    (r.flush d now).1.audioPart = r.audioPart.fileTurn (c.file k d t).1 ∧
      (r.flush d now).2 = (c.file k d t).2 := by
  have advanced := c.write_writer d k (c.accumulated t).snapshot
  cases written : (c.writer k).write d (c.accumulated t).snapshot with
  | mk result rest =>
      obtain ⟨w, d'⟩ := rest
      rw [written] at advanced
      -- router and description make the same call of the writer
      have call : r.writer.write d r.accumulator.snapshot = (result, w, d') := by
        rw [hwriter, haccumulator, written]
      have next : w = { r.writer with turnIndex := r.writer.turnIndex + 1 } := by
        rw [hwriter]
        exact advanced
      cases result with
      | error e =>
          obtain ⟨part, disk⟩ := flush_of_error now call
          rw [part, disk, SessionConfig.file_of_error written, next]
          refine ⟨?_, rfl⟩
          simp [AudioPart.fileTurn, audioPart, Filing.event, Filing.failed, Except.isOk,
            Except.toBool, Except.toOption]
      | ok m =>
          obtain ⟨part, disk⟩ := flush_of_ok now call
          rw [part, disk, SessionConfig.file_of_ok written, next]
          refine ⟨?_, ?_⟩
          · simp [AudioPart.fileTurn, audioPart, Filing.event, Filing.failed, Except.isOk,
              Except.toBool, Except.toOption]
          · cases dump : c.dumpRawOpus <;> simp [hconfig, hraw, dump]

/-- The audio part after a packet has come in, and gone through the decoder. -/
def AudioPart.takePacket (a : AudioPart) (p : Packet) (decoded : Option DecodedFrame)
    (decoder : Decoder) : AudioPart :=
  { a with
    decoder
    accumulator := match decoded with
      | some f => (a.accumulator.append p.length f.pcm).2
      | none => a.accumulator
    rawFrames := if a.config.dumpRawOpus then a.rawFrames ++ [p] else a.rawFrames
    audioFrames := a.audioFrames + 1
    decodeErrors := a.decodeErrors + if decoded.isSome then 0 else 1 }

@[simp]
theorem audioPart_handleAudio (r : Router) (now : Instant) (p : Packet) :
    (r.handleAudio now p).audioPart =
      r.audioPart.takePacket p (r.decoder.decode p).1.toOption (r.decoder.decode p).2 := by
  unfold handleAudio
  cases decoded : r.decoder.decode p with
  | mk result decoder =>
      cases dump : r.config.dumpRawOpus <;> cases result <;>
        simp [account, note, decoded, dump, audioPart, AudioPart.takePacket, Except.toOption]

/-- No frame changes the configuration. -/
@[simp]
theorem config_handle (r : Router) (d : Disk) (now : Instant) (f : InboundFrame) :
    (r.handle d now f).1.config = r.config := by
  cases f with
  | closed => rfl
  | failed reason => rfl
  | binary p => exact congrArg AudioPart.config (r.audioPart_handleAudio now p)
  | text text =>
      cases boundary : Boundary.ofText? text with
      | none => exact congrArg AudioPart.config (handle_other r d now boundary).1
      | some kind =>
          rw [handle_boundary r d now boundary]
          cases kind with
          | start => exact congrArg AudioPart.config (audioPart_startTurn r.countControl)
          | abort => exact congrArg AudioPart.config (audioPart_abortTurn r.countControl now)
          | stop =>
              rw [atBoundary]
              cases written : r.countControl.writer.write d r.countControl.accumulator.snapshot with
              | mk result rest =>
                  obtain ⟨w, d'⟩ := rest
                  cases result with
                  | error e => exact congrArg AudioPart.config (flush_of_error now written).1
                  | ok m => exact congrArg AudioPart.config (flush_of_ok now written).1

/-! ## Following a history

The invariant has one equation for each field. `handle_follows` is the step, by the kinds of
arrivals. -/

/-- What the audio part of a router and the disk have to do with the history of the connection:
`decoder` has heard it, and the disk was `d₀` before it. -/
structure AudioPart.Follows (c : SessionConfig) (d₀ : Disk) (decoder : Decoder) (h : History)
    (a : AudioPart) (d : Disk) : Prop where
  config_eq : a.config = c
  decoder_eq : a.decoder = decoder
  accumulator_eq : a.accumulator = c.accumulated h.turn
  rawFrames_eq : a.rawFrames = if c.dumpRawOpus then h.turn.packets else []
  writer_eq : a.writer = c.writer h.finished.length
  audioFrames_eq : a.audioFrames = h.countP Arrival.isAudio
  decodeErrors_eq : a.decodeErrors = h.countP Arrival.isRefusal
  writeErrors_eq : a.writeErrors = (c.fileAll d₀ h.finished).1.countP Filing.failed
  discardedTurns_eq : a.discardedTurns = h.dropped.countP fun t => !(c.accumulated t).isEmpty
  containers_eq : a.containers =
    (c.fileAll d₀ h.finished).1.filterMap fun f => f.container.toOption
  disk_eq : d = (c.fileAll d₀ h.finished).2

variable {c : SessionConfig} {d₀ : Disk}

/-- A new router follows the empty history. -/
theorem create_follows {codec : Codec} {state : SessionState} {now : Instant} {r : Router}
    (created : create codec c state now = .ok r) (d : Disk) :
    r.audioPart.Follows c d r.decoder [] d := by
  unfold create at created
  cases supported : Decoder.create codec c.outputSampleRate c.outputChannels with
  | error e =>
      rw [supported] at created
      cases created
  | ok decoder =>
      rw [supported] at created
      cases created
      exact
        { config_eq := rfl
          decoder_eq := rfl
          accumulator_eq := Accumulator.holding_nil.symm
          rawFrames_eq := by simp [audioPart, History.turn_nil]
          writer_eq := rfl
          audioFrames_eq := rfl
          decodeErrors_eq := rfl
          writeErrors_eq := rfl
          discardedTurns_eq := rfl
          containers_eq := rfl
          disk_eq := rfl }

namespace AudioPart.Follows

variable {decoder : Decoder} {h : History} {a : AudioPart} {d : Disk}

/-- Nothing that matters happens. -/
theorem other (hf : a.Follows c d₀ decoder h d) : a.Follows c d₀ decoder (h ++ [.other]) d := by
  have hfinished := History.finished_of_isBoundary_eq_false (m := .other) rfl h
  have hdropped := History.dropped_of_isBoundary_eq_false (m := .other) rfl h
  exact
    { config_eq := hf.config_eq
      decoder_eq := hf.decoder_eq
      accumulator_eq := by simp [hf.accumulator_eq]
      rawFrames_eq := by simp [hf.rawFrames_eq]
      writer_eq := by rw [hf.writer_eq, hfinished]
      audioFrames_eq := by simp [hf.audioFrames_eq]
      decodeErrors_eq := by simp [hf.decodeErrors_eq]
      writeErrors_eq := by rw [hf.writeErrors_eq, hfinished]
      discardedTurns_eq := by rw [hf.discardedTurns_eq, hdropped]
      containers_eq := by rw [hf.containers_eq, hfinished]
      disk_eq := by rw [hf.disk_eq, hfinished] }

/-- Whichever way a turn ends, an accumulator that is reset holds the next one. -/
theorem accumulator_reset (hf : a.Follows c d₀ decoder h d) (kind : Boundary) :
    a.accumulator.reset = c.accumulated (History.turn (h ++ [.boundary kind])) := by
  rw [History.turn_boundary]
  exact (congrArg Accumulator.reset hf.accumulator_eq).trans (Accumulator.reset_holding _)

/-- The open turn is dropped. -/
theorem drop (hf : a.Follows c d₀ decoder h d) {kind : Boundary} (hkind : kind ≠ .stop) :
    a.dropTurn.Follows c d₀ decoder (h ++ [.boundary kind]) d := by
  have hfinished := History.finished_of_ne_stop hkind h
  have hdropped := History.dropped_of_ne_stop hkind h
  exact
    { config_eq := hf.config_eq
      decoder_eq := hf.decoder_eq
      accumulator_eq := hf.accumulator_reset kind
      rawFrames_eq := by simp [AudioPart.dropTurn]
      writer_eq := by rw [hfinished]; exact hf.writer_eq
      audioFrames_eq := by simpa [AudioPart.dropTurn] using hf.audioFrames_eq
      decodeErrors_eq := by
        simpa [AudioPart.dropTurn] using hf.decodeErrors_eq
      writeErrors_eq := by rw [hfinished]; exact hf.writeErrors_eq
      discardedTurns_eq := by
        -- the counter looks at the accumulator, and that holds the open turn
        rw [hdropped, List.countP_append, List.countP_singleton, ← hf.discardedTurns_eq,
          ← hf.accumulator_eq]
        cases empty : a.accumulator.isEmpty <;> simp [AudioPart.dropTurn, empty]
      containers_eq := by rw [hfinished]; exact hf.containers_eq
      disk_eq := by rw [hfinished]; exact hf.disk_eq }

/-- A packet comes in: it is kept for a dump, and its audio is collected. -/
theorem takePacket (hf : a.Follows c d₀ decoder h d) (supported : c.outputChannels ≠ 0)
    (p : Packet) (decoded : Option DecodedFrame) (decoder' : Decoder) :
    (a.takePacket p decoded decoder').Follows c d₀ decoder' (h ++ [.audio p decoded]) d := by
  have hfinished := History.finished_of_isBoundary_eq_false (m := .audio p decoded) rfl h
  have hdropped := History.dropped_of_isBoundary_eq_false (m := .audio p decoded) rfl h
  -- refused or not, the packet belongs to the turn
  have hpackets : (History.turn (h ++ [.audio p decoded])).packets = h.turn.packets ++ [p] := by
    cases decoded with
    | none => rw [History.turn_refused]
    | some f => rw [History.turn_decoded]
  exact
    { config_eq := hf.config_eq
      decoder_eq := rfl
      accumulator_eq := by
        cases decoded with
        | none =>
            rw [History.turn_refused]
            exact hf.accumulator_eq
        | some f =>
            rw [History.turn_decoded]
            simp only [AudioPart.takePacket, hf.accumulator_eq, SessionConfig.accumulated]
            rw [Accumulator.append_holding supported]
            simp [Turn.chunks]
      rawFrames_eq := by
        rw [hpackets]
        simp only [AudioPart.takePacket, hf.config_eq, hf.rawFrames_eq]
        split <;> rfl
      writer_eq := by rw [hfinished]; exact hf.writer_eq
      audioFrames_eq := by simp [AudioPart.takePacket, hf.audioFrames_eq]
      decodeErrors_eq := by
        cases decoded <;> simp [AudioPart.takePacket, hf.decodeErrors_eq]
      writeErrors_eq := by rw [hfinished]; exact hf.writeErrors_eq
      discardedTurns_eq := by rw [hdropped]; exact hf.discardedTurns_eq
      containers_eq := by rw [hfinished]; exact hf.containers_eq
      disk_eq := by rw [hfinished]; exact hf.disk_eq }

end AudioPart.Follows

/-- The turn is filed as the next one. -/
theorem flush_follows {r : Router} {decoder : Decoder} {h : History} {d : Disk}
    (hf : r.audioPart.Follows c d₀ decoder h d) (now : Instant) :
    (r.flush d now).1.audioPart.Follows c d₀ decoder (h ++ [.boundary .stop])
      (r.flush d now).2 := by
  have hfinished := h.finished_stop
  have hdropped := h.dropped_stop
  have hfiled := c.fileAll_concat d₀ h.finished h.turn
  rw [← hf.disk_eq] at hfiled
  -- the router does to the disk what filing does
  obtain ⟨part, disk⟩ :=
    audioPart_flush d now hf.config_eq hf.writer_eq hf.accumulator_eq hf.rawFrames_eq
  rw [part, disk]
  exact
    { config_eq := hf.config_eq
      decoder_eq := hf.decoder_eq
      accumulator_eq := hf.accumulator_reset .stop
      rawFrames_eq := by simp [AudioPart.fileTurn]
      writer_eq := by
        simp [AudioPart.fileTurn, hf.writer_eq, hfinished, SessionConfig.writer]
      audioFrames_eq := by
        simpa [AudioPart.fileTurn] using hf.audioFrames_eq
      decodeErrors_eq := by
        simpa [AudioPart.fileTurn] using hf.decodeErrors_eq
      writeErrors_eq := by
        rw [hfinished, hfiled, List.countP_append, List.countP_singleton, ← hf.writeErrors_eq]
        rfl
      discardedTurns_eq := by rw [hdropped]; exact hf.discardedTurns_eq
      containers_eq := by
        rw [hfinished, hfiled, List.filterMap_append, ← hf.containers_eq]
        cases kept : (c.file h.finished.length d h.turn).1.container <;>
          simp [AudioPart.fileTurn, kept, Except.toOption]
      disk_eq := by rw [hfinished, hfiled] }

/-- **One frame.** A router that follows a history follows it with the frame in it. -/
theorem handle_follows {r : Router} {decoder : Decoder} {h : History} {d : Disk}
    (supported : c.outputChannels ≠ 0) (hf : r.audioPart.Follows c d₀ decoder h d) (now : Instant)
    (f : InboundFrame) :
    (r.handle d now f).1.audioPart.Follows c d₀ (decoder.hear f).2 (h ++ [(decoder.hear f).1])
      (r.handle d now f).2 := by
  cases f with
  | closed => exact hf.other
  | failed reason => exact hf.other
  | text text =>
      cases boundary : Boundary.ofText? text with
      | none =>
          obtain ⟨part, disk⟩ := handle_other r d now boundary
          simp only [Decoder.hear, boundary, part, disk]
          exact hf.other
      | some kind =>
          simp only [Decoder.hear, boundary]
          rw [handle_boundary r d now boundary]
          cases kind with
          | stop =>
              rw [← audioPart_countControl] at hf
              exact flush_follows hf now
          | start =>
              rw [atBoundary, audioPart_startTurn]
              exact hf.drop (by decide)
          | abort =>
              rw [atBoundary, audioPart_abortTurn]
              have dropped :
                  r.audioPart.dropTurn.Follows c d₀ decoder (h ++ [.boundary .abort]) d :=
                hf.drop (by decide)
              -- the history does not say what the owner is told
              exact { dropped with }
  | binary p =>
      have heard : decoder.hear (.binary p) =
          (.audio p (decoder.decode p).1.toOption, (decoder.decode p).2) := by
        cases decoded : decoder.decode p with
        | mk result decoder' => cases result <;> simp [Decoder.hear, decoded, Except.toOption]
      have same : r.decoder = decoder := hf.decoder_eq
      simp only [handle, audioPart_handleAudio, heard, same]
      exact hf.takePacket supported p _ _

/-- A new router that has handled some frames follows their history. -/
theorem handleAll_follows {r : Router} {d : Disk} (supported : c.outputChannels ≠ 0)
    (hr : r.audioPart.Follows c d r.decoder [] d) (frames : List (Instant × InboundFrame)) :
    (r.handleAll d frames).1.audioPart.Follows c d (r.decoder.after (frames.map (·.2)))
      (r.decoder.history (frames.map (·.2))) (r.handleAll d frames).2 := by
  induction frames using List.reverseRecOn with
  | nil => exact hr
  | append_singleton frames f ih =>
      rw [handleAll_concat, List.map_append, List.map_singleton, Decoder.after_concat,
        Decoder.history_concat]
      exact handle_follows supported ih f.1 f.2

end Router

end VoiceLink
