import VoiceLink.Proofs.Session.Conservation
import VoiceLink.Proofs.Session.Ordering

/-!
# What is counted and what is told

The report is kept frame by frame: some counters move when a frame is taken, others when its text is
read, when its audio is decoded or when a turn is written, and the events for the owner go out in
between. `Loop.run_accounted` says what they come to after any run. Each counter is a number that
can be read off the frames that were handled, and the events are those frames' boundaries, in order.

A router is split in two for this. Its control part is what it counts without looking at audio, and
its audio part is what it tells the owner. Handling a frame changes each of them in a way that does
not depend on the other, so there are two inductions over the frames that meet in `Router.Reports`.
-/

namespace VoiceLink

/-! ## Frames and their messages

Every data frame is one of three things, which gives the sum of the counters. -/

namespace InboundFrame

def message? : InboundFrame → Option ControlMessage
  | text content => (ControlMessage.parse content).toOption
  | binary _ => none
  | closed => none
  | failed _ => none

def isAudio : InboundFrame → Bool
  | text _ => false
  | binary _ => true
  | closed => false
  | failed _ => false

/-- Whether a frame holds a text that is no control message. -/
def isRefusedText : InboundFrame → Bool
  | text content => !(ControlMessage.parse content).isOk
  | binary _ => false
  | closed => false
  | failed _ => false

def messages (frames : List InboundFrame) : List ControlMessage := frames.filterMap message?

def boundaries (frames : List InboundFrame) : List Boundary :=
  (messages frames).filterMap ControlMessage.boundary?

@[simp]
theorem messages_concat (frames : List InboundFrame) (f : InboundFrame) :
    messages (frames ++ [f]) = messages frames ++ f.message?.toList := by
  rw [messages, List.filterMap_append]
  cases found : f.message? <;> simp [messages, found]

@[simp]
theorem boundaries_concat (frames : List InboundFrame) (f : InboundFrame) :
    boundaries (frames ++ [f]) = boundaries frames ++ (f.message?.bind (·.boundary?)).toList := by
  rw [boundaries, messages_concat, List.filterMap_append]
  cases f.message? with
  | none => rfl
  | some m => cases found : m.boundary? <;> simp [boundaries, found]

/-- A data frame is audio, a message or a text that is none. -/
theorem length_eq_countP {frames : List InboundFrame}
    (data : ∀ f ∈ frames, f.closeReason? = none) :
    frames.length = frames.countP isAudio + (messages frames).length +
      frames.countP isRefusedText := by
  induction frames with
  | nil => rfl
  | cons f frames ih =>
      have rest := ih fun g hg => data g (List.mem_cons_of_mem f hg)
      rw [messages] at rest ⊢
      cases f with
      | closed => cases data _ List.mem_cons_self
      | failed reason => cases data _ List.mem_cons_self
      | binary p =>
          simp [List.filterMap_cons, List.countP_cons, message?, isAudio, isRefusedText]
          omega
      | text content =>
          cases parsed : ControlMessage.parse content with
          | error e =>
              simp [message?, isAudio, isRefusedText, parsed, Except.isOk, Except.toBool,
                Except.toOption]
              omega
          | ok m =>
              simp [message?, isAudio, isRefusedText, parsed, Except.isOk, Except.toBool,
                Except.toOption]
              omega

end InboundFrame

def ControlMessage.sessionId? : ControlMessage → Option String
  | .hello sessionId _ _ => sessionId
  | _ => none

namespace SessionEvent

/-- The boundary that an event tells of. -/
def boundary : SessionEvent → Boundary
  | flushed _ => .stop
  | flushFailed _ => .stop
  | turnAborted => .abort

def container? : SessionEvent → Option ContainerMetadata
  | flushed m => some m
  | flushFailed _ => none
  | turnAborted => none

/-- Whether an event tells of a container that was not written. -/
def isFailure : SessionEvent → Bool
  | flushed _ => false
  | flushFailed _ => true
  | turnAborted => false

/-- A turn was finished with a container or without. -/
theorem count_stop (events : List SessionEvent) :
    (events.map boundary).count .stop =
      (events.filterMap container?).length + events.countP isFailure := by
  induction events with
  | nil => rfl
  | cons e events ih =>
      cases e with
      | turnAborted =>
          simpa [List.filterMap_cons, List.countP_cons, boundary, container?, isFailure] using ih
      | flushed m =>
          simp [boundary, container?, isFailure, ih]
          omega
      | flushFailed reason =>
          simp [List.filterMap_cons, List.countP_cons, boundary, container?, isFailure, ih]
          omega

end SessionEvent

/-! ## The part of a router that has to do with messages

Everything a router does with audio leaves this part alone. What is left is a small machine of its
own, `ControlPart.hear`. -/

namespace Router

/-- What a router has counted without looking at audio. -/
structure ControlPart where
  framesReceived : Nat
  controlMessages : Nat
  parseErrors : Nat
  serverSessionId : Option String

/-- The control part of a router. -/
def controlPart (r : Router) : ControlPart :=
  { framesReceived := r.report.framesReceived, controlMessages := r.report.controlMessages
    parseErrors := r.report.parseErrors, serverSessionId := r.report.serverSessionId }

variable (r : Router) (d : Disk) (now : Instant)

@[simp]
theorem controlPart_transition (next : SessionState) :
    (r.transition next).controlPart = r.controlPart := by
  unfold transition
  split <;> rfl

@[simp]
theorem controlPart_countDiscarded : r.countDiscarded.controlPart = r.controlPart := by
  unfold countDiscarded
  split <;> rfl

@[simp]
theorem controlPart_resetAudio : r.resetAudio.controlPart = r.controlPart := rfl

@[simp]
theorem controlPart_startLatency : (r.startLatency now).controlPart = r.controlPart := rfl

@[simp]
theorem controlPart_close (reason : CloseReason) :
    (r.close reason).controlPart = r.controlPart := by
  have closed (s : Router) (latency : LatencyTracker) : (s.account fun a =>
      { a with closeReason := some reason, latency }).controlPart = s.controlPart := rfl
  simp [close, closed]

@[simp]
theorem controlPart_startTurn : r.startTurn.controlPart = r.controlPart := by
  rw [startTurn, controlPart_resetAudio, controlPart_countDiscarded]
  split <;> rfl

@[simp]
theorem controlPart_abortTurn : (r.abortTurn now).controlPart = r.controlPart := by
  have told (s : Router) (e : SessionEvent) : (s.emit e).controlPart = s.controlPart := rfl
  simp [abortTurn, told]

@[simp]
theorem controlPart_dumpRaw : (r.dumpRaw d).1.controlPart = r.controlPart := by
  unfold dumpRaw
  split
  · split <;> rfl
  · rfl

@[simp]
theorem controlPart_flush : (r.flush d now).1.controlPart = r.controlPart := by
  cases written : r.writer.write d r.accumulator.snapshot with
  | mk result rest =>
      obtain ⟨w, d'⟩ := rest
      cases result with
      | error e =>
          simp only [flush, written]
          rfl
      | ok m =>
          simp only [flush, written]
          exact controlPart_dumpRaw { r with writer := w } d'

@[simp]
theorem controlPart_handleAudio (p : Packet) :
    (r.handleAudio now p).controlPart = r.controlPart := by
  unfold handleAudio
  cases decoded : r.decoder.decode p with
  | mk result decoder =>
      cases dump : r.config.dumpRawOpus <;> cases result <;>
        simp [account, note, decoded, dump, controlPart]

/-- A greeting that carries an identifier leaves it in the report. -/
@[simp]
theorem controlPart_greet (sessionId : Option String) (params : Option AudioParams) :
    (r.greet sessionId params).controlPart =
      { r.controlPart with serverSessionId := sessionId <|> r.controlPart.serverSessionId } := by
  cases params with
  | none => cases sessionId <;> rfl
  | some p =>
      -- a format that differs is remarked on in the log only
      cases sessionId <;> dsimp only [greet] <;> split <;> rfl

/-- What a message does to the control part, apart from being counted. -/
theorem controlPart_handleMessage (m : ControlMessage) :
    (r.handleMessage d now m).1.controlPart =
      { r.controlPart with serverSessionId := m.sessionId? <|> r.controlPart.serverSessionId } := by
  cases m with
  | hello sessionId transport params => exact r.controlPart_greet sessionId params
  | tts state text =>
      cases state with
      | stop => exact r.controlPart_flush d now
      | start => exact r.controlPart_startTurn
      | _ => rfl
  | abort reason => exact r.controlPart_abortTurn now
  | _ => rfl

/-- What a frame does to the control part. -/
def ControlPart.hear (c : ControlPart) (f : InboundFrame) : ControlPart :=
  { framesReceived := c.framesReceived
    controlMessages := c.controlMessages + f.message?.toList.length
    parseErrors := c.parseErrors + if f.isRefusedText then 1 else 0
    serverSessionId := f.message?.bind (·.sessionId?) <|> c.serverSessionId }

@[simp]
theorem controlPart_handle (f : InboundFrame) :
    (r.handle d now f).1.controlPart = r.controlPart.hear f := by
  cases f with
  | closed => rfl
  | failed reason => rfl
  | binary p => exact r.controlPart_handleAudio now p
  | text content =>
      simp only [handle, handleText]
      cases parsed : ControlMessage.parse content with
      | error e =>
          simp [ControlPart.hear, InboundFrame.message?, InboundFrame.isRefusedText, parsed,
            Except.isOk, Except.toBool, Except.toOption, controlPart, account, note]
      | ok m =>
          simp only [controlPart_handleMessage]
          simp [ControlPart.hear, InboundFrame.message?, InboundFrame.isRefusedText, parsed,
            Except.isOk, Except.toBool, Except.toOption, controlPart, account]

end Router

/-! ## What the owner is told

Only a finished or an aborted turn is told of. The report is written in the same step as the event,
so the two agree at any time (`AudioPart.Told`). -/

namespace Router

/-- The owner has been told of some boundaries, and the report agrees with what it was told. -/
structure AudioPart.Told (boundaries : List Boundary) (a : AudioPart) : Prop where
  boundaries_eq : a.events.map SessionEvent.boundary = boundaries.filter (· ≠ .start)
  containers_eq : a.events.filterMap SessionEvent.container? = a.containers
  writeErrors_eq : a.events.countP SessionEvent.isFailure = a.writeErrors

namespace AudioPart.Told

variable {boundaries : List Boundary} {a : AudioPart}

/-- Nothing is told and nothing has to be. -/
theorem of_same {a' : AudioPart} (ha : a.Told boundaries) (events : a'.events = a.events)
    (containers : a'.containers = a.containers) (writeErrors : a'.writeErrors = a.writeErrors) :
    a'.Told boundaries where
  boundaries_eq := events ▸ ha.boundaries_eq
  containers_eq := by rw [events, containers, ha.containers_eq]
  writeErrors_eq := by rw [events, writeErrors, ha.writeErrors_eq]

/-- A start is not told of. -/
theorem start (ha : a.Told boundaries) : a.Told (boundaries ++ [.start]) where
  boundaries_eq := by simpa using ha.boundaries_eq
  containers_eq := ha.containers_eq
  writeErrors_eq := ha.writeErrors_eq

/-- One event more is one boundary more, and the report keeps up. -/
theorem event {a' : AudioPart} (ha : a.Told boundaries) (e : SessionEvent)
    (events : a'.events = a.events ++ [e])
    (containers : a'.containers = a.containers ++ e.container?.toList)
    (writeErrors : a'.writeErrors = a.writeErrors + if e.isFailure then 1 else 0) :
    a'.Told (boundaries ++ [e.boundary]) where
  boundaries_eq := by
    rw [events, List.map_append, List.filter_append, ha.boundaries_eq]
    cases e <;> rfl
  containers_eq := by
    rw [events, containers, List.filterMap_append, ha.containers_eq]
    cases e <;> rfl
  writeErrors_eq := by
    rw [events, writeErrors, List.countP_append, ha.writeErrors_eq]
    cases e <;> rfl

/-- Every turn that was to be finished has a container or is counted as failed. -/
theorem stops (ha : a.Told boundaries) :
    a.containers.length + a.writeErrors = boundaries.count .stop := by
  rw [← ha.containers_eq, ← ha.writeErrors_eq, ← SessionEvent.count_stop, ha.boundaries_eq,
    List.count_filter (by decide)]

end AudioPart.Told

variable {r : Router} {boundaries : List Boundary}

/-- The owner is told of a turn that is finished, whatever comes of it. -/
theorem flush_told (d : Disk) (now : Instant) (hr : r.audioPart.Told boundaries) :
    (r.flush d now).1.audioPart.Told (boundaries ++ [.stop]) := by
  cases written : r.writer.write d r.accumulator.snapshot with
  | mk result rest =>
      obtain ⟨w, d'⟩ := rest
      cases result with
      | error e =>
          rw [(flush_of_error now written).1]
          exact hr.event (.flushFailed e.message) rfl (List.append_nil _).symm rfl
      | ok m =>
          rw [(flush_of_ok now written).1]
          exact hr.event (.flushed m) rfl rfl rfl

/-- The owner is told of a frame's boundary, unless that is a start. -/
theorem handle_told (d : Disk) (now : Instant) (f : InboundFrame)
    (hr : r.audioPart.Told boundaries) :
    (r.handle d now f).1.audioPart.Told
      (boundaries ++ (f.message?.bind (·.boundary?)).toList) := by
  cases f with
  | closed => simpa [handle, InboundFrame.message?] using hr
  | failed reason => simpa [handle, InboundFrame.message?] using hr
  | binary p =>
      have told : (r.handleAudio now p).audioPart.Told boundaries := by
        rw [audioPart_handleAudio]
        exact hr.of_same rfl rfl rfl
      simpa [handle, InboundFrame.message?] using told
  | text content =>
      -- a text is a boundary if the message in it is one
      have found : (InboundFrame.text content).message?.bind (·.boundary?) =
          Boundary.ofText? content := by
        unfold Boundary.ofText?
        cases parsed : ControlMessage.parse content <;>
          simp [InboundFrame.message?, parsed, Except.toOption]
      rw [found]
      cases boundary : Boundary.ofText? content with
      | none =>
          rw [(handle_other r d now boundary).1]
          simpa using hr
      | some kind =>
          rw [handle_boundary r d now boundary]
          have counted : r.countControl.audioPart.Told boundaries := hr
          cases kind with
          | stop => exact flush_told d now counted
          | start =>
              rw [atBoundary, audioPart_startTurn]
              exact AudioPart.Told.start (counted.of_same rfl rfl rfl)
          | abort =>
              rw [atBoundary, audioPart_abortTurn]
              exact counted.event .turnAborted rfl (List.append_nil _).symm rfl

end Router

/-! ## The whole account

What the two inductions come to, counter by counter. -/

theorem SessionConfig.pairwise_turnIndex_fileAll (c : SessionConfig) (d : Disk)
    (turns : List Turn) :
    ((c.fileAll d turns).1.filterMap fun f => f.container.toOption).Pairwise
      (·.turnIndex < ·.turnIndex) := by
  induction turns using List.reverseRecOn with
  | nil => exact List.Pairwise.nil
  | append_singleton turns t ih =>
      rw [fileAll_concat, List.filterMap_append, List.pairwise_append]
      cases kept : (c.file turns.length (c.fileAll d turns).2 t).1.container with
      | error e => exact ⟨ih, by simp [kept, Except.toOption]⟩
      | ok m =>
          have last : m.turnIndex = turns.length := by
            rw [metadata_of_file kept]
            rfl
          refine ⟨ih, by simp [kept, Except.toOption], ?_⟩
          intro earlier hearlier later hlater
          have same : later = m := by simpa [kept, Except.toOption] using hlater
          rw [same, last]
          exact turnIndex_lt_of_mem_fileAll hearlier

/-- As many packets have come in as there are frames with audio. -/
theorem Decoder.countP_history (d : Decoder) (frames : List InboundFrame) :
    (d.history frames).countP Arrival.isAudio = frames.countP InboundFrame.isAudio := by
  induction frames generalizing d with
  | nil => rfl
  | cons f frames ih =>
      have same : (d.hear f).1.isAudio = f.isAudio := by
        cases f with
        | closed => rfl
        | failed reason => rfl
        | binary p =>
            simp only [hear]
            split <;> rfl
        | text content =>
            simp only [hear]
            split <;> rfl
      rw [history, List.countP_cons, List.countP_cons, ih, same]

/-- The counters of a report and the events of its session, against the frames that were handled.
The decoder says which packets it has refused. -/
structure Router.Accounted (decoder : Decoder) (frames : List InboundFrame) (r : Router) :
    Prop where
  framesReceived_eq : r.report.framesReceived = frames.length
  received_sum : r.report.framesReceived =
    r.report.audioFrames + r.report.controlMessages + r.report.parseErrors
  audioFrames_eq : r.report.audioFrames = frames.countP InboundFrame.isAudio
  decodeErrors_eq : r.report.decodeErrors = (decoder.history frames).countP Arrival.isRefusal
  controlMessages_eq : r.report.controlMessages = (InboundFrame.messages frames).length
  parseErrors_eq : r.report.parseErrors = frames.countP InboundFrame.isRefusedText
  serverSessionId_eq : r.report.serverSessionId =
    ((InboundFrame.messages frames).filterMap ControlMessage.sessionId?).getLast?
  stops_eq : r.report.containers.length + r.report.writeErrors =
    (InboundFrame.boundaries frames).count .stop
  events_eq : r.events.map SessionEvent.boundary =
    (InboundFrame.boundaries frames).filter (· ≠ .start)
  containers_eq : r.events.filterMap SessionEvent.container? = r.report.containers
  turnIndex_lt : r.report.containers.Pairwise (·.turnIndex < ·.turnIndex)
  writeErrors_eq : r.events.countP SessionEvent.isFailure = r.report.writeErrors

namespace Router

/-- The control part that some frames come to. -/
def ControlPart.ofFrames (frames : List InboundFrame) : ControlPart :=
  { framesReceived := frames.length
    controlMessages := (InboundFrame.messages frames).length
    parseErrors := frames.countP InboundFrame.isRefusedText
    serverSessionId :=
      ((InboundFrame.messages frames).filterMap ControlMessage.sessionId?).getLast? }

theorem ControlPart.ofFrames_concat (frames : List InboundFrame) (f : InboundFrame) :
    ofFrames (frames ++ [f]) =
      { (ofFrames frames).hear f with framesReceived := (ofFrames frames).framesReceived + 1 } := by
  have last : ((InboundFrame.messages (frames ++ [f])).filterMap
      ControlMessage.sessionId?).getLast? = (f.message?.bind (·.sessionId?) <|>
        ((InboundFrame.messages frames).filterMap ControlMessage.sessionId?).getLast?) := by
    rw [InboundFrame.messages_concat, List.filterMap_append, List.getLast?_append]
    cases f.message? with
    | none => rfl
    | some m => cases found : m.sessionId? <;> simp [found]
  rw [ofFrames, last]
  simp [ofFrames, hear, List.countP_append, List.countP_singleton]

/-- What the frames handled so far have to do with a router: its counters are theirs, and the owner
has been told of their boundaries. -/
structure Reports (frames : List InboundFrame) (r : Router) : Prop where
  data : ∀ f ∈ frames, f.closeReason? = none
  controlPart_eq : r.controlPart = .ofFrames frames
  told : r.audioPart.Told (InboundFrame.boundaries frames)

end Router

namespace Loop

/-- Making ready for a frame counts it. -/
theorem controlPart_prepare (l : Loop) :
    l.prepare.router.controlPart =
      { l.router.controlPart with framesReceived := l.router.controlPart.framesReceived + 1 } := by
  have active : (if l.router.state = .helloSent then l.router.transition .active
      else l.router).controlPart = l.router.controlPart := by
    split
    · exact Router.controlPart_transition _ _
    · rfl
  have marked (l' : Loop) : l'.takeMark.router.controlPart = l'.router.controlPart := by
    unfold takeMark
    split
    · split <;> rfl
    · rfl
  rw [prepare, marked, ← active]
  rfl

theorem receive_reports {frames : List InboundFrame} {l : Loop} (d : Disk) {f : InboundFrame}
    (data : f.closeReason? = none) (hl : l.router.Reports frames) :
    (l.receive d f).1.router.Reports (frames ++ [f]) where
  data g hg := by
    rcases List.mem_append.1 hg with hg | hg
    · exact hl.data g hg
    · rw [List.mem_singleton.1 hg]
      exact data
  controlPart_eq := by
    have handled : (l.receive d f).1.router.controlPart = l.prepare.router.controlPart.hear f :=
      Router.controlPart_handle _ d _ f
    rw [handled, controlPart_prepare, hl.controlPart_eq, Router.ControlPart.ofFrames_concat]
    rfl
  told := by
    have prepared : l.prepare.router.audioPart.Told (InboundFrame.boundaries frames) := by
      rw [audioPart_prepare]
      exact hl.told
    rw [InboundFrame.boundaries_concat]
    exact Router.handle_told d _ f prepared

theorem close_reports {frames : List InboundFrame} {r : Router} (reason : CloseReason)
    (hr : r.Reports frames) : (r.close reason).Reports frames where
  data := hr.data
  controlPart_eq := by rw [Router.controlPart_close, hr.controlPart_eq]
  told := by
    rw [Router.audioPart_close]
    exact hr.told.of_same rfl rfl rfl

variable {codec : Codec} {c : SessionConfig} {state : SessionState} {made : Instant} {r : Router}

theorem start_reports (created : Router.create codec c state made = .ok r) (next : SessionState)
    (time : Nat) (mark : TurnMark) :
    (start (r.transition next) time mark).router.Reports [] := by
  unfold Router.create at created
  cases supported : Decoder.create codec c.outputSampleRate c.outputChannels with
  | error e =>
      rw [supported] at created
      cases created
  | ok decoder =>
      rw [supported] at created
      cases created
      refine ⟨nofun, ?_, ?_⟩
      · exact (Router.controlPart_startLatency _ _).trans (Router.controlPart_transition _ _)
      · rw [start, Router.audioPart_startLatency, Router.audioPart_transition]
        exact ⟨rfl, rfl, rfl⟩

/-- **The account of a run.** After any run of a new router, whatever it was sent and however it
ended, the report counts what was handled, and the owner has been told of every turn that was
finished or aborted, once and in order. This is the report that the loop gives back. -/
theorem run_accounted (created : Router.create codec c state made = .ok r) (d : Disk)
    (next : SessionState) (time : Nat) (mark : TurnMark) (steps : List Step) :
    let w := (Watched.start (r.transition next) d time mark).run steps
    w.loop.router.Accounted r.decoder w.handled ∧
      ∀ report, w.loop.outcome = some (.ok report) → report = w.loop.router.report := by
  intro w
  obtain ⟨supported, -⟩ := Router.create_supported created
  have started : (r.transition next).audioPart.Follows c d r.decoder [] d := by
    rw [Router.audioPart_transition]
    exact Router.create_follows created d
  obtain ⟨a, follows, part⟩ := (Watched.start_follows started time mark).run supported steps
  have reports : w.loop.router.Reports w.handled :=
    Watched.run_keeps (fun _ _ d _ data hl => receive_reports d data hl)
      (fun _ _ reason hr => close_reports reason hr) (start_reports created next time mark) steps
  have control := reports.controlPart_eq
  have told := reports.told
  -- closing changes neither the counters nor the containers
  have same {α : Type} (field : Router.AudioPart → α) (kept : field a.dropTurn = field a) :
      field w.loop.router.audioPart = field a := by
    rw [part]
    split
    · exact kept
    · rfl
  have audio : w.loop.router.report.audioFrames = w.handled.countP InboundFrame.isAudio := by
    rw [← r.decoder.countP_history, ← follows.audioFrames_eq]
    exact same (·.audioFrames) rfl
  have messages : w.loop.router.report.controlMessages = (InboundFrame.messages w.handled).length :=
    congrArg Router.ControlPart.controlMessages control
  have refused : w.loop.router.report.parseErrors = w.handled.countP InboundFrame.isRefusedText :=
    congrArg Router.ControlPart.parseErrors control
  have received : w.loop.router.report.framesReceived = w.handled.length :=
    congrArg Router.ControlPart.framesReceived control
  constructor
  · exact
      { framesReceived_eq := received
        received_sum := by
          rw [received, audio, messages, refused]
          exact InboundFrame.length_eq_countP reports.data
        audioFrames_eq := audio
        decodeErrors_eq := (same (·.decodeErrors) rfl).trans follows.decodeErrors_eq
        controlMessages_eq := messages
        parseErrors_eq := refused
        serverSessionId_eq := congrArg Router.ControlPart.serverSessionId control
        stops_eq := told.stops
        events_eq := told.boundaries_eq
        containers_eq := told.containers_eq
        turnIndex_lt := by
          have containers : w.loop.router.report.containers = a.containers :=
            same (·.containers) rfl
          rw [containers, follows.containers_eq]
          exact c.pairwise_turnIndex_fileAll d _
        writeErrors_eq := told.writeErrors_eq }
  · intro report ended
    obtain ⟨reason, -, -, -, outcome, -⟩ :=
      (Watched.start_sound (r.transition next) d time mark).ended_run rfl ended
    cases reason <;> cases outcome
    all_goals rfl

/-- A greeting, a text that is no message, a packet, and the end of a turn that cannot be written:
all are counted, and the owner is told once. -/
theorem run_accounted_failed_write :
    let frames : List InboundFrame :=
      [.text "\x7b\"type\":\"hello\",\"session_id\":\"s-1\"\x7d", .text "oops", .binary [0xe0],
        .text "\x7b\"type\":\"tts\",\"state\":\"stop\"\x7d"]
    let steps : List Step := frames.flatMap fun f => [.deliver f, .poll]
    ∃ r, Router.create .silent { outputSampleRate := 8000 } .active 0 = .ok r ∧
      ((Watched.start (r.transition .active)
        { tree := .empty, cwd := [], faults := fun _ => some .noSpace } 0 {}).run
          steps).loop.router.Accounted r.decoder frames := by
  intro frames steps
  have created : ∃ r, Router.create .silent { outputSampleRate := 8000 } .active 0 = .ok r :=
    ⟨_, rfl⟩
  obtain ⟨r, created⟩ := created
  obtain ⟨accounted, -⟩ := run_accounted created
    { tree := .empty, cwd := [], faults := fun _ => some .noSpace } .active 0 {} steps
  refine ⟨r, created, ?_⟩
  cases created
  exact accounted

end Loop

end VoiceLink
