import VoiceLink.CommandLine.Options
import VoiceLink.Session.Session
import VoiceLink.Settings.Source
import VoiceLink.Text.Fixed

/-!
# One turn from the command line

The program loads its settings, lays the options over them, connects, sends a text or a recording,
waits for the reply and gives an account. What it prints and what it leaves behind is a function of
what it is given.

All that a run can depend on is in its `Surroundings`: the disk, the environment, the network, the
codec and an identifier that was drawn for it. `Main` only fetches these from the system and carries
out what the function says.
-/

namespace VoiceLink

/-- Settings with the options of the command line laid over them. -/
def Options.overlay (o : Options) (c : ClientSettings) : ClientSettings :=
  { server := { c.server with
      url := o.server.getD c.server.url
      deviceId := o.device.getD c.server.deviceId }
    audio := { c.audio with
      listenMode := o.mode.getD c.audio.listenMode
      outputDir := o.outputDir.getD c.audio.outputDir
      dumpRawOpus := c.audio.dumpRawOpus || o.dumpOpus }
    timing := { c.timing with responseTimeout := o.wait.getD c.timing.responseTimeout } }

/-! ### Failures

A failure is reported with the causes behind it, which are numbered where there are several. Which
causes an error has is not the same for all: some say all of it themselves. -/

/-- A cause of a failure, with its number where there are several, and its further lines indented.
-/
def causeText (number : Option Nat) (cause : String) : String :=
  let (lead, margin) := match number with
    | some n =>
      let digits := Numeral.text n
      (String.ofList (List.replicate (5 - digits.length) ' ') ++ digits ++ ": ", "       ")
    | none => ("    ", "    ")
  lead ++ ("\n" ++ margin).intercalate (cause.splitOn "\n")

/-- What is printed about a failure: what failed, and the causes behind it. -/
def failureText (what : String) (causes : List String) : String :=
  let listed := match causes with
    | [] => []
    | [cause] => [causeText none cause]
    | _ => causes.mapIdx fun i cause => causeText (some i) cause
  let behind := if listed.isEmpty then "" else "\n\nCaused by:\n" ++ "\n".intercalate listed
  "Error: " ++ what ++ behind ++ "\n"

/-- What failed, and the causes behind it. -/
structure Failure where
  what : String
  causes : List String := []
  deriving DecidableEq, Repr

namespace Failure

def text (f : Failure) : String := failureText f.what f.causes

/-- The failure behind an attempt at something else. -/
def during (f : Failure) (what : String) : Failure := { what, causes := f.what :: f.causes }

def ofLoad (e : LoadError) : Failure := { what := e.context, causes := [e.cause] }

def ofSession (e : SessionError) : Failure :=
  let causes := match e with
    | .send e => [e.message]
    | .decoder e => [e.message]
    | _ => []
  { what := e.message, causes }

def ofStream : StreamError → Failure
  | .control e => ofSession (.send e)
  | e => { what := e.summary, causes := e.cause?.toList }

end Failure

/-! ### The turn

The order is fixed: some time for the server's greeting, the request, the replies, the container,
and the end of the session. A request that could not be made ends the turn where it is; a container
that does not come does not. -/

/-- A line of the program's own account. -/
def infoLine (text : String) : LogEntry := { level := .info, text }

/-- The settings that are announced before connecting. -/
def ClientSettings.announcement (c : ClientSettings) : List LogEntry :=
  [infoLine "Voice session client v0.1.0", infoLine ("Server: " ++ c.server.url),
    infoLine ("Device ID: " ++ c.server.deviceId),
    infoLine ("Output directory: " ++ c.audio.outputDir)]

def replyLine : Option ContainerMetadata → LogEntry
  | some m =>
    infoLine ("Reply saved to " ++ m.filePath ++ " (" ++ Fixed.text 2 (m.duration / 1000.0) ++ "s, "
      ++ Numeral.text m.frames ++ " frames)")
  | none => { level := .warn, text := "No reply received" }

/-- The account of a session in lines. -/
def SessionReport.summary (r : SessionReport) : List LogEntry :=
  let delay := r.latency.firstFrameDelay.map fun ns =>
    "  First frame delay: " ++ Fixed.text 0 (milliseconds ns) ++ "ms"
  let container (m : ContainerMetadata) : String :=
    "  - Turn " ++ Numeral.text m.turnIndex ++ ": " ++ m.filePath
      ++ " (" ++ Numeral.text m.dataBytes ++ " bytes)"
  ([ "Session summary:", "  Frames received: " ++ Numeral.text r.framesReceived,
    "  Audio frames: " ++ Numeral.text r.audioFrames,
    "  Decode errors: " ++ Numeral.text r.decodeErrors ]
    ++ delay.toList ++ [ "  Mean frame gap: " ++ Fixed.text 1 r.latency.meanGapMs ++ "ms" ]
    ++ r.containers.map container).map infoLine

/-- Ask for a reply by a recording or a text. -/
def Session.request (s : Session) (d : Disk) (o : Options) :
    Except Failure Unit × List LogEntry × Session × Disk :=
  match o.audio with
  | some path =>
    match s.streamRecording d path true with
    | (.ok count, s, d) =>
      (.ok (), [infoLine ("Sent " ++ Numeral.text count ++ " audio frames")], s, d)
    | (.error e, s, d) => (.error (.ofStream e), [], s, d)
  | none =>
    let log := [infoLine ("Sending text: " ++ o.text)]
    match s.listenDetect o.text with
    | (.ok (), s) => (.ok (), log, s, d)
    | (.error e, s) => (.error (.ofSession (.send e)), log, s, d)

/-- Hold one turn in a session: ask, receive the replies, and give the account. -/
def Session.converse (s : Session) (d : Disk) (replies : List InboundFrame) (o : Options)
    (t : TimingSettings) : Except Failure Unit × List LogEntry × Disk :=
  let (s, d) := s.sleep d t.helloSettle.toNat
  match s.request d o with
  | (.error f, log, _, d) => (.error f, log, d)
  | (.ok (), log, s, d) =>
    -- what the server is going to send comes while the caller waits
    let loop := replies.foldl (fun l frame => (l.deliver frame).2) s.loop
    let (s, d) := { s with loop }.settle d
    let (reply, s, d) := s.nextFlush d (t.responseTimeout.toNat * 1000)
    let log := log ++ [replyLine reply]
    match s.close d with
    | (.ok report, _, d) => (.ok (), log ++ report.summary, d)
    | (.error e, _, d) => (.error (.ofSession e), log, d)

/-! ### The program -/

/-- The world a program is started in. -/
structure Surroundings where
  disk : Disk
  environment : List (String × String)
  network : Network
  codec : Codec
  /-- An identifier that nobody else has. -/
  drawn : String

/-- What a run of the program leaves behind. -/
structure RunOutcome where
  exitCode : Nat
  /-- What was asked for by the caller. -/
  output : String := ""
  /-- What was wrong. -/
  complaint : String := ""
  log : List LogEntry := []
  disk : Disk

def Options.run (o : Options) (w : Surroundings) : RunOutcome :=
  match ClientSettings.load w.disk o.config w.environment with
  | .error e => { exitCode := 1, complaint := (Failure.ofLoad e).text, disk := w.disk }
  | .ok loaded =>
    let c := o.overlay loaded
    match Session.connect w.network w.codec c w.drawn 0 with
    | .error e =>
      let failure := (Failure.ofSession e.error).during "Failed to start session"
      { exitCode := 1, complaint := failure.text, log := c.announcement, disk := w.disk }
    | .ok (s, replies) =>
      let (result, log, disk) := s.converse w.disk replies o c.timing
      match result with
      | .ok () => { exitCode := 0, log := c.announcement ++ log, disk }
      | .error f => { exitCode := 1, complaint := f.text, log := c.announcement ++ log, disk }

/-- Run the program with the arguments of its command line. -/
def runCommandLine (arguments : List String) (w : Surroundings) : RunOutcome :=
  match Options.parse arguments with
  | .ok o => o.run w
  | .error .help => { exitCode := 0, output := Options.help, disk := w.disk }
  | .error (.misuse e) => { exitCode := 2, complaint := Options.complaint e, disk := w.disk }

end VoiceLink
