import VoiceLink.CommandLine.Run
import VoiceLink.Proofs.CommandLine.Arguments
import VoiceLink.Proofs.Settings.Loading

/-!
# Options over the settings

The options of the command line lie over the settings that are loaded, and a run is made with what
comes of that. Below them lie the environment, the file and the initial values, in this order, and
each field is looked up on its own: `settings_layered`.

What the environment and the file give is not computed here but described, field by field, by
relations that do not follow the program (`SettingsEnvironment.Assigns`, `SettingsFile.Gives`). So
the order of the sources is something that is proved, and not how they were merged.
-/

namespace VoiceLink

namespace Options

/-- The values that options give to fields. The one for raw frames gives none: it can only add to
what is loaded. -/
def flag? (o : Options) : SettingsAssignment
  | .url => o.server
  | .deviceId => o.device
  | .listenMode => o.mode
  | .outputDir => o.outputDir
  | .responseTimeout => o.wait
  | _ => none

def runWith (o : Options) (c : ClientSettings) (w : Surroundings) : RunOutcome :=
  match Session.connect w.network w.codec c w.drawn 0 with
  | .error e =>
    let failure := (Failure.ofSession e.error).during "Failed to start session"
    { exitCode := 1, complaint := failure.text, log := c.announcement, disk := w.disk }
  | .ok (s, replies) =>
    let (result, log, disk) := s.converse w.disk replies o c.timing
    match result with
    | .ok () => { exitCode := 0, log := c.announcement ++ log, disk }
    | .error f => { exitCode := 1, complaint := f.text, log := c.announcement ++ log, disk }

variable {o : Options} {c : ClientSettings}

theorem get_overlay {f : SettingsField} (other : f ≠ .dumpRawOpus) :
    (o.overlay c).get f = (o.flag? f).getD (c.get f) := by
  cases f with
  | dumpRawOpus => exact absurd rfl other
  | _ => rfl

theorem dumpRawOpus_overlay :
    (o.overlay c).audio.dumpRawOpus = true ↔ c.audio.dumpRawOpus = true ∨ o.dumpOpus = true :=
  Bool.or_eq_true_iff

/-- A run is made with the settings that are loaded and the options over them. -/
theorem run_eq {w : Surroundings} (h : ClientSettings.load w.disk o.config w.environment = .ok c) :
    o.run w = o.runWith (o.overlay c) w := by
  rw [run, h]
  rfl

end Options

/-- What settings are made of. Each field has the value that the environment gives to it, or else
the one of the file, or else its initial one, so what is given to other fields does not matter to
it. A run has the options of its command line over these settings. -/
theorem settings_layered {d : Disk} {path : Option String} {environment : List (String × String)}
    {fromFile fromVariables : SettingsAssignment} (hfile : SettingsFile.Gives d path fromFile)
    (hvariables : SettingsEnvironment.Assigns environment fromVariables) :
    ∃ c, ClientSettings.load d path environment = .ok c ∧
      (∀ f, c.get f = (fromVariables f).getD ((fromFile f).getD f.initial)) ∧
      (∀ f d' path' environment' fromFile' fromVariables',
        SettingsFile.Gives d' path' fromFile' →
        SettingsEnvironment.Assigns environment' fromVariables' →
        fromFile' f = fromFile f → fromVariables' f = fromVariables f →
        ∃ c', ClientSettings.load d' path' environment' = .ok c' ∧ c'.get f = c.get f) ∧
      (∀ (o : Options) arguments, o.WrittenAs arguments → Options.parse arguments = .ok o) ∧
      ∀ (o : Options) arguments (w : Surroundings), Options.parse arguments = .ok o →
        o.config = path → w.disk = d → w.environment = environment →
        ∃ c', runCommandLine arguments w = o.runWith c' w ∧
          (∀ f, f ≠ .dumpRawOpus → c'.get f = (o.flag? f).getD (c.get f)) ∧
          (c'.audio.dumpRawOpus = true ↔ c.audio.dumpRawOpus = true ∨ o.dumpOpus = true) := by
  have loaded := ClientSettings.load_eq hfile hvariables
  refine ⟨_, loaded, fun f => ClientSettings.get_ofFields _ f, ?_, fun _ _ => Options.parse_written,
    ?_⟩
  · intro f d' path' environment' fromFile' fromVariables' hfile' hvariables' sameFile sameVariables
    refine ⟨_, ClientSettings.load_eq hfile' hvariables', ?_⟩
    rw [ClientSettings.get_ofFields, ClientSettings.get_ofFields, sameFile, sameVariables]
  · rintro o arguments w parsed rfl rfl rfl
    refine ⟨o.overlay _, ?_, fun f => Options.get_overlay, Options.dumpRawOpus_overlay⟩
    rw [runCommandLine, parsed]
    exact Options.run_eq loaded

/-! ### All sources together

A file, an environment and a command line that disagree about some fields and leave others alone. A
field comes from every one of the four places. -/

/-- A file that gives values to two fields of the server and to two of the audio. -/
def benchText : String :=
  "[server]\nurl = \"ws://file/\"\ndevice_id = \"bench\"\n\n[audio]\nsample_rate = 8000\n" ++
    "dump_raw_opus = true\n"

def benchFile : SettingsAssignment
  | .url => some "ws://file/"
  | .deviceId => some "bench"
  | .sampleRate => some (8000 : UInt32)
  | .dumpRawOpus => some true
  | _ => none

/-- A disk with nothing but the file. -/
def benchDisk : Disk where
  tree := { entries := [(["bench.toml"], .file benchText.toUTF8.data.toList)] }
  cwd := []

/-- Variables that give values to a field of the server and to one of the session, and another one.
-/
def benchEnvironment : List (String × String) :=
  [("PATH", "/bin"), ("VOICE_CLIENT__SERVER__URL", "ws://variable/"),
    ("Voice_Client__Session__Idle_Timeout_Secs", "+05")]

/-- What the variables give. -/
def benchVariables : SettingsAssignment
  | .url => some "ws://variable/"
  | .idleTimeout => some (5 : UInt64)
  | _ => none

def benchOptions : Options where
  config := some "bench"
  device := some "phone"
  wait := some 2

def benchSurroundings : Surroundings where
  disk := benchDisk
  environment := benchEnvironment
  network := .offline
  codec := .silent
  drawn := ""

theorem bench_written :
    benchOptions.WrittenAs ["-dphone", "--config", "bench", "--wait=2"] := by
  have plain : IsPlainArgument "bench" := by
    intro c cs h
    cases h
  have two : Numeral.Spells 2 "2" := ⟨[], ['2'], .inl rfl, rfl, by simp, by simp, rfl⟩
  refine ⟨[(.device, "phone", ["-dphone"]), (.config, "bench", ["--config", "bench"]),
    (.wait, "2", ["--wait=2"])], by decide, ?_, rfl, rfl⟩
  intro g hg
  simp only [List.mem_cons, List.not_mem_nil, or_false] at hg
  rcases hg with rfl | rfl | rfl
  · have joined := @OptionName.Writes.letterJoined .device "phone" 'd' rfl rfl
    exact ⟨rfl, joined (by decide) (by decide)⟩
  · exact ⟨rfl, .word rfl plain⟩
  · exact ⟨⟨2, rfl, two⟩, .wordEquals rfl⟩

theorem bench_gives : SettingsFile.Gives benchDisk (some "bench") benchFile := by
  have parsed : Toml.parse benchText = .ok (.table
      [("server", .table [("url", .text "ws://file/"), ("device_id", .text "bench")]),
        ("audio", .table [("sample_rate", .integer 8000), ("dump_raw_opus", .boolean true)])]) := by
    cbv
  refine ⟨"bench.toml", benchText, _, .inr ⟨by decide, rfl, rfl⟩, rfl, parsed, ?_, ?_⟩
  · intro m hm
    rcases List.mem_pair.1 hm with rfl | rfl
    · refine ⟨⟨.url, rfl⟩, _, rfl, fun e he => ?_⟩
      rcases List.mem_pair.1 he with rfl | rfl
      · exact ⟨.url, _, rfl, rfl, rfl, rfl⟩
      · exact ⟨.deviceId, _, rfl, rfl, rfl, rfl⟩
    · refine ⟨⟨.sampleRate, rfl⟩, _, rfl, fun e he => ?_⟩
      rcases List.mem_pair.1 he with rfl | rfl
      · exact ⟨.sampleRate, _, rfl, rfl, rfl, rfl⟩
      · exact ⟨.dumpRawOpus, _, rfl, rfl, rfl, rfl⟩
  · intro f x assigned
    cases f with
    | url => exact ⟨_, _, .head _, .head _⟩
    | deviceId => exact ⟨_, _, .head _, .tail _ (.head _)⟩
    | sampleRate => exact ⟨_, _, .tail _ (.head _), .head _⟩
    | dumpRawOpus => exact ⟨_, _, .tail _ (.head _), .tail _ (.head _)⟩
    | _ => cases assigned

theorem bench_assigns : SettingsEnvironment.Assigns benchEnvironment benchVariables where
  named := by
    have foreign : SettingsEnvironment.IsForeign "PATH" := by
      rw [SettingsEnvironment.IsForeign, ← List.isPrefixOf_iff_prefix]
      decide
    have five : Numeral.Spells 5 "+05" :=
      ⟨['+'], ['0', '5'], .inr rfl, rfl, by simp, by simp, rfl⟩
    intro e he
    simp only [benchEnvironment, List.mem_cons, List.not_mem_nil, or_false] at he
    rcases he with rfl | rfl | rfl
    · exact .inl foreign
    · exact .inr ⟨.url, _, rfl, rfl, rfl⟩
    · exact .inr ⟨.idleTimeout, _, rfl, rfl, five⟩
  assigned := by
    intro f x assigned
    cases f with
    | url => exact ⟨_, .tail _ (.head _), rfl⟩
    | idleTimeout => exact ⟨_, .tail _ (.tail _ (.head _)), rfl⟩
    | _ => cases assigned

theorem settings_layered_everywhere :
    ∃ c c', ClientSettings.load benchDisk (some "bench") benchEnvironment = .ok c ∧
      c.get .url = "ws://variable/" ∧ c.get .deviceId = "bench" ∧ c.get .clientId = .fresh ∧
      c.get .sampleRate = (8000 : UInt32) ∧ c.get .channels = (1 : UInt16) ∧
      c.get .idleTimeout = (5 : UInt64) ∧
      runCommandLine ["-dphone", "--config", "bench", "--wait=2"] benchSurroundings =
        benchOptions.runWith c' benchSurroundings ∧
      c'.get .url = "ws://variable/" ∧ c'.get .deviceId = "phone" ∧
      c'.get .responseTimeout = (2 : UInt64) ∧ c'.audio.dumpRawOpus = true := by
  obtain ⟨c, loaded, fields, -, parse, run⟩ := settings_layered bench_gives bench_assigns
  obtain ⟨c', same, above, raw⟩ :=
    run _ _ benchSurroundings (parse _ _ bench_written) rfl rfl rfl
  refine ⟨c, c', loaded, fields .url, fields .deviceId, fields .clientId, fields .sampleRate,
    fields .channels, fields .idleTimeout, same, ?_, ?_, ?_, raw.2 (.inl (fields .dumpRawOpus))⟩
  · exact (above .url (by decide)).trans (fields .url)
  · exact above .deviceId (by decide)
  · exact above .responseTimeout (by decide)

end VoiceLink
