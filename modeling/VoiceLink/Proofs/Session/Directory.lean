import VoiceLink.Proofs.Session.Files
import VoiceLink.Proofs.Storage.Front

/-!
# The directory of a session

The files of a session are named after its device, and a device may have any name. Where that has a
slash, only what is behind the last one becomes part of the file's name; what is in front of it
leads from the output directory to another (`SessionConfig.directory`), wherever that may be.
`Loop.run_directory` says that all files of a run are in that directory, that nothing else is
changed but directories on the way there, and that it is the output directory if the name has no
slash.
-/

namespace VoiceLink

namespace ContainerWriter

variable (w : ContainerWriter) (d : Disk)

/-- Writing a container changes nothing but the container and directories on the way. -/
theorem write_within (s : PcmSnapshot) :
    d.Within (Path.OnTheWay d.cwd w.nextPath)
      ((w.write d s).1.toOption.toList.map fun m => Path.location d.cwd m.filePath)
      (w.write d s).2.2 := by
  have within := (d.writeWave_allOrNothing w.nextPath s.pcm s.sampleRate s.channels).within
  unfold write
  generalize d.writeWave w.nextPath s.pcm s.sampleRate s.channels = outcome at within
  obtain ⟨result, d'⟩ := outcome
  cases result <;> exact within

theorem writeRaw_within (frames : List (List UInt8)) :
    d.Within (Path.OnTheWay d.cwd (w.rawPath (w.turnIndex - 1)))
      ((w.writeRaw d frames).1.toOption.toList.map (Path.location d.cwd))
      (w.writeRaw d frames).2 := by
  have within := (d.writeRawFrames_allOrNothing (w.rawPath (w.turnIndex - 1)) frames).within
  unfold writeRaw
  dsimp only
  generalize d.writeRawFrames (w.rawPath (w.turnIndex - 1)) frames = outcome at within
  obtain ⟨result, d'⟩ := outcome
  cases result <;> exact within

end ContainerWriter

/-! ## Filing

The files of a turn share what stands in front of their names, and with it the directory. That goes
for the directories on the way, too: they lead to this one or are this one. -/

namespace SessionConfig

/-- The directory that the files of a session go to. -/
def directory (c : SessionConfig) : String := Path.join c.outputDir (Path.front c.deviceId)

/-- The name of a turn's file in that directory. -/
def fileName (c : SessionConfig) (k : Nat) (ending : String) : String :=
  Path.last c.deviceId ++ ContainerWriter.turnEnding k ending

variable (c : SessionConfig) (cwd : Location) (k : Nat)

theorem location_wavePath :
    Path.location cwd (c.wavePath k) =
      Path.location cwd c.directory ++ [c.fileName k ".wav"] := by
  rw [wavePath, ContainerWriter.wavePath_eq]
  exact Path.location_join _ _ (ContainerWriter.isEnding_turnEnding k (by decide)) cwd

theorem location_rawPath :
    Path.location cwd (c.rawPath k) =
      Path.location cwd c.directory ++ [c.fileName k ".opus.raw"] := by
  rw [rawPath, ContainerWriter.rawPath_eq]
  exact Path.location_join _ _ (ContainerWriter.isEnding_turnEnding k (by decide)) cwd

variable {c cwd k} {l : Location}

theorem along_of_wavePath (h : Path.OnTheWay cwd (c.wavePath k) l) :
    Path.Along cwd c.directory l := by
  rw [wavePath, ContainerWriter.wavePath_eq] at h
  exact Path.along_of_onTheWay _ _ (ContainerWriter.isEnding_turnEnding k (by decide)) h

theorem along_of_rawPath (h : Path.OnTheWay cwd (c.rawPath k) l) :
    Path.Along cwd c.directory l := by
  rw [rawPath, ContainerWriter.rawPath_eq] at h
  exact Path.along_of_onTheWay _ _ (ContainerWriter.isEnding_turnEnding k (by decide)) h

variable {d : Disk}

/-- Filing a turn changes nothing but its files and directories on the way. -/
theorem file_within (k : Nat) (d : Disk) (t : Turn) :
    d.Within (Path.Along d.cwd c.directory)
      ((c.file k d t).1.paths.map (Path.location d.cwd)) (c.file k d t).2 := by
  have first := ((c.writer k).write_within d (c.accumulated t).snapshot).imp
    fun l => along_of_wavePath
  have next := c.write_writer d k (c.accumulated t).snapshot
  cases written : (c.writer k).write d (c.accumulated t).snapshot with
  | mk result rest =>
      obtain ⟨w, d₁⟩ := rest
      rw [written] at first next
      dsimp only at first next
      cases result with
      | error e =>
          rw [file_of_error written]
          exact first
      | ok m =>
          rw [file_of_ok written]
          cases c.dumpRawOpus with
          | false => exact first
          | true =>
              -- the writer that dumps names the turn it has just counted
              have named : w.rawPath (w.turnIndex - 1) = c.rawPath k := by
                rw [next]
                rfl
              cases dumped : w.writeRaw d₁ t.packets with
              | mk result d₂ =>
                  have second := w.writeRaw_within d₁ t.packets
                  rw [dumped, named, first.cwd_eq] at second
                  exact first.trans (second.imp fun l => along_of_rawPath)

/-- Filing turns changes nothing but their files and directories on the way. -/
theorem fileAll_within (d : Disk) (turns : List Turn) :
    d.Within (Path.Along d.cwd c.directory)
      (((c.fileAll d turns).1.flatMap Filing.paths).map (Path.location d.cwd))
      (c.fileAll d turns).2 := by
  induction turns using List.reverseRecOn with
  | nil => exact .refl _ d
  | append_singleton turns t ih =>
      have last := c.file_within turns.length (c.fileAll d turns).2 t
      rw [ih.cwd_eq] at last
      rw [fileAll_concat, List.flatMap_append, List.map_append, List.flatMap_singleton]
      exact ih.trans last

end SessionConfig

/-! ## Runs

The router files what a history finishes, so this is about filing the finished turns of a run. -/

namespace Loop

variable {codec : Codec} {c : SessionConfig} {state : SessionState} {made : Instant} {r : Router}

/-- **The directory of a run.** After any run of a new router, every container in the report and
every dump that succeeded is in one directory, the one that the output directory and what the name
of the device has in front of its last slash lead to. At every other place there is what was there
before, but for directories on the way that were not there. If the name has no slash, that directory
is the output directory. -/
theorem run_directory (created : Router.create codec c state made = .ok r) (d : Disk)
    (next : SessionState) (time : Nat) (mark : TurnMark) (steps : List Step) :
    let w := (Watched.start (r.transition next) d time mark).run steps
    let filings := (c.fileAll d (r.decoder.history w.handled).finished).1
    let containers := w.loop.router.report.containers
    let place := Path.location d.cwd c.directory
    (∀ m ∈ containers, Path.location d.cwd m.filePath =
        place ++ [c.fileName m.turnIndex ".wav"]) ∧
      (∀ (k : Nat) (f : Filing) path, filings[k]? = some f → f.raw = some (.ok path) →
        Path.location d.cwd path = place ++ [c.fileName k ".opus.raw"]) ∧
      (∀ l, (∀ m ∈ containers, l ≠ Path.location d.cwd m.filePath) →
        (∀ f ∈ filings, ∀ path, f.raw = some (.ok path) → l ≠ Path.location d.cwd path) →
        d.tree.Kept (Path.Along d.cwd c.directory) w.disk.tree l) ∧
      ('/' ∉ c.deviceId.toList → place = Path.location d.cwd c.outputDir ∧
        ∀ l, Path.Along d.cwd c.directory l → Path.Along d.cwd c.outputDir l) := by
  intro w filings containers place
  have follows := (Watched.create_follows created d next time mark).run
    (Router.create_supported created).1 steps
  obtain ⟨-, filed⟩ := c.fileAll_onDisk d (r.decoder.history w.handled).finished
  have within := c.fileAll_within d (r.decoder.history w.handled).finished
  rw [← follows.disk_eq] at within
  have reported : containers = filings.filterMap fun f => f.container.toOption :=
    follows.containers_eq
  refine ⟨?_, ?_, ?_, ?_⟩
  · intro m hm
    obtain ⟨k, f, -, kept, filed⟩ := follows.exists_filing hm
    obtain ⟨rfl, path, -⟩ := filed.container m kept
    rw [path, SessionConfig.location_wavePath]
  · intro k f path hf dumped
    obtain ⟨-, -, rfl, -⟩ := (filed k f hf).raw path dumped
    rw [SessionConfig.location_rawPath]
  · intro l hwave hraw
    apply within.kept
    intro mem
    -- a place that may have changed is that of a file that was written, and those are all named
    obtain ⟨path, hpath, rfl⟩ := List.mem_map.1 mem
    obtain ⟨f, hf, hpath⟩ := List.mem_flatMap.1 hpath
    rcases Filing.mem_paths.1 hpath with ⟨m, kept, rfl⟩ | dumped
    · apply hwave m _ rfl
      rw [reported]
      exact List.mem_filterMap.2 ⟨f, hf, by rw [kept]; rfl⟩
    · exact hraw f hf path dumped rfl
  · intro plain
    constructor
    · exact Path.location_join_of_not_mem plain c.outputDir d.cwd
    · intro l
      exact Path.along_join_of_not_mem plain c.outputDir

/-- A device named after its address has no slash in its name. -/
theorem run_directory_address :
    let c : SessionConfig := { deviceId := "aa:bb", outputSampleRate := 8000 }
    '/' ∉ c.deviceId.toList ∧
      ∃ r, Router.create .silent c .active 0 = .ok r ∧
        ∃ m ∈ ((Watched.start (r.transition .active) { tree := .empty, cwd := [] } 0 {}).run
          [.deliver (.binary [0xe0]), .poll,
            .deliver (.text "\x7b\"type\":\"tts\",\"state\":\"stop\"\x7d"),
            .poll]).loop.router.report.containers,
          Path.location [] m.filePath =
            Path.location [] "recordings" ++ ["aa:bb-turn-000.wav"] := by
  intro c
  have created : ∃ r, Router.create .silent c .active 0 = .ok r := ⟨_, rfl⟩
  obtain ⟨r, created⟩ := created
  obtain ⟨placed, -, -, plain⟩ := run_directory created { tree := .empty, cwd := [] } .active 0 {}
    [.deliver (.binary [0xe0]), .poll,
      .deliver (.text "\x7b\"type\":\"tts\",\"state\":\"stop\"\x7d"), .poll]
  have slash : '/' ∉ c.deviceId.toList := by decide
  have name : c.fileName 0 ".wav" = "aa:bb-turn-000.wav" := by decide +kernel
  refine ⟨slash, r, created, ⟨0, "recordings/aa:bb-turn-000.wav", 8000, 1, 20, 40, 1⟩, ?_⟩
  cases created
  have located := placed ⟨0, "recordings/aa:bb-turn-000.wav", 8000, 1, 20, 40, 1⟩
    (by decide +kernel)
  rw [(plain slash).1, name] at located
  exact ⟨by decide +kernel, located⟩

/-- The name of a device that has two points and slashes leads out of the output directory: a
directory is made beside it, and the container is put there. -/
theorem run_outside_directory :
    let c : SessionConfig :=
      { deviceId := "../up/x", outputDir := "out", outputSampleRate := 8000 }
    ∃ r, Router.create .silent c .active 0 = .ok r ∧
      let w := (Watched.start r { tree := .empty, cwd := [] } 0 {}).run
        [.deliver (.binary [0xe0]), .poll,
          .deliver (.text "\x7b\"type\":\"tts\",\"state\":\"stop\"\x7d"), .poll]
      w.loop.router.report.containers =
          [⟨0, "out/../up/x-turn-000.wav", 8000, 1, 20, 40, 1⟩] ∧
        Path.location [] "out/../up/x-turn-000.wav" = ["up", "x-turn-000.wav"] ∧
        Path.location [] c.outputDir = ["out"] ∧
        w.disk.tree.find? ["up"] = some .directory ∧ w.disk.tree.below ["out"] = [] := by
  intro c
  refine ⟨_, rfl, ?_⟩
  intro w
  refine ⟨by decide +kernel, by decide +kernel, by decide +kernel, by decide +kernel, ?_⟩
  decide +kernel

end Loop

end VoiceLink
