import VoiceLink.Proofs.Session.Conservation
import VoiceLink.Proofs.Session.Runs
import VoiceLink.Proofs.Turn.Containers

/-!
# The files of a session

A session writes one file for each turn that was finished and, where that is asked for, another with
the packets. `Loop.run_files` says what is on the disk after any run: the files that the report
names and the dumps that succeeded, each with what it is to hold; apart from these, every file is as
it was before the session, and there is no other.

A file that was written is only safe if no later turn writes to its path, and a dump is made after
the container it stands beside. Both come down to the names: the paths of a session are all
different.
-/

namespace VoiceLink

/-! ## Filing

One turn at first, then one after the other. What is on the disk after a turn stays there while the
next ones are filed, because they have other paths. -/

namespace SessionConfig

/-- Where the container of the `k`-th turn goes. -/
def wavePath (c : SessionConfig) (k : Nat) : String := (c.writer k).wavePath k

/-- Where the packets of the `k`-th turn go. -/
def rawPath (c : SessionConfig) (k : Nat) : String := (c.writer k).rawPath k

theorem location_wavePath_inj {c : SessionConfig} {cwd : Location} {j k : Nat} :
    Path.location cwd (c.wavePath j) = Path.location cwd (c.wavePath k) ↔ j = k :=
  (ContainerWriter.location_wavePath_injective (c.writer 0) cwd).eq_iff

theorem location_rawPath_inj {c : SessionConfig} {cwd : Location} {j k : Nat} :
    Path.location cwd (c.rawPath j) = Path.location cwd (c.rawPath k) ↔ j = k :=
  (ContainerWriter.location_rawPath_injective (c.writer 0) cwd).eq_iff

theorem location_wavePath_ne_rawPath (c : SessionConfig) (cwd : Location) (j k : Nat) :
    Path.location cwd (c.wavePath j) ≠ Path.location cwd (c.rawPath k) :=
  (c.writer 0).location_wavePath_ne_rawPath cwd j k

end SessionConfig

namespace Filing

def paths (f : Filing) : List String :=
  (f.container.toOption.map (·.filePath)).toList ++ (f.raw.bind Except.toOption).toList

theorem mem_paths {f : Filing} {path : String} :
    path ∈ f.paths ↔
      (∃ m, f.container = .ok m ∧ m.filePath = path) ∨ f.raw = some (.ok path) := by
  rw [paths, List.mem_append, Option.mem_toList, Option.mem_toList]
  cases f.container with
  | error e => cases f.raw with
    | none => simp [Except.toOption]
    | some result => cases result <;> simp [Except.toOption]
  | ok m => cases f.raw with
    | none => simp [Except.toOption]
    | some result => cases result <;> simp [Except.toOption]

/-- What was filed as the `k`-th turn is on the disk. -/
structure OnDisk (c : SessionConfig) (k : Nat) (d : Disk) (f : Filing) : Prop where
  container : ∀ m, f.container = .ok m →
    m.turnIndex = k ∧ m.filePath = c.wavePath k ∧
      d.read m.filePath = .ok (Wave.header c.outputSampleRate.toNat c.outputChannels.toNat
        f.turn.pcm.length ++ f.turn.pcm)
  raw : ∀ path, f.raw = some (.ok path) →
    f.failed = false ∧ c.dumpRawOpus = true ∧ path = c.rawPath k ∧
      d.read path = .ok f.turn.packets.flatten

variable {c : SessionConfig} {k : Nat} {d d' : Disk} {f : Filing}

theorem OnDisk.path_eq (h : f.OnDisk c k d) {path : String} (hpath : path ∈ f.paths) :
    path = c.wavePath k ∨ path = c.rawPath k := by
  rcases mem_paths.1 hpath with ⟨m, kept, rfl⟩ | dumped
  · exact .inl (h.container m kept).2.1
  · exact .inr (h.raw path dumped).2.2.1

/-- What is on the disk stays there while only other files are written. -/
theorem OnDisk.grown {places : List Location} (h : f.OnDisk c k d) (grown : d.Grown places d')
    (hwave : Path.location d.cwd (c.wavePath k) ∉ places)
    (hraw : Path.location d.cwd (c.rawPath k) ∉ places) : f.OnDisk c k d' where
  container m kept := by
    obtain ⟨hindex, hpath, hread⟩ := h.container m kept
    exact ⟨hindex, hpath, grown.read hread (hpath ▸ hwave)⟩
  raw path kept := by
    obtain ⟨written, asked, hpath, hread⟩ := h.raw path kept
    exact ⟨written, asked, hpath, grown.read hread (hpath ▸ hraw)⟩

/-- The packets are put beside the container, which stays. -/
theorem OnDisk.dump {t : Turn} {m : ContainerMetadata} (h : OnDisk c k d ⟨t, .ok m, none⟩)
    (asked : c.dumpRawOpus = true) {result : Except ContainerError String}
    (dumped : (c.writer (k + 1)).writeRaw d t.packets = (result, d')) :
    d.Grown (result.toOption.toList.map (Path.location d.cwd)) d' ∧
      OnDisk c k d' ⟨t, .ok m, some result⟩ := by
  have stored := (c.writer (k + 1)).writeRaw_stored d t.packets
  have container {places : List Location} {d' : Disk} (grown : d.Grown places d')
      (other : Path.location d.cwd (c.wavePath k) ∉ places) :
      ∀ m', Except.ok (ε := ContainerError) m = .ok m' →
        m'.turnIndex = k ∧ m'.filePath = c.wavePath k ∧
          d'.read m'.filePath = .ok (Wave.header c.outputSampleRate.toNat
            c.outputChannels.toNat t.pcm.length ++ t.pcm) := by
    intro m' kept
    obtain ⟨hindex, hpath, hread⟩ := h.container m' kept
    exact ⟨hindex, hpath, grown.read hread (hpath ▸ other)⟩
  have rawPath : (c.writer (k + 1)).rawPath ((c.writer (k + 1)).turnIndex - 1) = c.rawPath k := rfl
  rw [dumped, rawPath] at stored
  cases stored with
  | failed e grown => exact ⟨grown, ⟨container grown List.not_mem_nil, nofun⟩⟩
  | done path made grown read =>
      have hpath : path = c.rawPath k := (ContainerWriter.writeRaw_eq_ok dumped).trans rawPath
      refine ⟨hpath ▸ grown, ⟨container grown ?_, ?_⟩⟩
      · rw [List.mem_singleton]
        exact c.location_wavePath_ne_rawPath d.cwd k k
      · rintro path' ⟨⟩
        rw [hpath, Except.ok.inj made]
        exact ⟨rfl, asked, rfl, read⟩

end Filing

namespace SessionConfig

variable {c : SessionConfig}

/-- Filing a turn writes its files and no others. -/
theorem file_onDisk (k : Nat) (d : Disk) (t : Turn) :
    d.Grown ((c.file k d t).1.paths.map (Path.location d.cwd)) (c.file k d t).2 ∧
      (c.file k d t).1.OnDisk c k (c.file k d t).2 := by
  have stored := (c.writer k).write_stored d (c.accumulated t).snapshot
  have next := c.write_writer d k (c.accumulated t).snapshot
  cases written : (c.writer k).write d (c.accumulated t).snapshot with
  | mk result rest =>
      obtain ⟨w, d₁⟩ := rest
      rw [written] at stored next
      dsimp only at stored next
      cases stored with
      | failed e grown =>
          rw [file_of_error written]
          exact ⟨grown, ⟨nofun, nofun⟩⟩
      | done m made grown read =>
          have metadata := ContainerWriter.write_eq_ok written
          have hpath : m.filePath = c.wavePath k := by
            rw [metadata]
            rfl
          have hread : d₁.read m.filePath = .ok (Wave.header c.outputSampleRate.toNat
              c.outputChannels.toNat t.pcm.length ++ t.pcm) := by
            rw [← c.pcm_accumulated t, hpath]
            exact Wave.encode_eq_ok made ▸ read
          have hindex : m.turnIndex = k := by
            rw [metadata]
            rfl
          have kept : Filing.OnDisk c k d₁ ⟨t, .ok m, none⟩ := by
            refine ⟨?_, nofun⟩
            rintro m' ⟨⟩
            exact ⟨hindex, hpath, hread⟩
          have first : d.Grown [Path.location d.cwd m.filePath] d₁ := hpath ▸ grown
          rw [file_of_ok written]
          cases asked : c.dumpRawOpus with
          | false => exact ⟨first, kept⟩
          | true =>
              -- the writer that dumps has counted the turn already, and names the one before
              cases dumped : w.writeRaw d₁ t.packets with
              | mk result d₂ =>
                  obtain ⟨second, both⟩ := kept.dump asked (next ▸ dumped)
                  rw [first.cwd_eq] at second
                  exact ⟨first.trans second, both⟩

/-- Filing turns writes their files and no others, and none is overwritten by a later one. -/
theorem fileAll_onDisk (d : Disk) (turns : List Turn) :
    d.Grown (((c.fileAll d turns).1.flatMap Filing.paths).map (Path.location d.cwd))
        (c.fileAll d turns).2 ∧
      ∀ (k : Nat) (f : Filing), (c.fileAll d turns).1[k]? = some f →
        f.OnDisk c k (c.fileAll d turns).2 := by
  induction turns using List.reverseRecOn with
  | nil => exact ⟨Disk.Grown.refl d, nofun⟩
  | append_singleton turns t ih =>
      obtain ⟨before, kept⟩ := ih
      obtain ⟨grown, filed⟩ := c.file_onDisk turns.length (c.fileAll d turns).2 t
      rw [fileAll_concat, List.flatMap_append, List.map_append, List.flatMap_singleton]
      constructor
      · rw [before.cwd_eq] at grown
        exact before.trans grown
      · intro k f hf
        dsimp only at hf
        rw [List.getElem?_append, length_fileAll] at hf
        split at hf
        · next earlier =>
          have other (path : String) (hpath : path = c.wavePath k ∨ path = c.rawPath k) :
              Path.location (c.fileAll d turns).2.cwd path ∉
                (c.file turns.length (c.fileAll d turns).2 t).1.paths.map
                  (Path.location (c.fileAll d turns).2.cwd) := by
            intro mem
            obtain ⟨last, hlast, same⟩ := List.mem_map.1 mem
            -- the last turn has another number, and a dump is no container
            rcases filed.path_eq hlast with rfl | rfl <;> rcases hpath with rfl | rfl
            · exact absurd (location_wavePath_inj.1 same) earlier.ne'
            · exact location_wavePath_ne_rawPath c _ _ _ same
            · exact location_wavePath_ne_rawPath c _ _ _ same.symm
            · exact absurd (location_rawPath_inj.1 same) earlier.ne'
          exact (kept k f hf).grown grown (other _ (.inl rfl)) (other _ (.inr rfl))
        · next last =>
          obtain ⟨hk, rfl⟩ : k - turns.length = 0 ∧ _ = f := by
            simpa [List.getElem?_singleton] using hf
          have hk : k = turns.length := by omega
          exact hk ▸ filed

end SessionConfig

/-! ## Runs

What is left is to find the filed turn behind each container of the report and each entry about a
dump. -/

namespace Loop

/-- A container in the report is that of a turn that was filed, and is on the disk. -/
theorem Watched.Follows.exists_filing {c : SessionConfig} {d : Disk} {decoder : Decoder}
    {w : Watched} (hw : w.Follows c d decoder) {m : ContainerMetadata}
    (hm : m ∈ w.loop.router.report.containers) :
    ∃ (k : Nat) (f : Filing),
      (c.fileAll d (decoder.history w.handled).finished).1[k]? = some f ∧
        f.container = .ok m ∧ f.OnDisk c k w.disk := by
  rw [hw.containers_eq] at hm
  obtain ⟨f, hf, kept⟩ := List.mem_filterMap.1 hm
  obtain ⟨k, hk⟩ := List.mem_iff_getElem?.1 hf
  refine ⟨k, f, hk, Filing.container_of_toOption kept, ?_⟩
  rw [hw.disk_eq]
  exact (c.fileAll_onDisk d _).2 k f hk

variable {codec : Codec} {c : SessionConfig} {state : SessionState} {made : Instant} {r : Router}

/-- **The files of a run.** After any run of a new router, whatever it was sent and however it
ended, the file of each container in the report holds the audio of its turn; the file of each dump
that succeeded holds all packets of the turn, and the turn has a container; and at every other place
there is the file that was there before, or none. -/
theorem run_files (created : Router.create codec c state made = .ok r) (d : Disk)
    (next : SessionState) (time : Nat) (mark : TurnMark) (steps : List Step) :
    let w := (Watched.start (r.transition next) d time mark).run steps
    let turns := (r.decoder.history w.handled).finished
    let filings := (c.fileAll d turns).1
    let containers := w.loop.router.report.containers
    (∀ m ∈ containers, ∃ t, turns[m.turnIndex]? = some t ∧ m.filePath = c.wavePath m.turnIndex ∧
        w.disk.read m.filePath = .ok (Wave.header c.outputSampleRate.toNat
          c.outputChannels.toNat t.pcm.length ++ t.pcm)) ∧
      (∀ (k : Nat) (f : Filing) path, filings[k]? = some f → f.raw = some (.ok path) →
        c.dumpRawOpus = true ∧ path = c.rawPath k ∧ (∃ m ∈ containers, m.turnIndex = k) ∧
          ∃ t, turns[k]? = some t ∧ w.disk.read path = .ok t.packets.flatten) ∧
      ∀ l, (∀ m ∈ containers, l ≠ Path.location d.cwd m.filePath) →
        (∀ f ∈ filings, ∀ path, f.raw = some (.ok path) → l ≠ Path.location d.cwd path) →
        w.disk.tree.file? l = d.tree.file? l := by
  intro w turns filings containers
  obtain ⟨supported, -⟩ := Router.create_supported created
  have follows := (Watched.create_follows created d next time mark).run supported steps
  have hcontainers : containers = filings.filterMap fun f => f.container.toOption :=
    follows.containers_eq
  have hdisk : w.disk = (c.fileAll d turns).2 := follows.disk_eq
  obtain ⟨grown, filed⟩ := c.fileAll_onDisk d turns
  rw [← hdisk] at grown filed
  have turn_eq {k : Nat} {f : Filing} (hf : filings[k]? = some f) : turns[k]? = some f.turn := by
    rw [← c.map_turn_fileAll d turns, List.getElem?_map]
    exact congrArg (Option.map (·.turn)) hf
  refine ⟨?_, ?_, ?_⟩
  · intro m hm
    rw [hcontainers] at hm
    obtain ⟨f, hf, kept⟩ := List.mem_filterMap.1 hm
    obtain ⟨k, hk⟩ := List.mem_iff_getElem?.1 hf
    obtain ⟨rfl, hpath, hread⟩ := (filed k f hk).container m (Filing.container_of_toOption kept)
    exact ⟨f.turn, turn_eq hk, hpath, hread⟩
  · intro k f path hf dumped
    obtain ⟨written, asked, hpath, hread⟩ := (filed k f hf).raw path dumped
    refine ⟨asked, hpath, ?_, f.turn, turn_eq hf, hread⟩
    cases kept : f.container with
    | error e => simp [Filing.failed, kept, Except.isOk, Except.toBool] at written
    | ok m =>
        refine ⟨m, ?_, ((filed k f hf).container m kept).1⟩
        rw [hcontainers]
        exact List.mem_filterMap.2 ⟨f, List.mem_of_getElem? hf, by rw [kept]; rfl⟩
  · intro l hwave hraw
    apply grown.file
    intro mem
    -- the place is that of a file that was written, and those are all named
    obtain ⟨path, hpath, rfl⟩ := List.mem_map.1 mem
    obtain ⟨f, hf, hpath⟩ := List.mem_flatMap.1 hpath
    rcases Filing.mem_paths.1 hpath with ⟨m, kept, rfl⟩ | dumped
    · refine hwave m ?_ rfl
      rw [hcontainers]
      exact List.mem_filterMap.2 ⟨f, hf, by rw [kept]; rfl⟩
    · exact hraw f hf path dumped rfl

/-- A turn of one packet is finished, then the session is cancelled: its container can be read. -/
theorem run_files_one_turn :
    ∃ r, Router.create .silent { outputSampleRate := 8000, dumpRawOpus := true } .active 0 = .ok r ∧
      ((Watched.start (r.transition .active) { tree := .empty, cwd := [] } 0 {}).run
        [.deliver (.binary [0xe0]), .poll,
          .deliver (.text "\x7b\"type\":\"tts\",\"state\":\"stop\"\x7d"), .poll,
          .cancel, .poll]).disk.read "recordings/test-device-001-turn-000.wav" =
        .ok (Wave.header 8000 1 40 ++ List.replicate 40 0) := by
  have created : ∃ r, Router.create .silent { outputSampleRate := 8000, dumpRawOpus := true }
      .active 0 = .ok r := ⟨_, rfl⟩
  obtain ⟨r, created⟩ := created
  obtain ⟨written, -, -⟩ := run_files created { tree := .empty, cwd := [] } .active 0 {}
    [.deliver (.binary [0xe0]), .poll,
      .deliver (.text "\x7b\"type\":\"tts\",\"state\":\"stop\"\x7d"), .poll, .cancel, .poll]
  refine ⟨r, created, ?_⟩
  cases created
  obtain ⟨t, first, -, hread⟩ := written
    ⟨0, "recordings/test-device-001-turn-000.wav", 8000, 1, 20, 40, 1⟩ (by decide +kernel)
  have turn : t = ⟨[[0xe0]], [([0xe0], ⟨List.replicate 40 0, 20⟩)]⟩ :=
    Option.some.inj (first.symm.trans rfl)
  rw [turn] at hread
  exact hread

end Loop

end VoiceLink
