import VoiceLink.Proofs.Turn.Containers

/-!
# One turn after the other

A writer is asked for containers and dumps, any number of them and in any order, and any of these
may fail. Every container uses up a number, and a dump goes with the container before it. Since the
names of different turns are different places, no call can reach the files of another turn:
`ContainerWriter.run_separate`.

The disk is any disk, and the files of some turns may be there before the writer has begun: nothing
is asked about them, other than that they are left alone by the calls of other turns.
-/

namespace VoiceLink

namespace ContainerWriter

/-! ## Calls -/

/-- What a writer can be asked for. -/
inductive Call where
  /-- The container of the next turn. -/
  | write (s : PcmSnapshot)
  /-- The dump of the turn written last. -/
  | dump (frames : List (List UInt8))

def Call.isWrite : Call → Bool
  | write _ => true
  | dump _ => false

def call (p : ContainerWriter × Disk) : Call → ContainerWriter × Disk
  | .write s => (p.1.write p.2 s).2
  | .dump frames => (p.1, (p.1.writeRaw p.2 frames).2)

/-- Some calls one after the other. -/
def run (p : ContainerWriter × Disk) (calls : List Call) : ContainerWriter × Disk :=
  calls.foldl call p

@[simp]
theorem run_concat (p : ContainerWriter × Disk) (calls : List Call) (c : Call) :
    run p (calls ++ [c]) = call (run p calls) c := by
  simp [run]

/-! ## Numbers

Only the calls count for the numbers, not how they went. -/

/-- A container uses up a number, written or not; a dump does not. -/
theorem call_writer (p : ContainerWriter × Disk) (c : Call) :
    (call p c).1 = { p.1 with turnIndex := p.1.turnIndex + [c].countP Call.isWrite } := by
  cases c with
  | write s => exact write_writer p.1 p.2 s
  | dump frames => rfl

/-- The number of a writer is that of the containers it was asked for. -/
theorem run_writer (w : ContainerWriter) (d : Disk) (calls : List Call) :
    (run (w, d) calls).1 =
      { w with turnIndex := w.turnIndex + calls.countP Call.isWrite } := by
  induction calls using List.reverseRecOn with
  | nil => rfl
  | append_singleton calls c ih =>
      rw [run_concat, call_writer, ih, List.countP_append, Nat.add_assoc]

/-! ## Places

One injectivity for containers, one for dumps and one for both kinds together; a call then has the
files of a turn to itself. That the names begin alike does not matter. -/

def turnOf (w : ContainerWriter) : Call → Nat
  | .write _ => w.turnIndex
  | .dump _ => w.turnIndex - 1

def pathOf (w : ContainerWriter) : Call → String
  | .write _ => w.wavePath w.turnIndex
  | .dump _ => w.rawPath (w.turnIndex - 1)

/-- A call changes the file under its own name, if any. -/
theorem call_grown (p : ContainerWriter × Disk) (c : Call) :
    p.2.Grown [Path.location p.2.cwd (p.1.pathOf c)] (call p c).2 := by
  have more {l : Location} {d' : Disk} (h : p.2.Grown [] d') : p.2.Grown [l] d' :=
    ⟨h.cwd_eq, h.directory, fun l' _ => h.file l' List.not_mem_nil⟩
  cases c with
  | write s =>
      have stored := p.1.write_stored p.2 s
      rw [call]
      generalize p.1.write p.2 s = outcome at stored ⊢
      obtain ⟨result, w', d'⟩ := outcome
      cases stored with
      | failed e grown => exact more grown
      | done m made grown read => exact grown
  | dump frames =>
      have stored := p.1.writeRaw_stored p.2 frames
      rw [call]
      generalize p.1.writeRaw p.2 frames = outcome at stored ⊢
      obtain ⟨result, d'⟩ := outcome
      cases stored with
      | failed e grown => exact more grown
      | done path made grown read => exact grown

/-- What is under the two names of a turn, its container's and its dump's. -/
def files (w : ContainerWriter) (d : Disk) (turn : Nat) :
    Option (List UInt8) × Option (List UInt8) :=
  (d.tree.file? (Path.location d.cwd (w.wavePath turn)),
    d.tree.file? (Path.location d.cwd (w.rawPath turn)))

/-- The names of different turns are different places, and no container is a dump. -/
structure Apart (w : ContainerWriter) (cwd : Location) : Prop where
  containers : Function.Injective fun turn => Path.location cwd (w.wavePath turn)
  dumps : Function.Injective fun turn => Path.location cwd (w.rawPath turn)
  kinds : ∀ j k, Path.location cwd (w.wavePath j) ≠ Path.location cwd (w.rawPath k)

theorem apart (w : ContainerWriter) (cwd : Location) : w.Apart cwd :=
  ⟨w.location_wavePath_injective cwd, w.location_rawPath_injective cwd,
    w.location_wavePath_ne_rawPath cwd⟩

variable {w : ContainerWriter} {cwd : Location} {c : Call} {turn : Nat}

/-- A call has a name of its own turn, and only a call for a container has that of a container. -/
theorem Apart.wavePath_ne (h : w.Apart cwd) (other : c.isWrite = true → turn ≠ w.turnIndex) :
    Path.location cwd (w.wavePath turn) ≠ Path.location cwd (w.pathOf c) := by
  cases c with
  | write s => exact h.containers.ne (other rfl)
  | dump frames => exact h.kinds _ _

theorem Apart.rawPath_ne (h : w.Apart cwd) (other : turn ≠ w.turnOf c) :
    Path.location cwd (w.rawPath turn) ≠ Path.location cwd (w.pathOf c) := by
  cases c with
  | write s => exact (h.kinds _ _).symm
  | dump frames => exact h.dumps.ne other

/-- A call leaves the files of the other turns alone. -/
theorem files_call (p : ContainerWriter × Disk) (c : Call) {turn : Nat}
    (other : turn ≠ p.1.turnOf c) : p.1.files (call p c).2 turn = p.1.files p.2 turn := by
  have grown := call_grown p c
  have apart := p.1.apart p.2.cwd
  have container : Path.location p.2.cwd (p.1.wavePath turn) ∉
      [Path.location p.2.cwd (p.1.pathOf c)] := by
    rw [List.mem_singleton]
    refine apart.wavePath_ne fun written => ?_
    cases c with
    | write s => exact other
    | dump frames => cases written
  have dump : Path.location p.2.cwd (p.1.rawPath turn) ∉
      [Path.location p.2.cwd (p.1.pathOf c)] := by
    rw [List.mem_singleton]
    exact apart.rawPath_ne other
  rw [files, files, grown.cwd_eq, grown.file _ container, grown.file _ dump]

/-! ## Runs

A container that is there is read as before after one more call, and so after any number of them. -/

/-- What can be read of an earlier turn's container is not changed by what is asked for later. -/
theorem run_read {p : ContainerWriter × Disk} {content : List UInt8}
    (earlier : turn < p.1.turnIndex) (hread : p.2.read (p.1.wavePath turn) = .ok content)
    (calls : List Call) : (run p calls).2.read (p.1.wavePath turn) = .ok content := by
  induction calls using List.reverseRecOn with
  | nil => exact hread
  | append_singleton calls c ih =>
      have writer : (run p calls).1 = _ := run_writer p.1 p.2 calls
      have name : (run p calls).1.wavePath turn = p.1.wavePath turn := by rw [writer]; rfl
      rw [run_concat]
      refine (call_grown _ c).read ih ?_
      rw [← name, List.mem_singleton]
      refine ((run p calls).1.apart _).wavePath_ne fun _ => ?_
      rw [writer]
      exact (Nat.lt_of_lt_of_le earlier (Nat.le_add_right _ _)).ne

/-- A container that is written can be read whatever is asked for later. -/
theorem run_written (p : ContainerWriter × Disk) {s : PcmSnapshot} {m : ContainerMetadata}
    (written : (p.1.write p.2 s).1 = .ok m) (later : List Call) :
    m = p.1.metadata s ∧ (run p (.write s :: later)).2.read m.filePath =
      .ok (Wave.header s.sampleRate.toNat s.channels.toNat s.pcm.length ++ s.pcm) := by
  have stored := p.1.write_stored p.2 s
  have next := call_writer p (.write s)
  have first : run p (.write s :: later) = run (call p (.write s)) later := rfl
  rw [first]
  cases outcome : p.1.write p.2 s with
  | mk result p' =>
      rw [outcome] at written stored
      rw [call, outcome] at next ⊢
      dsimp only at written
      subst written
      have metadata : m = p.1.metadata s := write_eq_ok outcome
      cases stored with
      | done m made grown read =>
          have below : p.1.turnIndex < p'.1.turnIndex := by
            rw [next]
            exact Nat.lt_succ_self _
          have name : p'.1.wavePath p.1.turnIndex = m.filePath := by
            rw [next, metadata]
            rfl
          refine ⟨metadata, ?_⟩
          rw [← Wave.encode_eq_ok made, ← name]
          apply run_read below
          rw [name, metadata]
          exact read

/-- **Turns do not overwrite each other.** A new writer has been asked for anything, of which any
part may have failed; `k` containers were among it. The next container has the number `k`, and a
dump that of the container before it. Each of them changes the file under its own name or none, and
the files of the other turns stay as they are. A container that is written can be read whatever is
asked for later. -/
theorem run_separate (outputDir stem : String) (d : Disk) (before : List Call) :
    let w : ContainerWriter := { outputDir, stem }
    let p := run (w, d) before
    let k := before.countP Call.isWrite
    (∀ cwd, w.Apart cwd) ∧
      (∀ s, p.2.Stored (w.wavePath k) (Wave.encode s.pcm s.sampleRate.toNat s.channels.toNat)
          ((p.1.write p.2 s).1, (p.1.write p.2 s).2.2) ∧
        (∀ j, j ≠ k → w.files (p.1.write p.2 s).2.2 j = w.files p.2 j) ∧
        ∀ m, (p.1.write p.2 s).1 = .ok m → m.turnIndex = k ∧ m.filePath = w.wavePath k ∧
          ∀ later, (run p (.write s :: later)).2.read m.filePath =
            .ok (Wave.header s.sampleRate.toNat s.channels.toNat s.pcm.length ++ s.pcm)) ∧
      ∀ frames, p.2.Stored (w.rawPath (k - 1)) (.ok frames.flatten : Except Empty _)
          (p.1.writeRaw p.2 frames) ∧
        (∀ j, j ≠ k - 1 → w.files (p.1.writeRaw p.2 frames).2 j = w.files p.2 j) ∧
        ∀ path, (p.1.writeRaw p.2 frames).1 = .ok path → path = w.rawPath (k - 1) := by
  intro w p k
  -- the writer is the new one but for its number
  have writer : p.1 = { w with turnIndex := k } := by
    have counted : p.1 = { w with turnIndex := 0 + k } := run_writer w d before
    rwa [Nat.zero_add] at counted
  have number : p.1.turnIndex = k := congrArg turnIndex writer
  have container (turn : Nat) : p.1.wavePath turn = w.wavePath turn := by rw [writer]; rfl
  have dump (turn : Nat) : p.1.rawPath turn = w.rawPath turn := by rw [writer]; rfl
  have files : p.1.files = w.files := by rw [writer]; rfl
  clear_value p k
  subst number
  simp only [← container, ← dump, ← files]
  refine ⟨w.apart, fun s => ⟨p.1.write_stored p.2 s, ?_, ?_⟩,
    fun frames => ⟨p.1.writeRaw_stored p.2 frames, ?_, ?_⟩⟩
  · intro j other
    exact files_call p (.write s) other
  · intro m written
    have kept := run_written p written
    obtain ⟨rfl, -⟩ := kept []
    exact ⟨rfl, rfl, fun later => (kept later).2⟩
  · intro j other
    have spared := files_call p (.dump frames) other
    dsimp only [call] at spared
    exact spared
  · intro path written
    cases outcome : p.1.writeRaw p.2 frames with
    | mk result d' =>
        rw [outcome] at written
        dsimp only at written
        subst written
        exact writeRaw_eq_ok outcome

/-- The first container fails, but its turn has a dump. The next one is that of the second turn, and
both files stay. -/
theorem run_separate_failed_write :
    let s : PcmSnapshot :=
      { pcm := [1, 2], sampleRate := 8000, channels := 1, stats := {}, frames := [] }
    let w : ContainerWriter := { outputDir := "out", stem := "dev" }
    let d : Disk :=
      { tree := .empty, cwd := [], faults := fun n => if n = 0 then some .noSpace else none }
    let p := run (w, d) [.write s, .dump [[7]]]
    w.files p.2 0 = (none, some [7]) ∧ w.files (p.1.write p.2 s).2.2 0 = (none, some [7]) ∧
      ∃ m, (p.1.write p.2 s).1 = .ok m ∧ m.turnIndex = 1 ∧
        ∀ later, (run p (.write s :: later)).2.read m.filePath =
          .ok (Wave.header 8000 1 2 ++ [1, 2]) := by
  intro s w d p
  obtain ⟨-, containers, -⟩ := run_separate "out" "dev" d [.write s, .dump [[7]]]
  obtain ⟨-, spared, written⟩ := containers s
  have dumped : w.files p.2 0 = (none, some [7]) := by decide +kernel
  have made : (p.1.write p.2 s).1 = .ok (metadata { w with turnIndex := 1 } s) := by
    decide +kernel
  obtain ⟨index, -, kept⟩ := written _ made
  exact ⟨dumped, (spared 0 (by decide)).trans dumped, _, made, index, kept⟩

end ContainerWriter

end VoiceLink
