import VoiceLink.Proofs.Session.History

/-!
# Filing finished turns

The disk work of a session as a whole: every finished turn is written to the container of its
number, and its packets to the file beside it where that is asked for. `SessionConfig.fileAll` does
this for a list of turns and says what became of each.

This is the writing half of a session with nothing around it: no router, no frames and no clock.
What a router does to the disk is shown elsewhere to be this, applied to the turns that the history
of its connection finishes. Everything about files can then be proved by induction over turns.
-/

namespace VoiceLink

/-- What became of a finished turn on the disk. -/
structure Filing where
  turn : Turn
  container : Except ContainerError ContainerMetadata
  /-- The dump of the packets; none was made without a container or where none is asked for. -/
  raw : Option (Except ContainerError String)

namespace Filing

def failed (f : Filing) : Bool := !f.container.isOk

/-- How the owner of the session is told. -/
def event (f : Filing) : SessionEvent :=
  match f.container with
  | .ok m => .flushed m
  | .error e => .flushFailed e.message

theorem container_of_toOption {f : Filing} {m : ContainerMetadata}
    (h : f.container.toOption = some m) : f.container = .ok m := by
  cases kept : f.container with
  | error e => simp [kept, Except.toOption] at h
  | ok m' => simpa [kept, Except.toOption] using h

end Filing

/-! ## Turn by turn

A turn whose container was refused has used up its number, and has no dump. -/

namespace SessionConfig

def writer (c : SessionConfig) (k : Nat) : ContainerWriter :=
  { outputDir := c.outputDir, stem := c.deviceId, turnIndex := k }

/-- The accumulator that holds a turn. -/
def accumulated (c : SessionConfig) (t : Turn) : Accumulator :=
  .holding c.outputSampleRate c.outputChannels t.chunks

/-- File a turn as the `k`-th. -/
def file (c : SessionConfig) (k : Nat) (d : Disk) (t : Turn) : Filing × Disk :=
  match (c.writer k).write d (c.accumulated t).snapshot with
  | (.error e, _, d) => ({ turn := t, container := .error e, raw := none }, d)
  | (.ok m, writer, d) =>
    if c.dumpRawOpus then
      let (raw, d) := writer.writeRaw d t.packets
      ({ turn := t, container := .ok m, raw := some raw }, d)
    else ({ turn := t, container := .ok m, raw := none }, d)

/-- File some turns one after the other. -/
def fileAll (c : SessionConfig) (d : Disk) (turns : List Turn) : List Filing × Disk :=
  turns.foldl
    (fun (filings, d) t =>
      let (filing, d) := c.file filings.length d t
      (filings ++ [filing], d))
    ([], d)

variable (c : SessionConfig) (d : Disk)

@[simp]
theorem file_turn (k : Nat) (t : Turn) : (c.file k d t).1.turn = t := by
  unfold file
  split
  · rfl
  · split <;> rfl

@[simp]
theorem write_writer (k : Nat) (s : PcmSnapshot) :
    ((c.writer k).write d s).2.1 = c.writer (k + 1) := by
  simp only [ContainerWriter.write]
  split <;> rfl

variable {c d} in
theorem file_of_error {k : Nat} {t : Turn} {e : ContainerError} {w : ContainerWriter} {d' : Disk}
    (refused : (c.writer k).write d (c.accumulated t).snapshot = (.error e, w, d')) :
    c.file k d t = ({ turn := t, container := .error e, raw := none }, d') := by
  simp only [file, refused]

variable {c d} in
theorem file_of_ok {k : Nat} {t : Turn} {m : ContainerMetadata} {w : ContainerWriter} {d' : Disk}
    (written : (c.writer k).write d (c.accumulated t).snapshot = (.ok m, w, d')) :
    c.file k d t =
      ({ turn := t, container := .ok m
         raw := if c.dumpRawOpus then some (w.writeRaw d' t.packets).1 else none },
        if c.dumpRawOpus then (w.writeRaw d' t.packets).2 else d') := by
  simp only [file, written]
  split <;> rfl

@[simp]
theorem length_fileAll (turns : List Turn) : (c.fileAll d turns).1.length = turns.length := by
  induction turns using List.reverseRecOn with
  | nil => rfl
  | append_singleton turns t ih =>
      simp only [fileAll] at ih
      simp [fileAll, ih]

/-- The last turn is filed on the disk that the turns before it have left. -/
@[simp]
theorem fileAll_concat (turns : List Turn) (t : Turn) :
    c.fileAll d (turns ++ [t]) =
      ((c.fileAll d turns).1 ++ [(c.file turns.length (c.fileAll d turns).2 t).1],
        (c.file turns.length (c.fileAll d turns).2 t).2) := by
  have last : c.fileAll d (turns ++ [t]) =
      ((c.fileAll d turns).1 ++ [(c.file (c.fileAll d turns).1.length (c.fileAll d turns).2 t).1],
        (c.file (c.fileAll d turns).1.length (c.fileAll d turns).2 t).2) := by
    simp [fileAll]
  rw [last, length_fileAll]

/-- Every turn is filed, in order. -/
@[simp]
theorem map_turn_fileAll (turns : List Turn) : (c.fileAll d turns).1.map (·.turn) = turns := by
  induction turns using List.reverseRecOn with
  | nil => rfl
  | append_singleton turns t ih =>
      rw [fileAll_concat]
      simp [ih, file_turn]

end SessionConfig

end VoiceLink
