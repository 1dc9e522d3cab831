import VoiceLink.Proofs.Basic
import VoiceLink.Proofs.Storage.Beside

/-!
# What saving a file changes

A file is saved by way of a temporary one. Every operation on the way may fail, and may be the last
that others see. `Disk.save_allOrNothing` says what they can find at any time: under the path there
is what was there before or the complete content, and elsewhere there is nothing new but directories
on the way. What later proofs need of this is less (`Disk.Grown`, `Disk.Stored`): the content can be
read, and every other file is as it was.

Trees are compared place by place, and the relation between the tree before and the tree after is
one of three: directories have been made (`Kept`), a temporary file is there besides (`Holding`),
and the file is in its place (`Placed`). `Passes` extends each of these to all the trees in between.
-/

namespace VoiceLink

namespace FileTree

variable {way : Location → Prop} {t t' t'' : FileTree} {l : Location}

/-! ## Trees before and after -/

/-- A place has what it had, or had nothing and is now a directory on the way. -/
def Kept (way : Location → Prop) (t t' : FileTree) (l : Location) : Prop :=
  t'.find? l = t.find? l ∨ (way l ∧ t.find? l = none ∧ t'.find? l = some .directory)

theorem Kept.trans (h : t.Kept way t' l) (h' : t'.Kept way t'' l) : t.Kept way t'' l := by
  rcases h' with same | ⟨hway, free, made⟩
  · rcases h with before | ⟨hway, free, made⟩
    · exact .inl (same.trans before)
    · exact .inr ⟨hway, free, same.trans made⟩
  · rcases h with before | ⟨-, -, there⟩
    · exact .inr ⟨hway, before ▸ free, made⟩
    · cases there.symm.trans free

theorem Kept.directory (h : t.Kept way t' l) (hl : t.find? l = some .directory) :
    t'.find? l = some .directory := by
  rcases h with same | ⟨-, -, made⟩
  · exact same.trans hl
  · exact made

/-- A new directory is no file. -/
theorem Kept.file (h : t.Kept way t' l) : t'.file? l = t.file? l := by
  rcases h with same | ⟨-, free, made⟩
  · exact file?_of_find? same
  · rw [file?, file?, free, made]

theorem Kept.put_directory {place : Location} (hway : way place) (free : t.find? place = none)
    (l : Location) : t.Kept way (t.put place .directory) l := by
  by_cases here : l = place
  · have root : place ≠ [] := by
      rintro rfl
      cases free
    rw [here]
    exact .inr ⟨hway, free, find?_put_self root⟩
  · exact .inl (find?_put_of_ne here)

/-- Tree `t'` is tree `t` but for what is at one location. -/
def SameBut (t : FileTree) (location : Location) (t' : FileTree) : Prop :=
  ∀ l, l ≠ location → t'.find? l = t.find? l

/-- Tree `t'` is tree `t` with a file at a location where that has nothing. -/
structure Holding (t : FileTree) (location : Location) (content : List UInt8) (t' : FileTree) :
    Prop where
  free : t.find? location = none
  temporary : t'.find? location = some (.file content)
  other : t.SameBut location t'

namespace Holding

variable {location : Location} {content : List UInt8}

theorem ne_nil (h : t.Holding location content t') : location ≠ [] := by
  rintro rfl
  cases h.free

/-- There is no directory where the file is. -/
theorem ne_of_directory (h : t.Holding location content t')
    (hl : t'.find? l = some .directory) : l ≠ location := by
  rintro rfl
  cases h.temporary.symm.trans hl

/-- The file is not in the way of any directory. -/
theorem directory (h : t.Holding location content t') (hl : t.find? l = some .directory) :
    t'.find? l = some .directory := by
  have other : l ≠ location := by
    rintro rfl
    cases h.free.symm.trans hl
  rw [h.other l other, hl]

/-- The file gets another content. -/
theorem put (h : t.Holding location content t') (more : List UInt8) :
    t.Holding location more (t'.put location (.file more)) where
  free := h.free
  temporary := find?_put_self h.ne_nil
  other l hl := by rw [find?_put_of_ne hl, h.other l hl]

/-- Without the file there is nothing new. -/
theorem find?_erase (h : t.Holding location content t') (l : Location) :
    (t'.erase location).find? l = t.find? l := by
  by_cases here : l = location
  · rw [here, find?_erase_self h.ne_nil, h.free]
  · rw [find?_erase_of_ne here, h.other l here]

end Holding

end FileTree

namespace Disk

/-! ## Operations and the trees between them

An operation is a step from one tree to another, or none. `past` holds all trees that there have
been, so a statement about the disk at any time is one about these. -/

/-- A disk comes from another by operations that leave the working directory alone, and every tree
from the first to the last is such that `P`. -/
structure Passes (P : FileTree → Prop) (d d' : Disk) : Prop where
  cwd_eq : d'.cwd = d.cwd
  tree : P d'.tree
  past : ∃ trees, d'.past = trees ++ d.past ∧ ∀ t ∈ trees, P t

variable {P Q : FileTree → Prop} {d d' d'' : Disk}

namespace Passes

theorem refl (now : P d.tree) : d.Passes P d := ⟨rfl, now, [], rfl, nofun⟩

theorem trans (h : d.Passes P d') (h' : d'.Passes P d'') : d.Passes P d'' := by
  obtain ⟨trees, past, each⟩ := h.past
  obtain ⟨more, since, every⟩ := h'.past
  refine ⟨h'.cwd_eq.trans h.cwd_eq, h'.tree, more ++ trees, ?_, ?_⟩
  · rw [since, past, List.append_assoc]
  · intro t ht
    rcases List.mem_append.1 ht with ht | ht
    · exact every t ht
    · exact each t ht

theorem imp (h : d.Passes P d') (weaker : ∀ t, P t → Q t) : d.Passes Q d' := by
  obtain ⟨trees, past, each⟩ := h.past
  exact ⟨h.cwd_eq, weaker _ h.tree, trees, past, fun t ht => weaker t (each t ht)⟩

/-- One change of the tree. -/
theorem step (now : P d.tree) (cwd : d'.cwd = d.cwd) (past : d'.past = d.tree :: d.past)
    (next : P d'.tree) : d.Passes P d' := by
  refine ⟨cwd, next, [d.tree], past, ?_⟩
  rintro t (_ | _)
  · exact now
  · contradiction

end Passes

/-- An operation that succeeds has changed the tree. -/
theorem attempt_eq_ok {change : FileTree → Except OsError FileTree}
    (h : d.attempt change = (.ok (), d')) :
    change d.tree = .ok d'.tree ∧ d'.cwd = d.cwd ∧ d'.past = d.tree :: d.past := by
  unfold attempt at h
  cases fault : d.faults d.past.length with
  | some e => simp [fault] at h
  | none =>
      cases changed : change d.tree with
      | error e => simp [fault, changed] at h
      | ok t =>
          simp only [fault, changed, Prod.mk.injEq, true_and] at h
          rw [← h]
          exact ⟨rfl, rfl, rfl⟩

/-- An operation that fails leaves the tree as it was. -/
theorem attempt_eq_error {change : FileTree → Except OsError FileTree} {e : OsError}
    (h : d.attempt change = (.error e, d')) :
    d'.tree = d.tree ∧ d'.cwd = d.cwd ∧ d'.past = d.tree :: d.past := by
  unfold attempt at h
  cases fault : d.faults d.past.length with
  | some e =>
      simp only [fault, Prod.mk.injEq] at h
      rw [← h.2]
      exact ⟨rfl, rfl, rfl⟩
  | none =>
      cases changed : change d.tree with
      | error e =>
          simp only [fault, changed, Prod.mk.injEq] at h
          rw [← h.2]
          exact ⟨rfl, rfl, rfl⟩
      | ok t => simp [fault, changed] at h

/-- Whatever comes of an operation, it goes from one tree to the next. -/
theorem attempt_passes (now : P d.tree) {change : FileTree → Except OsError FileTree}
    (next : ∀ t, change d.tree = .ok t → P t) {result : Except OsError Unit}
    (h : d.attempt change = (result, d')) : d.Passes P d' := by
  cases result with
  | ok u =>
      obtain ⟨changed, cwd, past⟩ := attempt_eq_ok h
      exact .step now cwd past (next _ changed)
  | error e =>
      obtain ⟨same, cwd, past⟩ := attempt_eq_error h
      exact .step now cwd past (same ▸ now)

/-! ### Directories

Directories are made from the outside in, and the path is gone over from its end, so the recursion
goes to the directory above and comes back. -/

section Directories

variable {base : FileTree} {way : Location → Prop} {absolute : Bool}

theorem makeDirectory_passes (now : ∀ l, base.Kept way d.tree l) {steps : List String}
    (hway : steps ≠ ["."] → way ((d.start absolute).follow steps)) :
    d.Passes (fun t => ∀ l, base.Kept way t l) (d.makeDirectory absolute steps).2 := by
  unfold makeDirectory
  split
  · exact .refl now
  · refine attempt_passes now ?_ (Prod.eta _).symm
    intro t made l
    obtain ⟨free, rfl, moves⟩ := FileTree.makeDirectory_eq_ok made
    exact (now l).trans (.put_directory (hway moves) free l)

theorem makeOrKeep_passes (now : ∀ l, base.Kept way d.tree l) {steps : List String}
    (hway : steps ≠ ["."] → way ((d.start absolute).follow steps)) :
    d.Passes (fun t => ∀ l, base.Kept way t l) (d.makeOrKeep absolute steps).2 := by
  have passes := makeDirectory_passes now hway
  unfold makeOrKeep
  split
  · next made =>
    rw [made] at passes
    exact passes
  · next made =>
    rw [made] at passes
    split <;> exact passes

/-- Only directories on the way are made. -/
theorem makeDirectories_passes (now : ∀ l, base.Kept way d.tree l) {reversed : List String}
    (hway : ∀ names, names <+: reversed.reverse → names ≠ [] → names ≠ ["."] →
      way ((d.start absolute).follow names)) :
    d.Passes (fun t => ∀ l, base.Kept way t l) (d.makeDirectories absolute reversed).2 := by
  induction reversed generalizing d with
  | nil => exact .refl now
  | cons name above ih =>
      rw [List.reverse_cons] at hway
      have whole := hway (above.reverse ++ [name]) List.prefix_rfl (by simp)
      have upper (names : List String) (h : names <+: above.reverse) :=
        hway names (h.trans (List.prefix_append _ _))
      have first := makeDirectory_passes now whole
      rw [makeDirectories]
      split
      · next missing =>
        -- the directories above are made first, and then this one again
        rw [missing] at first
        have same := congrArg (fun cwd => if absolute then [] else cwd) first.cwd_eq
        have above := ih first.tree fun names h some moves => by
          rw [start, same]
          exact upper names h some moves
        split
        · next made =>
          rw [made] at above
          have both := first.trans above
          have here := congrArg (fun cwd => if absolute then [] else cwd) both.cwd_eq
          refine both.trans (makeOrKeep_passes both.tree fun moves => ?_)
          rw [start, here]
          exact whole moves
        · next failed =>
          rw [failed] at above
          exact first.trans above
      · next made =>
        rw [made] at first
        exact first
      · next failed =>
        rw [failed] at first
        split <;> exact first

end Directories

/-! ### The temporary file

The temporary file is beside the path and not at it. While it is filled, which takes several
operations, everything else is as it was. -/

theorem temporaryName_injective : Function.Injective temporaryName := by
  intro i j h
  refine Numeral.text_injective ?_
  simpa [temporaryName, String.ext_iff] using h

/-- There is a free name: there are more names to try than names that are taken. -/
theorem freeName_free (t : FileTree) (directory : Location) (own : Option String) :
    t.find? (directory ++ [freeName t directory own]) = none ∧
      own ≠ some (freeName t directory own) := by
  cases found : (List.range (t.entries.length + 2)).find? fun i =>
      !(own = some (temporaryName i) || (t.find? (directory ++ [temporaryName i])).isSome) with
  | some i =>
      have free := List.find?_some found
      rw [freeName, found, Option.getD_some]
      simpa [and_comm] using free
  | none =>
      -- if all were taken, there would be more different places than entries and one
      exfalso
      let places := (List.range (t.entries.length + 2)).map fun i => directory ++ [temporaryName i]
      let known := own.toList.map (fun name => directory ++ [name]) ++ t.entries.map (·.1)
      have distinct : places.Nodup := by
        refine List.nodup_range.map fun i j h => temporaryName_injective ?_
        simpa using h
      have taken : places ⊆ known := by
        intro l hl
        obtain ⟨i, hi, rfl⟩ := List.mem_map.1 hl
        have some := List.find?_eq_none.1 found i hi
        have root : directory ++ [temporaryName i] ≠ [] := by simp
        rw [FileTree.find?, if_neg root] at some
        by_cases same : own = Option.some (temporaryName i)
        · exact List.mem_append_left _ (by simp [same])
        · obtain ⟨e, entry⟩ : ∃ e, (directory ++ [temporaryName i], e) ∈ t.entries := by
            simpa [same] using some
          exact List.mem_append_right _ (List.mem_map.2 ⟨_, entry, rfl⟩)
      have few := (List.Nodup.subperm distinct taken).length_le
      have one : own.toList.length ≤ 1 := by cases own <;> simp
      simp only [places, known, List.length_map, List.length_range, List.length_append] at few
      omega

section Temporary

variable {base : FileTree} {location : Location} {path : String} {content : List UInt8}

/-- A temporary file is made where there is nothing, and not where the path leads. -/
theorem createTemporary_eq_ok (h : d.createTemporary path = (.ok location, d')) :
    location ≠ Path.location d.cwd path ∧ d.tree.Holding location [] d'.tree ∧
      d.Passes (d.tree.SameBut location) d' := by
  unfold createTemporary at h
  split at h
  · cases h
  · next directory walked =>
    obtain ⟨free, own⟩ := freeName_free d.tree directory (Path.components path).getLast?
    dsimp only at h
    split at h
    · next made =>
      cases h
      obtain ⟨changed, cwd, past⟩ := attempt_eq_ok made
      split at changed
      -- the name was free, so the file is new
      · have tree := (Except.ok.inj changed).symm
        have holding : d.tree.Holding
            (directory ++ [freeName d.tree directory (Path.components path).getLast?]) []
            d'.tree := by
          rw [tree]
          exact
            { free
              temporary := FileTree.find?_put_self (by simp)
              other := fun l hl => FileTree.find?_put_of_ne hl }
        refine ⟨?_, holding, .step (fun l _ => rfl) cwd past holding.other⟩
        rw [FileTree.walk_eq_ok walked] at own ⊢
        exact (location_ne_temporary own).symm
      · cases changed
    · cases h

theorem createTemporary_eq_error {e : OsError} (now : P d.tree)
    (h : d.createTemporary path = (.error e, d')) : d'.tree = d.tree ∧ d.Passes P d' := by
  unfold createTemporary at h
  split at h
  · cases h
    exact ⟨rfl, .refl now⟩
  · dsimp only at h
    split at h
    · cases h
    · next failed =>
      cases h
      obtain ⟨same, cwd, past⟩ := attempt_eq_error failed
      exact ⟨same, .step now cwd past (same ▸ now)⟩

/-- While a temporary file is written, it may have any content. -/
theorem fillTo_holding {lengths : List Nat} {before : List UInt8} {result : Except OsError Unit}
    (holding : base.Holding location before d.tree)
    (h : d.fillTo location content lengths = (result, d')) :
    (∃ now, base.Holding location now d'.tree ∧
      (result = .ok () → now = (lengths.getLast?.map content.take).getD before)) ∧
        d.Passes (base.SameBut location) d' := by
  induction lengths generalizing d before with
  | nil =>
      cases h
      exact ⟨⟨before, holding, fun _ => rfl⟩, .refl holding.other⟩
  | cons length lengths ih =>
      rw [fillTo] at h
      split at h
      · next written =>
        obtain ⟨changed, cwd, past⟩ := attempt_eq_ok written
        have next := holding.put (content.take length)
        rw [Except.ok.inj changed] at next
        obtain ⟨⟨now, last, complete⟩, passes⟩ := ih next h
        refine ⟨⟨now, last, fun done => ?_⟩,
          Passes.trans (.step holding.other cwd past next.other) passes⟩
        rw [complete done, List.getLast?_cons]
        cases lengths.getLast? <;> rfl
      · next failed =>
        cases h
        obtain ⟨same, cwd, past⟩ := attempt_eq_error failed
        rw [← same] at holding
        exact ⟨⟨before, holding, nofun⟩, .step (same ▸ holding.other) cwd past holding.other⟩

/-- A temporary file that has been filled has the whole content. -/
theorem fill_holding {before : List UInt8} {result : Except OsError Unit}
    (holding : base.Holding location before d.tree)
    (h : d.fill location content = (result, d')) :
    (∃ now, base.Holding location now d'.tree ∧ (result = .ok () → now = content)) ∧
      d.Passes (base.SameBut location) d' := by
  obtain ⟨⟨now, last, complete⟩, passes⟩ := fillTo_holding holding h
  refine ⟨⟨now, last, fun done => ?_⟩, passes⟩
  rw [complete done, lengthsTo, List.getLast?_concat]
  exact List.take_length

theorem sync_passes (now : P d.tree) {result : Except OsError Unit} (h : d.sync = (result, d')) :
    d'.tree = d.tree ∧ d.Passes P d' := by
  have same : d'.tree = d.tree := by
    cases result with
    | ok u => exact (Except.ok.inj (attempt_eq_ok h).1).symm
    | error e => exact (attempt_eq_error h).1
  refine ⟨same, attempt_passes now ?_ h⟩
  rintro t ⟨⟩
  exact now

/-- The tree after a temporary file was moved to where a path leads. -/
structure Placed (base : FileTree) (cwd : Location) (path : String) (content : List UInt8)
    (d : Disk) : Prop where
  free : base.find? (Path.location cwd path) ≠ some .directory
  here : d.tree.find? (Path.location cwd path) = some (.file content)
  other : base.SameBut (Path.location cwd path) d.tree
  read : d.read path = .ok content

/-- The file is moved to its place, and can be read there. -/
theorem moveInto_placed (holding : base.Holding location content d.tree)
    (apart : location ≠ Path.location d.cwd path)
    (h : d.moveInto location path = (.ok (), d')) : Placed base d.cwd path content d' := by
  obtain ⟨changed, cwd, -⟩ := attempt_eq_ok h
  obtain ⟨place, htarget, moved⟩ := bind_eq_ok.1 changed
  rw [holding.temporary] at moved
  have htree : d'.tree = (d.tree.erase location).put place (.file content) :=
    (Except.ok.inj moved).symm
  obtain ⟨usable, slash, walked, free, root⟩ := FileTree.target_eq_ok htarget
  have hplace : place = Path.location d.cwd path := FileTree.walk_eq_ok walked
  have here : d'.tree.find? place = some (.file content) := by
    rw [htree, FileTree.find?_put_self root]
  have there {l : Location} (hl : l ≠ place) : d'.tree.find? l = base.find? l := by
    rw [htree, FileTree.find?_put_of_ne hl, holding.find?_erase]
  -- a file does not take the place of a directory
  have vacant : d.tree.find? place ≠ some .directory := by
    intro taken
    simp [FileTree.isDirectory, taken] at free
  refine ⟨?_, hplace ▸ here, hplace ▸ fun l => there, ?_⟩
  · rw [← hplace, ← holding.other place (hplace ▸ apart.symm)]
    exact vacant
  · -- the walk to the place only needs directories, and these are all still there
    have kept : ∀ l, d.tree.find? l = some .directory → d'.tree.find? l = some .directory := by
      intro l hl
      have other : l ≠ place := by
        rintro rfl
        exact vacant hl
      rw [there other, ← holding.other l (holding.ne_of_directory hl), hl]
    rw [Disk.read, cwd, FileTree.read_eq_ok_iff]
    exact ⟨usable, slash, place, FileTree.walk_of_kept kept walked, here⟩

end Temporary

/-! ## Saving

All the parts one after the other. Every one of them may end the whole. -/

/-- Under a path there is the file that was there before, or none as before, or the whole new
content. -/
def Whole {δ : Type} (before : FileTree) (cwd : Location) (path : String)
    (content : Except δ (List UInt8)) (t : FileTree) : Prop :=
  t.file? (Path.location cwd path) = before.file? (Path.location cwd path) ∨
    ∃ bytes, content = .ok bytes ∧ t.file? (Path.location cwd path) = some bytes

/-- All or nothing: what an operation that is to put `content` under a path has done to a disk, and
what others can find there at any time. -/
structure AllOrNothing {δ ε α : Type} (d : Disk) (path : String) (content : Except δ (List UInt8))
    (outcome : Except ε α × Disk) : Prop where
  /-- If it fails, there is nothing new but directories on the way. -/
  failed : ∀ e, outcome.1 = .error e →
    ∀ l, d.tree.Kept (Path.OnTheWay d.cwd path) outcome.2.tree l
  /-- If it succeeds, the content is under the path, where no directory was, and elsewhere there is
  nothing new but directories on the way. -/
  done : ∀ a, outcome.1 = .ok a → ∃ bytes, content = .ok bytes ∧ outcome.2.read path = .ok bytes ∧
    outcome.2.tree.find? (Path.location d.cwd path) = some (.file bytes) ∧
    d.tree.find? (Path.location d.cwd path) ≠ some .directory ∧
    ∀ l, l ≠ Path.location d.cwd path →
      d.tree.Kept (Path.OnTheWay d.cwd path) outcome.2.tree l
  /-- At no time is a part of the content under the path. -/
  between : d.Passes (Whole d.tree d.cwd path content) outcome.2

section Saving

variable {base : FileTree} {location : Location} {path : String} {bytes : List UInt8} {ε : Type}

/-- What a call of `complete` has done to a tree that is `base` but for a temporary file: the file
is still there, or it was moved. -/
theorem complete_holding {before : List UInt8} {synced : Bool}
    (holding : base.Holding location before d.tree) (apart : location ≠ Path.location d.cwd path)
    {result : Except (SaveError ε) Unit}
    (h : d.complete location path bytes synced = (result, d')) :
    (∀ e, result = .error e → (∃ now, base.Holding location now d'.tree) ∧
        d.Passes (base.SameBut location) d') ∧
      (result = .ok () → Placed base d.cwd path bytes d' ∧
        d.Passes (fun t => base.SameBut location t ∨ t = d'.tree) d') := by
  unfold complete at h
  split at h
  · next filled =>
    cases h
    obtain ⟨⟨now, last, -⟩, passes⟩ := fill_holding holding filled
    exact ⟨fun _ _ => ⟨⟨now, last⟩, passes⟩, nofun⟩
  · next d₁ filled =>
    obtain ⟨⟨now, last, complete⟩, writing⟩ := fill_holding holding filled
    rw [complete rfl] at last
    -- waiting for the device changes nothing, whether it is asked for or not
    have waited {result : Except OsError Unit} {d₂ : Disk}
        (h : (if synced then d₁.sync else (.ok (), d₁)) = (result, d₂)) :
        d₂.tree = d₁.tree ∧ d₁.Passes (base.SameBut location) d₂ := by
      split at h
      · exact sync_passes last.other h
      · cases h
        exact ⟨rfl, .refl last.other⟩
    split at h
    · next reached =>
      cases h
      obtain ⟨same, passes⟩ := waited reached
      exact ⟨fun _ _ => ⟨⟨_, same ▸ last⟩, writing.trans passes⟩, nofun⟩
    · next d₂ reached =>
      obtain ⟨same, passes⟩ := waited reached
      have written := writing.trans passes
      rw [← same] at last
      split at h
      · next moved =>
        cases h
        obtain ⟨same, cwd, past⟩ := attempt_eq_error moved
        have next := written.trans (.step last.other cwd past (same ▸ last.other))
        exact ⟨fun _ _ => ⟨⟨_, same ▸ last⟩, next⟩, nofun⟩
      · next moved =>
        cases h
        obtain ⟨-, cwd, past⟩ := attempt_eq_ok moved
        have placed := moveInto_placed last (written.cwd_eq ▸ apart) moved
        rw [written.cwd_eq] at placed
        refine ⟨nofun, fun _ => ⟨placed, ?_⟩⟩
        exact (written.imp fun t => .inl).trans (.step (.inl last.other) cwd past (.inr rfl))

theorem removeTemporary_same {before : List UInt8}
    (holding : base.Holding location before d.tree) :
    (∀ l, (d.removeTemporary location).tree.find? l = base.find? l) ∧
      d.Passes (base.SameBut location) (d.removeTemporary location) :=
  ⟨holding.find?_erase, .step holding.other rfl rfl fun l _ => holding.find?_erase l⟩

theorem AllOrNothing.of_failed {δ α : Type} {content : Except δ (List UInt8)} (e : ε)
    (kept : ∀ l, d.tree.Kept (Path.OnTheWay d.cwd path) d'.tree l)
    (between : d.Passes (Whole d.tree d.cwd path content) d') :
    d.AllOrNothing path content ((.error e, d') : Except ε α × Disk) :=
  ⟨fun _ _ => kept, nofun, between⟩

/-- Only whether an operation succeeds matters, and not what it gives. -/
theorem AllOrNothing.of_same {δ δ' α α' : Type} {content : Except δ (List UInt8)}
    {result : Except ε α} {result' : Except δ' α'}
    (h : d.AllOrNothing path content (result, d'))
    (failed : ∀ e, result' = .error e → ∃ e', result = .error e')
    (done : ∀ a, result' = .ok a → ∃ a', result = .ok a') :
    d.AllOrNothing path content (result', d') where
  failed e he := by
    obtain ⟨e', same⟩ := failed e he
    exact h.failed e' same
  done a ha := by
    obtain ⟨a', same⟩ := done a ha
    exact h.done a' same
  between := h.between

/-- **Saving.** Whatever is done and whatever goes wrong, it is all or nothing. -/
theorem save_allOrNothing (d : Disk) (path : String) (content : Except ε (List UInt8))
    (synced : Bool) : d.AllOrNothing path content (d.save path content synced) := by
  let Made (t : FileTree) : Prop := ∀ l, d.tree.Kept (Path.OnTheWay d.cwd path) t l
  have above :
      d.Passes Made (d.makeDirectories (besideAbsolute path) (beside path).reverse).2 := by
    apply makeDirectories_passes fun l => .inl rfl
    intro names h
    rw [List.reverse_reverse] at h
    exact onTheWay_of_beside h
  have whole_made (t : FileTree) (made : Made t) : Whole d.tree d.cwd path content t :=
    .inl (made _).file
  unfold save
  split
  · next made =>
    rw [made] at above
    exact .of_failed _ above.tree (above.imp whole_made)
  · next d₁ made =>
    rw [made] at above
    have first := above.imp whole_made
    split
    · next failed =>
      obtain ⟨-, passes⟩ := createTemporary_eq_error (show Made d₁.tree from above.tree) failed
      exact .of_failed _ passes.tree ((above.trans passes).imp whole_made)
    · next location d₂ created =>
      obtain ⟨apart, holding, creating⟩ := createTemporary_eq_ok created
      rw [above.cwd_eq] at apart
      have whole_same (t : FileTree) (same : d₁.tree.SameBut location t) :
          Whole d.tree d.cwd path content t :=
        .inl ((FileTree.file?_of_find? (same _ apart.symm)).trans (above.tree _).file)
      have second := first.trans (creating.imp whole_same)
      -- from here on, every failure has the temporary file removed
      have removed {d₃ : Disk} {before : List UInt8} (e : SaveError ε)
          (left : d₁.tree.Holding location before d₃.tree)
          (since : d.Passes (Whole d.tree d.cwd path content) d₃) :
          d.AllOrNothing path content
            ((.error e, d₃.removeTemporary location) : Except (SaveError ε) Unit × Disk) := by
        obtain ⟨same, last⟩ := removeTemporary_same left
        refine .of_failed e (fun l => ?_) (since.trans (last.imp whole_same))
        exact (above.tree l).trans (.inl (same l))
      split
      · exact removed _ holding second
      · next bytes =>
        have here : location ≠ Path.location d₂.cwd path := by
          rw [second.cwd_eq]
          exact apart
        split
        · next failed =>
          obtain ⟨error, -⟩ := complete_holding holding here failed
          obtain ⟨⟨now, left⟩, passes⟩ := error _ rfl
          exact removed _ left (second.trans (passes.imp whole_same))
        · next d₃ completed =>
          obtain ⟨-, done⟩ := complete_holding holding here completed
          obtain ⟨placed, passes⟩ := done rfl
          rw [second.cwd_eq] at placed
          refine ⟨nofun, fun _ _ => ⟨bytes, rfl, placed.read, placed.here, ?_, ?_⟩, ?_⟩
          · intro taken
            exact placed.free ((above.tree _).directory taken)
          · intro l hl
            exact (above.tree l).trans (.inl (placed.other l hl))
          · refine second.trans (passes.imp fun t ht => ?_)
            rcases ht with same | rfl
            · exact whole_same t same
            · exact .inr ⟨bytes, rfl, FileTree.file?_eq_some.2 placed.here⟩

theorem complete_eq_error {d d' : Disk} {synced : Bool} {e : SaveError ε}
    (h : d.complete location path bytes synced = (.error e, d')) :
    (∃ o, e = .io o) ∨ ∃ o, e = .persist o := by
  unfold complete at h
  split at h
  · cases h
    exact .inl ⟨_, rfl⟩
  · split at h
    · cases h
      exact .inl ⟨_, rfl⟩
    · split at h
      · cases h
        exact .inr ⟨_, rfl⟩
      · cases h

/-- Content that can be made is not what keeps it from being saved. -/
theorem save_of_content (d : Disk) (path : String) (bytes : List UInt8) (synced : Bool)
    {e : SaveError ε} (h : (d.save path (.ok bytes) synced).1 = .error e) :
    (∃ o, e = .io o) ∨ ∃ o, e = .persist o := by
  unfold save at h
  cases made : d.makeDirectories (besideAbsolute path) (beside path).reverse with
  | mk result d₁ =>
      cases result with
      | error o =>
          simp only [made] at h
          cases h
          exact .inl ⟨o, rfl⟩
      | ok u =>
          simp only [made] at h
          cases created : d₁.createTemporary path with
          | mk result d₂ =>
              cases result with
              | error o =>
                  simp only [created] at h
                  cases h
                  exact .inl ⟨o, rfl⟩
              | ok location =>
                  simp only [created] at h
                  cases completed : (d₂.complete location path bytes synced :
                      Except (SaveError ε) Unit × Disk) with
                  | mk result d₃ =>
                      rw [completed] at h
                      cases result with
                      | ok u => cases h
                      | error e' =>
                          cases h
                          exact complete_eq_error completed

end Saving

/-! ## What later proofs need

Once a save is over, the trees in between are of no interest, and most of the rest can be forgotten
too. -/

/-- What operations may do to a disk: make directories, and change the files at some places. -/
structure Grown (places : List Location) (d d' : Disk) : Prop where
  cwd_eq : d'.cwd = d.cwd
  directory : ∀ l, d.tree.find? l = some .directory → d'.tree.find? l = some .directory
  file : ∀ l, l ∉ places → d'.tree.file? l = d.tree.file? l

namespace Grown

variable {places more : List Location} {d d' d'' : Disk}

theorem refl (d : Disk) : d.Grown [] d := ⟨rfl, fun _ h => h, fun _ _ => rfl⟩

theorem trans (h : d.Grown places d') (h' : d'.Grown more d'') : d.Grown (places ++ more) d'' where
  cwd_eq := h'.cwd_eq.trans h.cwd_eq
  directory l hl := h'.directory l (h.directory l hl)
  file l hl := by
    rw [List.mem_append, not_or] at hl
    exact (h'.file l hl.2).trans (h.file l hl.1)

/-- What can be read can still be read if nothing was changed there. -/
theorem read {path : String} {content : List UInt8} (h : d.Grown places d')
    (hread : d.read path = .ok content) (other : Path.location d.cwd path ∉ places) :
    d'.read path = .ok content := by
  rw [Disk.read, h.cwd_eq]
  refine FileTree.read_of_kept h.directory hread ?_
  rw [h.file _ other]
  exact FileTree.read_eq_ok hread

end Grown

/-- What operations may do to a disk: make directories on the way, and change what is at some
places. -/
structure Within (way : Location → Prop) (places : List Location) (d d' : Disk) : Prop where
  cwd_eq : d'.cwd = d.cwd
  kept : ∀ l, l ∉ places → d.tree.Kept way d'.tree l

namespace Within

variable {way way' : Location → Prop} {places more : List Location} {d d' d'' : Disk}

theorem refl (way : Location → Prop) (d : Disk) : d.Within way [] d :=
  ⟨rfl, fun _ _ => .inl rfl⟩

theorem trans (h : d.Within way places d') (h' : d'.Within way more d'') :
    d.Within way (places ++ more) d'' where
  cwd_eq := h'.cwd_eq.trans h.cwd_eq
  kept l hl := by
    rw [List.mem_append, not_or] at hl
    exact (h.kept l hl.1).trans (h'.kept l hl.2)

theorem imp (h : d.Within way places d') (wider : ∀ l, way l → way' l) :
    d.Within way' places d' where
  cwd_eq := h.cwd_eq
  kept l hl := (h.kept l hl).imp_right fun ⟨hway, free, made⟩ => ⟨wider l hway, free, made⟩

end Within

/-- What is done all or not at all stays on the way to the path, and under it if it is done. -/
theorem AllOrNothing.within {δ ε α : Type} {path : String} {content : Except δ (List UInt8)}
    {outcome : Except ε α × Disk} (h : d.AllOrNothing path content outcome) :
    d.Within (Path.OnTheWay d.cwd path)
      (outcome.1.toOption.toList.map fun _ => Path.location d.cwd path) outcome.2 := by
  obtain ⟨result, d'⟩ := outcome
  refine ⟨h.between.cwd_eq, ?_⟩
  intro l hl
  cases result with
  | error e => exact h.failed e rfl l
  | ok a =>
      obtain ⟨bytes, -, -, -, -, kept⟩ := h.done a rfl
      exact kept l fun here => hl (List.mem_singleton.2 here)

/-- What an operation has done that is to put `content` under a path: it has failed and every file
is as it was, or the content is there and every other file is as it was. -/
inductive Stored {δ ε α : Type} (d : Disk) (path : String) (content : Except δ (List UInt8)) :
    Except ε α × Disk → Prop where
  | failed (e : ε) {d' : Disk} (grown : d.Grown [] d') : Stored d path content (.error e, d')
  | done (a : α) {d' : Disk} {bytes : List UInt8} (made : content = .ok bytes)
      (grown : d.Grown [Path.location d.cwd path] d') (read : d'.read path = .ok bytes) :
      Stored d path content (.ok a, d')

/-- What is done all or not at all is stored if it is done. -/
theorem AllOrNothing.stored {δ ε α : Type} {path : String} {content : Except δ (List UInt8)}
    {outcome : Except ε α × Disk} (h : d.AllOrNothing path content outcome) :
    d.Stored path content outcome := by
  obtain ⟨result, d'⟩ := outcome
  have cwd : d'.cwd = d.cwd := h.between.cwd_eq
  cases result with
  | error e =>
      have kept := h.failed e rfl
      exact .failed e ⟨cwd, fun l => (kept l).directory, fun l _ => (kept l).file⟩
  | ok a =>
      obtain ⟨bytes, made, read, here, free, kept⟩ := h.done a rfl
      refine .done a made ⟨cwd, ?_, ?_⟩ read
      · intro l hl
        have other : l ≠ Path.location d.cwd path := by
          rintro rfl
          exact free hl
        exact (kept l other).directory hl
      · intro l hl
        rw [List.mem_singleton] at hl
        exact (kept l hl).file

end Disk

end VoiceLink
