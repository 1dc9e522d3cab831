import VoiceLink.Proofs.Storage.Saving

/-!
# Saving where the device does not fail

On a device that does not fail, the tree decides whether a file can be saved. It decides by where
directories and files are and not by what is in them (`FileTree.Alike`), so what is to be saved has
no say in it: `Disk.save_of_steady` puts any two contents side by side, of whatever lengths.

The proof runs two saves side by side. They make the same calls up to the length of what is written,
which takes a different number of operations; from there on the trees are alike.
-/

namespace VoiceLink

namespace FileTree

/-- Trees that have directories and files at the same places, whatever is in the files. -/
def Alike (t t' : FileTree) : Prop :=
  ∀ l, t'.find? l = t.find? l ∨
    ∃ before now, t.find? l = some (.file before) ∧ t'.find? l = some (.file now)

namespace Alike

variable {t t' t'' : FileTree}

theorem refl (t : FileTree) : t.Alike t := fun _ => .inl rfl

theorem trans (h : t.Alike t') (h' : t'.Alike t'') : t.Alike t'' := by
  intro l
  rcases h l with same | ⟨before, now, here, there⟩
  · rcases h' l with same' | ⟨before, now, here, there⟩
    · exact .inl (same'.trans same)
    · exact .inr ⟨before, now, same ▸ here, there⟩
  · rcases h' l with same' | ⟨-, last, -, there'⟩
    · exact .inr ⟨before, now, here, same'.trans there⟩
    · exact .inr ⟨before, last, here, there'⟩

/-- A file is overwritten. -/
theorem put {location : Location} {before : List UInt8}
    (here : t.find? location = some (.file before)) (now : List UInt8) :
    t.Alike (t.put location (.file now)) := by
  intro l
  by_cases same : l = location
  · have root : location ≠ [] := by
      rintro rfl
      cases here
    rw [same]
    exact .inr ⟨before, now, here, find?_put_self root⟩
  · exact .inl (find?_put_of_ne same)

variable (h : t.Alike t')

include h in
theorem step_eq (l : Location) (name : String) : t'.step l name = t.step l name := by
  unfold step
  rcases h l with same | ⟨before, now, here, there⟩
  · rw [same]
  · rw [here, there]

include h in
theorem walk_eq (l : Location) (names : List String) : t'.walk l names = t.walk l names := by
  induction names generalizing l with
  | nil => rfl
  | cons name names ih =>
      rw [walk, walk, h.step_eq]
      cases t.step l name with
      | error e => rfl
      | ok next => exact ih next

include h in
theorem isDirectory_eq (l : Location) : t'.isDirectory l = t.isDirectory l := by
  unfold isDirectory
  rcases h l with same | ⟨before, now, here, there⟩
  · rw [same]
  · rw [here, there]
    rfl

include h in
/-- Where a file may be put does not depend on what is in the files. -/
theorem target_eq (cwd : Location) (path : String) : t'.target cwd path = t.target cwd path := by
  simp only [target, h.walk_eq, h.step_eq, h.isDirectory_eq]

end Alike

end FileTree

namespace Disk

/-! ## Operations on a steady device

Without failures in store, the result of an operation is that of the change of the tree. -/

def Steady (d : Disk) : Prop := ∀ n, d.faults n = none

variable {d d' : Disk}

@[simp]
theorem attempt_faults (d : Disk) (change : FileTree → Except OsError FileTree) :
    (d.attempt change).2.faults = d.faults := by
  unfold attempt
  dsimp only
  split
  · rfl
  · split <;> rfl

/-- On a steady device, an operation does what it does to the tree. -/
theorem attempt_of_steady (steady : d.Steady) (change : FileTree → Except OsError FileTree) :
    (d.attempt change).1 = (change d.tree).map fun _ => () := by
  unfold attempt
  rw [steady]
  cases change d.tree <;> rfl

/-- What an operation that is possible leaves behind on a steady device. -/
theorem exists_attempt (steady : d.Steady) (change : FileTree → Except OsError FileTree)
    {t : FileTree} (possible : change d.tree = .ok t) :
    ∃ d', d.attempt change = (.ok (), d') ∧ d'.tree = t ∧ d'.cwd = d.cwd ∧ d'.Steady := by
  have done : (d.attempt change).1 = .ok () := by
    rw [attempt_of_steady steady, possible]
    rfl
  obtain ⟨changed, cwd, -⟩ := attempt_eq_ok (Prod.ext done rfl)
  refine ⟨_, Prod.ext done rfl, Except.ok.inj (changed.symm.trans possible), cwd, ?_⟩
  intro n
  rw [attempt_faults]
  exact steady n

/-! ### Directories and the temporary file

The first part of a save does not know what is to be saved. All that has to be seen is that the
device stays steady, as its failures are counted off operation by operation. -/

@[simp]
theorem makeDirectory_faults (d : Disk) (absolute : Bool) (steps : List String) :
    (d.makeDirectory absolute steps).2.faults = d.faults := by
  unfold makeDirectory
  split
  · rfl
  · exact attempt_faults d _

@[simp]
theorem makeOrKeep_faults (d : Disk) (absolute : Bool) (steps : List String) :
    (d.makeOrKeep absolute steps).2.faults = d.faults := by
  have first := d.makeDirectory_faults absolute steps
  unfold makeOrKeep
  split
  · next made =>
    rw [made] at first
    exact first
  · next failed =>
    rw [failed] at first
    split <;> exact first

@[simp]
theorem makeDirectories_faults (d : Disk) (absolute : Bool) (reversed : List String) :
    (d.makeDirectories absolute reversed).2.faults = d.faults := by
  induction reversed generalizing d with
  | nil => rfl
  | cons name above ih =>
      have first := d.makeDirectory_faults absolute (above.reverse ++ [name])
      rw [makeDirectories]
      split
      · next d₁ missing =>
        rw [missing] at first
        have upper := ih d₁
        split
        · next d₂ made =>
          rw [made] at upper
          rw [makeOrKeep_faults, upper]
          exact first
        · next failed =>
          rw [failed] at upper
          exact upper.trans first
      · next made =>
        rw [made] at first
        exact first
      · next failed =>
        rw [failed] at first
        split <;> exact first

theorem createTemporary_faults {location : Location} {path : String}
    (h : d.createTemporary path = (.ok location, d')) : d'.faults = d.faults := by
  unfold createTemporary at h
  split at h
  · cases h
  · dsimp only at h
    split at h
    · next made =>
      cases h
      rw [← attempt_faults d, made]
    · cases h

/-! ### Filling the file and moving it

From here on two contents have disks of their own. What they have in common is `Refilled`. -/

/-- A steady device on which nothing has changed but what is in the files, and where there is a file
at a location. -/
structure Refilled (location : Location) (d d' : Disk) : Prop where
  steady : d'.Steady
  cwd_eq : d'.cwd = d.cwd
  alike : d.tree.Alike d'.tree
  file : ∃ now, d'.tree.find? location = some (.file now)

section Filling

variable {location : Location} {before : List UInt8}

theorem fillTo_of_steady (steady : d.Steady)
    (here : d.tree.find? location = some (.file before)) (content : List UInt8)
    (lengths : List Nat) :
    ∃ d', d.fillTo location content lengths = (.ok (), d') ∧ d.Refilled location d' := by
  induction lengths generalizing d before with
  | nil => exact ⟨d, rfl, steady, rfl, .refl _, before, here⟩
  | cons length lengths ih =>
      obtain ⟨d₁, written, tree, cwd, steady⟩ :=
        exists_attempt steady (fun t => .ok (t.put location (.file (content.take length)))) rfl
      have root : location ≠ [] := by
        rintro rfl
        cases here
      have next : d₁.tree.find? location = some (.file (content.take length)) := by
        rw [tree, FileTree.find?_put_self root]
      obtain ⟨d₂, filled, last⟩ := ih steady next
      refine ⟨d₂, ?_, last.steady, last.cwd_eq.trans cwd, ?_, last.file⟩
      · rw [fillTo, written]
        exact filled
      · refine FileTree.Alike.trans ?_ last.alike
        rw [tree]
        exact .put here _

/-- A temporary file can be filled with anything; what is left to fail is the move. -/
theorem complete_of_steady {ε : Type} (steady : d.Steady)
    (here : d.tree.find? location = some (.file before)) (path : String) (content : List UInt8)
    (synced : Bool) :
    (d.complete location path content synced : Except (SaveError ε) Unit × Disk).1 =
      ((d.tree.target d.cwd path).map fun _ => ()).mapError .persist := by
  obtain ⟨d₁, filled, first⟩ := fillTo_of_steady steady here content (lengthsTo content.length)
  -- waiting for the device changes nothing
  obtain ⟨d₂, waited, second⟩ :
      ∃ d₂, (if synced then d₁.sync else (.ok (), d₁)) = (.ok (), d₂) ∧
        d.Refilled location d₂ := by
    cases synced with
    | false => exact ⟨d₁, rfl, first⟩
    | true =>
        obtain ⟨d₂, waited, tree, cwd, steady⟩ := exists_attempt first.steady .ok rfl
        refine ⟨d₂, waited, steady, cwd.trans first.cwd_eq, ?_, ?_⟩
        · rw [tree]
          exact first.alike
        · rw [tree]
          exact first.file
  obtain ⟨now, there⟩ := second.file
  have moved : (d₂.moveInto location path).1 = (d.tree.target d.cwd path).map fun _ => () := by
    rw [moveInto, attempt_of_steady second.steady, second.cwd_eq, second.alike.target_eq, there]
    cases d.tree.target d.cwd path <;> rfl
  rw [complete, fill, filled]
  dsimp only
  rw [waited]
  dsimp only
  rw [← moved]
  cases d₂.moveInto location path with
  | mk result d₃ => cases result <;> rfl

end Filling

/-- **What is saved has no say in whether it can be.** On a steady device, any two contents are
saved under a path or neither is, and for the same reason. -/
theorem save_of_steady {ε : Type} (steady : d.Steady) (path : String)
    (content content' : List UInt8) (synced : Bool) :
    (d.save path (.ok content) synced : Except (SaveError ε) Unit × Disk).1 =
      (d.save path (.ok content') synced).1 := by
  have above := d.makeDirectories_faults (besideAbsolute path) (beside path).reverse
  unfold save
  cases made : d.makeDirectories (besideAbsolute path) (beside path).reverse with
  | mk result d₁ =>
      rw [made] at above
      cases result with
      | error e => rfl
      | ok u =>
          dsimp only
          cases created : d₁.createTemporary path with
          | mk result d₂ =>
              cases result with
              | error e => rfl
              | ok location =>
                  dsimp only
                  have steady₂ : d₂.Steady := by
                    intro n
                    rw [createTemporary_faults created, above]
                    exact steady n
                  obtain ⟨-, holding, -⟩ := createTemporary_eq_ok created
                  -- up to here the content was not asked for
                  have completed (content : List UInt8) :=
                    complete_of_steady (ε := ε) steady₂ holding.temporary path content synced
                  have same := (completed content).trans (completed content').symm
                  generalize d₂.complete location path content synced = outcome at same ⊢
                  generalize d₂.complete location path content' synced = outcome' at same ⊢
                  obtain ⟨result, d₃⟩ := outcome
                  obtain ⟨result', d₃'⟩ := outcome'
                  cases same
                  cases result <;> rfl

end Disk

end VoiceLink
