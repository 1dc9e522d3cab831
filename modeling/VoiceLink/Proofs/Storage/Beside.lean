import VoiceLink.Proofs.Storage.Tree
import VoiceLink.Storage.Save

/-!
# The directory beside a path

A file is saved by way of one in the same directory, and that directory may have to be made first.
Both are spoken of by places here: which ones are on the way to what a path names (`Path.OnTheWay`),
that only those are made, and that a temporary file is never where the path leads
(`Disk.location_ne_temporary`).

The directory beside a path is the one without its last name. A path that has no names leads to the
root or to the working directory, and beside it is the working directory.
-/

namespace VoiceLink

/-! ## On the way

Points that stay are dropped by some readers of paths and kept by others. Where a path leads does
not depend on it. -/

/-- The places that a path leads through before it comes to its last name. -/
def Path.OnTheWay (cwd : Location) (path : String) (l : Location) : Prop :=
  ∃ names, names <+: (components path).dropLast ∧
    l = Location.follow (if isAbsolute path then [] else cwd) names

/-- A point leads nowhere. -/
theorem Location.follow_filter (l : Location) (names : List String) :
    l.follow (names.filter (· ≠ ".")) = l.follow names := by
  induction names generalizing l with
  | nil => rfl
  | cons name names ih =>
      by_cases point : name = "."
      · rw [List.filter_cons_of_neg (by simpa using point), ih]
        simp [follow, point]
      · rw [List.filter_cons_of_pos (by simpa using point)]
        exact ih _

/-- The components of a path lead where its steps lead. -/
theorem Path.follow_components (l : Location) (path : String) :
    l.follow (components path) = l.follow (steps path) := by
  unfold components
  cases steps path with
  | nil => rfl
  | cons first rest =>
      dsimp only
      split
      · next point =>
        rw [Location.follow_filter]
        simp [Location.follow, point.1]
      · exact Location.follow_filter _ rest

/-- The last of some names leads one step down, or not down at all. -/
theorem Location.follow_singleton_ne {l : Location} {last name : String} (other : last ≠ name) :
    l.follow [last] ≠ l ++ [name] := by
  intro same
  by_cases down : last ≠ "." ∧ last ≠ ".."
  · have below : l.follow [last] = l ++ [last] := follow_concat down l []
    rw [below] at same
    exact other (by simpa using same)
  · -- the place is no longer than the directory
    have short : (l.follow [last]).length ≤ l.length := by
      rcases not_and_or.1 down with point | up
      · simp [follow, not_not.1 point]
      · simp [follow, not_not.1 up]
    rw [same, List.length_append, List.length_singleton] at short
    omega

namespace Disk

/-! ## The directory and what is in it -/

/-- The directory beside a path is the one its components but the last lead to, or the working
directory. -/
theorem beside_cases (path : String) :
    (beside path = ["."] ∧ (Path.components path).dropLast = []) ∨
      (beside path = (Path.components path).dropLast ∧
        besideAbsolute path = Path.isAbsolute path) := by
  unfold beside besideAbsolute Path.parent?
  cases Path.components path with
  | nil => exact .inl ⟨rfl, rfl⟩
  | cons first rest =>
      cases above : (first :: rest).dropLast with
      | nil => exact .inl ⟨by simp [above], rfl⟩
      | cons name names => exact .inr ⟨by simp [above], by simp⟩

/-- The directories that lead to the one beside a path are on the way. -/
theorem onTheWay_of_beside {d : Disk} {path : String} {names : List String}
    (above : names <+: beside path) (some : names ≠ []) (moves : names ≠ ["."]) :
    Path.OnTheWay d.cwd path ((d.start (besideAbsolute path)).follow names) := by
  rcases beside_cases path with ⟨here, -⟩ | ⟨parent, absolute⟩
  · rw [here] at above
    rcases List.prefix_cons_iff.1 above with none | ⟨rest, rfl, last⟩
    · exact absurd none some
    · rw [List.prefix_nil.1 last] at moves
      exact absurd rfl moves
  · rw [parent] at above
    rw [absolute]
    exact ⟨names, above, rfl⟩

/-- A file beside a path is not where the path leads, unless it has the last name of the path. -/
theorem location_ne_temporary {d : Disk} {path name : String}
    (other : (Path.components path).getLast? ≠ some name) :
    Path.location d.cwd path ≠
      (d.start (besideAbsolute path)).follow (beside path) ++ [name] := by
  rw [Path.location, ← Path.follow_components]
  cases last : (Path.components path).getLast? with
  | none =>
      -- the path leads to the root or to the working directory itself
      have none : Path.components path = [] := List.getLast?_eq_none_iff.1 last
      have here : beside path = ["."] := by simp [beside, Path.parent?, none]
      have relative : besideAbsolute path = false := by
        simp [besideAbsolute, Path.parent?, none]
      rw [none, here, relative]
      intro same
      have lengths := congrArg List.length same
      split at lengths <;> simp [Location.follow, start] at lengths
  | some own =>
      have different : own ≠ name := by
        rintro rfl
        exact other last
      have parts := List.dropLast_append_getLast? own last
      have rooted : besideAbsolute path = Path.isAbsolute path := by
        unfold besideAbsolute Path.parent?
        cases found : Path.components path with
        | nil => simp [found] at last
        | cons first rest => simp
      have directory : (d.start (besideAbsolute path)).follow (beside path) =
          Location.follow (if Path.isAbsolute path then [] else d.cwd)
            (Path.components path).dropLast := by
        rw [rooted]
        rcases beside_cases path with ⟨here, above⟩ | ⟨parent, -⟩
        · rw [here, above]
          simp [Location.follow, start]
        · rw [parent]
          rfl
      rw [directory]
      nth_rewrite 1 [← parts]
      rw [Location.follow_append]
      exact Location.follow_singleton_ne different

end Disk

end VoiceLink
