import VoiceLink.Proofs.Storage.Tree

/-!
# Names that name different places

Paths that have one text in front and different endings name different places
(`Path.location_injective`). The text in front may be anything, slashes, points and all, because an
ending without a slash only changes the last step.

Places are compared and not texts: two texts may name one place, if points and slashes are all they
differ in.
-/

namespace VoiceLink

namespace Path

/-! ## Endings

The ending and what stands in front of it share one step. Two characters would not be enough to make
sure of that, because together they could be the point that goes up. -/

/-- A text that can only be the end of a name: it has no slash, and is no name made of points. -/
def IsEnding (s : String) : Prop := 2 < s.length ∧ '/' ∉ s.toList

/-- With three characters or more, a name is more than points. -/
theorem ne_points {s : String} (long : 2 < s.length) : s ≠ "." ∧ s ≠ ".." := by
  constructor
  · rintro rfl
    exact absurd long (by decide)
  · rintro rfl
    exact absurd long (by decide)

/-- A text that is a step of its own: it has no slash, and is not the point that stays. -/
def IsName (s : String) : Prop := s ≠ "" ∧ s ≠ "." ∧ '/' ∉ s.toList

theorem IsEnding.isName {s : String} (h : IsEnding s) : IsName s := by
  refine ⟨?_, (ne_points h.1).1, h.2⟩
  rintro rfl
  exact absurd h.1 (by decide)

theorem split_of_not_mem {s : List Char} (hs : '/' ∉ s) : split s = [s] := by
  induction s with
  | nil => rfl
  | cons c s ih =>
      rw [List.mem_cons, not_or] at hs
      rw [split, if_neg (Ne.symm hs.1), ih hs.2]

/-- An ending becomes part of the last piece. -/
theorem exists_split_append (p : List Char) :
    ∃ pieces last, ∀ s, '/' ∉ s → split (p ++ s) = pieces ++ [last ++ s] := by
  induction p with
  | nil => exact ⟨[], [], fun s hs => split_of_not_mem hs⟩
  | cons c p ih =>
      obtain ⟨pieces, last, ih⟩ := ih
      by_cases slash : c = '/'
      · -- the pieces behind a slash stay as they are
        refine ⟨[] :: pieces, last, ?_⟩
        intro s hs
        rw [List.cons_append, split, if_pos slash, ih s hs]
        rfl
      · cases pieces with
        | nil =>
            refine ⟨[], c :: last, ?_⟩
            intro s hs
            rw [List.cons_append, split, if_neg slash, ih s hs]
            rfl
        | cons piece pieces =>
            refine ⟨(c :: piece) :: pieces, last, ?_⟩
            intro s hs
            rw [List.cons_append, split, if_neg slash, ih s hs]
            rfl

theorem exists_steps_append (path : String) :
    ∃ names last, ∀ s, IsEnding s → steps (path ++ s) = names ++ [last ++ s] := by
  obtain ⟨pieces, last, hsplit⟩ := exists_split_append path.toList
  refine ⟨(pieces.filter fun piece => !piece.isEmpty).map String.ofList, String.ofList last, ?_⟩
  intro s hs
  -- the last piece is a name, because the ending is not empty
  have some : s.toList ≠ [] := by
    intro none
    have := hs.1
    simp [← String.length_toList, none] at this
  rw [steps, String.toList_append, hsplit _ hs.2, List.filter_append, List.map_append]
  simp [some, String.ofList_append]

theorem isAbsolute_append {s : String} (hs : '/' ∉ s.toList) (path : String) :
    isAbsolute (path ++ s) = isAbsolute path := by
  unfold isAbsolute
  rw [String.toList_append]
  cases path.toList with
  | cons c cs => rfl
  | nil =>
      have other : s.toList.head? ≠ some '/' := by
        intro slash
        exact hs (List.mem_of_head? slash)
      simp [other]

theorem join_append {s : String} (hs : IsEnding s) (directory path : String) :
    join directory (path ++ s) = join directory path ++ s := by
  unfold join
  rw [isAbsolute_append hs.2]
  split
  · rfl
  · split <;> simp only [String.append_assoc]

/-- An ending only changes the last name of a place. -/
theorem exists_location_append (cwd : Location) (path : String) :
    ∃ (above : Location) (last : String),
      ∀ s, IsEnding s → location cwd (path ++ s) = above ++ [last ++ s] := by
  obtain ⟨names, last, hsteps⟩ := exists_steps_append path
  refine ⟨Location.follow (if isAbsolute path then [] else cwd) names, last, ?_⟩
  intro s hs
  have long : 2 < (last ++ s).length := by
    have := hs.1
    rw [String.length_append]
    omega
  rw [location, isAbsolute_append hs.2, hsteps s hs, Location.follow_concat (ne_points long)]

/-- Behind the same text, different endings name different places. -/
theorem location_injective {cwd : Location} {path s s' : String} (hs : IsEnding s)
    (hs' : IsEnding s') (h : location cwd (path ++ s) = location cwd (path ++ s')) : s = s' := by
  obtain ⟨above, last, hlocation⟩ := exists_location_append cwd path
  rw [hlocation s hs, hlocation s' hs'] at h
  have same : last ++ s = last ++ s' := by simpa using h
  simpa [String.ext_iff] using same

end Path

end VoiceLink
