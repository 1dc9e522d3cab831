import Mathlib.Data.List.DropRight
import VoiceLink.Proofs.Storage.Beside
import VoiceLink.Proofs.Storage.Naming

/-!
# What stands in front of a name

A text that is put behind a directory need not be a name: what it has up to its last slash
(`Path.front`) leads somewhere else, and only what comes behind (`Path.last`) is the beginning of
the name of a file. `Path.location_join` says which directory the file is in, and
`Path.along_of_onTheWay` which ones are on the way there.

Whoever names a session may put slashes into its name. Nothing is refused then: the files land where
the text leads, which can be outside the directory. These lemmas say where.
-/

namespace VoiceLink

namespace Path

/-! ## The last slash

A text is its front and what is behind it, and the front leaves off where a name can begin. -/

/-- A text up to its last slash. -/
def front (s : String) : String := String.ofList (s.toList.rdropWhile (· ≠ '/'))

/-- A text behind its last slash. -/
def last (s : String) : String := String.ofList (s.toList.rtakeWhile (· ≠ '/'))

/-- A text that leaves off where a name can begin: behind a slash, or before anything else. -/
def LeavesOff (s : String) : Prop := s = "" ∨ ∃ t : String, s = t ++ "/"

theorem front_append_last (s : String) : front s ++ last s = s := by
  rw [front, last, ← String.ofList_append, List.rdropWhile_append_rtakeWhile, String.ofList_toList]

theorem slash_not_mem_last (s : String) : '/' ∉ (last s).toList := by
  rw [last, String.toList_ofList]
  intro slash
  simpa using List.mem_rtakeWhile_imp slash

theorem leavesOff_front (s : String) : LeavesOff (front s) := by
  cases found : s.toList.rdropWhile (· ≠ '/') using List.reverseRecOn with
  | nil => exact .inl (by rw [front, found, String.ofList_nil])
  | append_singleton before c =>
      -- dropping stops at a slash
      have stopped : s.toList.rdropWhile (· ≠ '/') ≠ [] := by
        rw [found]
        exact List.concat_ne_nil c before
      have stops := List.rdropWhile_last_not _ _ stopped
      rw [List.getLast_congr _ (List.concat_ne_nil c before) found,
        List.getLast_append_singleton] at stops
      have slash : c = '/' := by simpa using stops
      exact .inr ⟨String.ofList before, by rw [front, found, slash, String.ofList_append]⟩

/-- A text without a slash is all name. -/
theorem front_of_not_mem {s : String} (hs : '/' ∉ s.toList) : front s = "" := by
  have none : s.toList.rdropWhile (· ≠ '/') = [] := by
    rw [List.rdropWhile_eq_nil_iff]
    intro c hc
    have other : c ≠ '/' := by
      rintro rfl
      exact hs hc
    simpa using other
  rw [front, none, String.ofList_nil]

/-! ## Names behind it

Behind a slash everything begins anew, so the steps of the front and those of a name are simply put
together. -/

/-- Splitting begins anew behind a slash. -/
theorem split_append_slash (p s : List Char) : split (p ++ '/' :: s) = split p ++ split s := by
  induction p with
  | nil => rfl
  | cons c p ih =>
      by_cases slash : c = '/'
      · rw [List.cons_append, split, split, if_pos slash, if_pos slash, ih]
        rfl
      · rw [List.cons_append, split, split, if_neg slash, if_neg slash, ih]
        -- there is a first piece for the character to go to
        obtain ⟨pieces, last, parts⟩ := exists_split_append p
        have some := parts [] List.not_mem_nil
        rw [List.append_nil, List.append_nil] at some
        rw [some]
        cases pieces <;> rfl

variable {p name : String}

/-- What is put where a text leaves off becomes a step of its own. -/
theorem steps_append_name (leaves : LeavesOff p) (hname : IsName name) :
    steps (p ++ name) = steps p ++ [name] := by
  have single : split name.toList = [name.toList] := split_of_not_mem hname.2.2
  have some : name.toList ≠ [] := by simpa using hname.1
  rcases leaves with rfl | ⟨t, rfl⟩
  · rw [String.empty_append, steps, single]
    simp [steps, split, some]
  · have slash : (t ++ "/").toList = t.toList ++ ['/'] := String.toList_append
    rw [steps, steps, String.toList_append, slash, List.append_assoc, List.singleton_append,
      split_append_slash, split_append_slash, single]
    simp [split, some]

theorem components_append_name (leaves : LeavesOff p) (hname : IsName name) :
    components (p ++ name) = components p ++ [name] := by
  have point : name ≠ "." := hname.2.1
  unfold components
  rw [steps_append_name leaves hname, isAbsolute_append hname.2.2]
  cases steps p with
  | nil => simp [point]
  | cons first rest =>
      simp only [List.cons_append, List.filter_append, List.filter_singleton]
      split <;> simp [point]

/-! ## The directory of a file

An absolute front starts from the root and forgets the directory it was joined to. -/

/-- The places that a path leads through, and the one it names. -/
def Along (cwd : Location) (path : String) (l : Location) : Prop :=
  ∃ names, names <+: components path ∧
    l = Location.follow (if isAbsolute path then [] else cwd) names

theorem LeavesOff.append {p q : String} (hp : LeavesOff p) (hq : LeavesOff q) :
    LeavesOff (p ++ q) := by
  rcases hq with rfl | ⟨t, rfl⟩
  · rw [String.append_empty]
    exact hp
  · exact .inr ⟨p ++ t, String.append_assoc.symm⟩

theorem leavesOff_of_endsWithSlash {s : String} (h : endsWithSlash s = true) : LeavesOff s := by
  have slash : s.toList.getLast? = some '/' := by simpa [endsWithSlash] using h
  obtain ⟨before, parts⟩ := List.getLast?_eq_some_iff.1 slash
  right
  refine ⟨String.ofList before, ?_⟩
  rw [← String.ofList_toList (s := s), parts, String.ofList_append]

/-- A path below a directory leaves off where the path does. -/
theorem leavesOff_join {path : String} (leaves : LeavesOff path) (directory : String) :
    LeavesOff (join directory path) := by
  unfold join
  split
  · exact leaves
  · split
    · next slash => exact (leavesOff_of_endsWithSlash slash).append leaves
    · exact LeavesOff.append (.inr ⟨directory, rfl⟩) leaves

variable {ending : String} (directory stem : String)

theorem isEnding_last (hending : IsEnding ending) : IsEnding (last stem ++ ending) := by
  constructor
  · have := hending.1
    rw [String.length_append]
    omega
  · rw [String.toList_append, List.mem_append, not_or]
    exact ⟨slash_not_mem_last stem, hending.2⟩

/-- Only what a text has behind its last slash is part of a name. -/
theorem join_append_last (hending : IsEnding ending) :
    join directory stem ++ ending = join directory (front stem) ++ (last stem ++ ending) := by
  rw [← join_append hending, ← join_append (isEnding_last stem hending), ← String.append_assoc,
    front_append_last]

/-- A file is in the directory that the text in front of its name leads to. -/
theorem location_join (hending : IsEnding ending) (cwd : Location) :
    location cwd (join directory stem ++ ending) =
      location cwd (join directory (front stem)) ++ [last stem ++ ending] := by
  have hname := isEnding_last stem hending
  have leaves := leavesOff_join (leavesOff_front stem) directory
  rw [join_append_last directory stem hending, location, location, isAbsolute_append hname.2,
    steps_append_name leaves hname.isName, Location.follow_concat (ne_points hname.1)]

/-- The directories on the way to a file are those along the way to its directory. -/
theorem along_of_onTheWay (hending : IsEnding ending) {cwd l : Location}
    (h : OnTheWay cwd (join directory stem ++ ending) l) :
    Along cwd (join directory (front stem)) l := by
  have hname := isEnding_last stem hending
  have leaves := leavesOff_join (leavesOff_front stem) directory
  obtain ⟨names, before, rfl⟩ := h
  rw [join_append_last directory stem hending, components_append_name leaves hname.isName,
    List.dropLast_concat] at before
  rw [join_append_last directory stem hending, isAbsolute_append hname.2]
  exact ⟨names, before, rfl⟩

/-! ### Names without a slash

With nothing in front, the files are in the directory itself. -/

/-- A slash behind a directory changes nothing. -/
theorem steps_append_slash (s : String) : steps (s ++ "/") = steps s := by
  have slash : (s ++ "/").toList = s.toList ++ '/' :: [] := String.toList_append
  rw [steps, steps, slash, split_append_slash]
  simp [split]

theorem isAbsolute_append_slash {s : String} (some : s ≠ "") :
    isAbsolute (s ++ "/") = isAbsolute s := by
  have nonempty : s.toList ≠ [] := by
    intro none
    exact some (String.toList_inj.1 none)
  unfold isAbsolute
  rw [String.toList_append, List.head?_append_of_ne_nil _ nonempty]

/-- Nothing below a directory is the directory. -/
theorem join_empty_same (directory : String) :
    isAbsolute (join directory "") = isAbsolute directory ∧
      steps (join directory "") = steps directory := by
  unfold join
  split
  · next h =>
    rcases h with absolute | rfl
    · cases absolute
    · exact ⟨rfl, rfl⟩
  · next h =>
    split
    · rw [String.append_empty]
      exact ⟨rfl, rfl⟩
    · rw [String.append_empty]
      exact ⟨isAbsolute_append_slash fun none => h (.inr none), steps_append_slash directory⟩

/-- A name without a slash is in the directory itself. -/
theorem location_join_of_not_mem {stem : String} (hstem : '/' ∉ stem.toList) (directory : String)
    (cwd : Location) :
    location cwd (join directory (front stem)) = location cwd directory := by
  obtain ⟨absolute, same⟩ := join_empty_same directory
  rw [front_of_not_mem hstem, location, location, absolute, same]

theorem along_join_of_not_mem {stem : String} (hstem : '/' ∉ stem.toList) (directory : String)
    {cwd l : Location} (h : Along cwd (join directory (front stem)) l) : Along cwd directory l := by
  obtain ⟨absolute, same⟩ := join_empty_same directory
  rw [front_of_not_mem hstem, Along, components, absolute, same] at h
  exact h

end Path

end VoiceLink
