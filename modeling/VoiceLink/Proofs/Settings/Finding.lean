import VoiceLink.Proofs.Storage.Front
import VoiceLink.Settings.Source

/-!
# Finding the file with settings

A name leads to a file in the notation of TOML if it is the path of the file, or its path without
the ending (`SettingsFile.StandsFor`). Either way the file is found, and read in its notation
(`SettingsFile.read_eq_ok`).

Where the ending is left out, files with other endings may stand beside this one. That TOML is tried
before them is how this library is made; no order of the notations is promised to those who write
the files, and a name leads to one file for certain only if no other known ending continues it.
-/

namespace VoiceLink

/-- Where the steps of a path lead, its components lead as well. -/
theorem FileTree.walk_components {t : FileTree} {l l' : Location} {path : String}
    (h : t.walk l (Path.steps path) = .ok l') : t.walk l (Path.components path) = .ok l' := by
  unfold Path.components
  cases parts : Path.steps path with
  | nil =>
      rw [parts] at h
      exact h
  | cons first rest =>
      rw [parts] at h
      simp only
      split
      · next point =>
          have filtered := walk_filter_points h
          rw [List.filter_cons_of_neg (by simpa using point.1)] at filtered
          exact filtered
      · obtain ⟨next, stepped, walked⟩ := bind_eq_ok.1 h
        exact bind_eq_ok.2 ⟨next, stepped, walk_filter_points walked⟩

namespace SettingsFile

/-! ## Names that stand for a file -/

/-- A path that names a file in the notation of TOML: its last name has that ending, and something
in front of it. -/
def NamesToml (path : String) : Prop :=
  ∃ stem, stem ≠ "" ∧ Path.last path = stem ++ ".toml"

/-- A name stands for a file in the notation of TOML: it is the path of the file, or lacks only the
ending and is not the path of another file. In the second case files with other endings may stand
beside it, and that they are not tried first is a choice of `SettingsFile.find`. -/
def StandsFor (d : Disk) (name path : String) : Prop :=
  NamesToml name ∧ path = name ∨
    Path.last name ∉ ["", ".", ".."] ∧ isFile d (start d name) (Path.steps name) = false ∧
      path = name ++ ".toml"

variable {name path stem : String} {d : Disk} {text : String}

/-! ## Names and endings

The ending is looked for in the last name of a path, and added behind the last name. So the name is
taken apart at its last slash, and what stands in front of it stays as it is. -/

theorem extension?_toml (h : stem ≠ "") : extension? (stem ++ ".toml") = some "toml" := by
  have reversed : (stem ++ ".toml").toList.reverse =
      ['l', 'm', 'o', 't'] ++ '.' :: stem.toList.reverse := by
    rw [String.toList_append, List.reverse_append]
    rfl
  obtain ⟨c, cs, more⟩ : ∃ c cs, stem.toList.reverse = c :: cs := by
    cases found : stem.toList.reverse with
    | nil => exact absurd (by simpa using found) h
    | cons c cs => exact ⟨c, cs, rfl⟩
  rw [extension?, reversed, more]
  rfl

theorem isEnding_toml (stem : String) (h : '/' ∉ stem.toList) :
    Path.IsEnding (stem ++ ".toml") := by
  constructor
  · have long : (".toml").length = 5 := rfl
    rw [String.length_append]
    omega
  · rw [String.toList_append, List.mem_append, not_or]
    exact ⟨h, by decide⟩

theorem components_eq (h : Path.IsName (Path.last name)) :
    Path.components name = Path.components (Path.front name) ++ [Path.last name] := by
  rw [← Path.components_append_name (Path.leavesOff_front name) h, Path.front_append_last]

theorem fileName?_eq (h : Path.last name ∉ ["", ".", ".."]) :
    fileName? name = some (Path.last name) := by
  simp only [List.mem_cons, List.not_mem_nil, or_false, not_or] at h
  rw [fileName?, components_eq ⟨h.1, h.2.1, Path.slash_not_mem_last name⟩, List.getLast?_concat]
  exact if_neg (not_or.2 ⟨h.2.2, h.2.1⟩)

theorem NamesToml.last_not_mem (h : NamesToml path) : Path.last path ∉ ["", ".", ".."] := by
  obtain ⟨stem, -, hlast⟩ := h
  have ending : Path.IsEnding (Path.last path) := by
    rw [hlast]
    apply isEnding_toml
    have plain := Path.slash_not_mem_last path
    rw [hlast, String.toList_append, List.mem_append, not_or] at plain
    exact plain.1
  obtain ⟨noPoint, noPoints⟩ := Path.ne_points ending.1
  simpa using ⟨ending.isName.1, noPoint, noPoints⟩

/-! ## Finding -/

theorem text_eq_ok {steps : List String} {l : Location}
    (walked : d.tree.walk (start d name) steps = .ok l)
    (content : d.tree.find? l = some (.file text.toUTF8.data.toList)) :
    SettingsFile.text d (start d name) steps = .ok text := by
  have decoded : String.fromUTF8? ⟨text.toUTF8.data.toList.toArray⟩ = some text := by
    rw [Array.toArray_toList]
    exact dif_pos text.isValidUTF8
  simp only [SettingsFile.text, walked, content, decoded]

theorem isFile_eq_true {steps : List String} {l : Location} {content : List UInt8}
    (walked : d.tree.walk (start d name) steps = .ok l)
    (found : d.tree.find? l = some (.file content)) :
    isFile d (start d name) steps = true := by
  simp only [isFile, walked, found]

/-- A file that can be read is found under a name that stands for it. -/
theorem find_eq_ok (h : StandsFor d name path)
    (content : d.read path = .ok text.toUTF8.data.toList) :
    ∃ found : Found, find d name = .ok found ∧ found.notation_ = .toml ∧
      SettingsFile.text d (start d name) found.steps = .ok text := by
  obtain ⟨-, slash, l, walked, there⟩ := FileTree.read_eq_ok_iff.1 content
  rcases h with ⟨toml, rfl⟩ | ⟨named, noFile, rfl⟩
  · have walked : d.tree.walk (start d path) (Path.steps path) = .ok l := walked
    refine ⟨{ steps := Path.steps path, notation_ := .toml }, ?_, rfl, text_eq_ok walked there⟩
    obtain ⟨stem, some, hlast⟩ := id toml
    rw [find, if_pos ⟨isFile_eq_true walked there, by simp [slash]⟩,
      fileName?_eq toml.last_not_mem, Option.bind_some, hlast, extension?_toml some]
    rfl
  · have ending := isEnding_toml (Path.last name) (Path.slash_not_mem_last name)
    have same : Path.isAbsolute (name ++ ".toml") = Path.isAbsolute name :=
      Path.isAbsolute_append (by decide) name
    have parts : Path.components (name ++ ".toml") =
        (Path.components name).dropLast ++ [Path.last name ++ ".toml"] := by
      simp only [List.mem_cons, List.not_mem_nil, or_false, not_or] at named
      rw [components_eq ⟨named.1, named.2.1, Path.slash_not_mem_last name⟩, List.dropLast_concat,
        ← Path.components_append_name (Path.leavesOff_front name) ending.isName,
        ← String.append_assoc, Path.front_append_last]
    have walked : d.tree.walk (start d name)
        ((Path.components name).dropLast ++ [Path.last name ++ ".toml"]) = .ok l := by
      rw [← parts, start, Disk.start, ← same]
      exact FileTree.walk_components walked
    refine ⟨{ steps := _, notation_ := .toml }, ?_, rfl, text_eq_ok walked there⟩
    -- of all endings, that of TOML is tried first
    have first : Path.last name ++ "." ++ "toml" = Path.last name ++ ".toml" := String.append_assoc
    have there := isFile_eq_true walked there
    rw [find, if_neg (by simp [noFile]), fileName?_eq named]
    simp only [SettingsNotation.all, SettingsNotation.extensions, List.flatMap_cons, List.map_cons,
      List.map_nil, List.singleton_append, List.find?_cons, first, there]

theorem read_eq_ok {ms : List (String × Datum)} (h : StandsFor d name path)
    (content : d.read path = .ok text.toUTF8.data.toList)
    (parsed : Toml.parse text = .ok (.table ms)) :
    ∃ o, read d name = .ok (Datum.membersFrom o ms) := by
  obtain ⟨found, hfound, toml, readable⟩ := find_eq_ok h content
  refine ⟨.file (shownName d (Path.isAbsolute name) found.steps), ?_⟩
  refine bind_eq_ok.2 ⟨_, hfound, bind_eq_ok.2 ⟨_, readable, ?_⟩⟩
  simp only [toml, SettingsNotation.parse, parsed, Except.mapError]
  rfl

end SettingsFile

end VoiceLink
