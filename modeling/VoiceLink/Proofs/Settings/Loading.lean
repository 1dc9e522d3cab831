import VoiceLink.Proofs.Settings.Finding
import VoiceLink.Proofs.Settings.Reading

/-!
# Loading settings

A file and the environment each give values to some of the fields, in whatever order and spelling.
`ClientSettings.load_eq` says what is loaded: each field has its value from the environment, or else
from the file, or else its initial one. What is given to other fields does not matter to it.

The order of files and variables is not fixed, and the same field may be given twice as long as both
times it is the same value. What a file is not free to do is to hold anything else: then what it
says is more than an assignment.
-/

namespace VoiceLink

/-! ## Layers that give values

A layer is known by what it gives to which fields. If these are the values of an assignment, the
fields are read as the assignment says, whatever was in the layers below. -/

/-- What is given to fields in a layer are the values of an assignment. -/
structure SettingsAssignment.GivenBy (a : SettingsAssignment)
    (given : SettingsField → Setting → Prop) : Prop where
  value : ∀ f v, given f v → ∃ x, a f = some x ∧ f.kind.conversion v = .ok x
  given : ∀ f x, a f = some x → ∃ v, given f v

/-- What an assignment gives is read, and what it leaves out is read as before. -/
theorem SettingsAssignment.GivenBy.reads {a : SettingsAssignment}
    {given : SettingsField → Setting → Prop} (h : a.GivenBy given) {s t : Setting}
    (laid : Setting.Laid given s t) {x : (f : SettingsField) → f.Value}
    (reads : ∀ f : SettingsField, f.Reads (s.at? f) (x f)) (f : SettingsField) :
    f.Reads (t.at? f) ((a f).getD (x f)) := by
  rcases laid.fields f with ⟨v, hv, found⟩ | ⟨noneGiven, kept⟩
  · obtain ⟨y, assigned, read⟩ := h.value f v hv
    rw [assigned, found]
    constructor
    · exact nofun
    · rintro _ ⟨⟩
      exact read
  · have unassigned : a f = none := by
      cases assigned : a f with
      | none => rfl
      | some y =>
          obtain ⟨v, hv⟩ := h.given f y assigned
          exact absurd hv (noneGiven v)
    rw [unassigned, kept]
    exact reads f

/-! ## Files

The entries of a file are its sections, so one entry gives values to several fields. -/

theorem Datum.membersFrom_eq (o : Origin) (ms : List (String × Datum)) :
    Datum.membersFrom o ms = ms.map fun m => (m.1, m.2.comingFrom o) := by
  induction ms with
  | nil => rfl
  | cons m ms ih =>
      rw [Datum.membersFrom, ih]
      rfl

namespace SettingsFile

/-- The members of a document give values to some fields and hold nothing else: tables named for
sections, in them the names of fields of the section with their values. -/
structure Assigns (ms : List (String × Datum)) (a : SettingsAssignment) : Prop where
  sections : ∀ m ∈ ms, (∃ f : SettingsField, f.sectionName = m.1) ∧
    ∃ fs, m.2 = .table fs ∧ ∀ e ∈ fs, ∃ (f : SettingsField) (x : f.Value),
      f.sectionName = m.1 ∧ f.name = e.1 ∧ a f = some x ∧ f.kind.Written x e.2
  assigned : ∀ (f : SettingsField) (x : f.Value), a f = some x →
    ∃ fs d, (f.sectionName, .table fs) ∈ ms ∧ (f.name, d) ∈ fs

/-- What an entry of a file gives to a field. -/
def Given (e : String × Setting) (f : SettingsField) (v : Setting) : Prop :=
  f.sectionName = e.1 ∧ ∃ o ms, e.2 = .table o ms ∧ (f.name, v) ∈ ms

variable {ms : List (String × Datum)} {a : SettingsAssignment}

theorem Assigns.givenBy (h : Assigns ms a) (o : Origin) :
    a.GivenBy fun f v => ∃ e ∈ Datum.membersFrom o ms, Given e f v where
  value := by
    rintro f v ⟨e, he, hsection, o', vs, hvs, hv⟩
    rw [Datum.membersFrom_eq, List.mem_map] at he
    obtain ⟨m, hm, rfl⟩ := he
    obtain ⟨-, fs, hfs, fields⟩ := h.sections m hm
    rw [hfs, Datum.comingFrom] at hvs
    cases hvs
    rw [Datum.membersFrom_eq, List.mem_map] at hv
    obtain ⟨⟨name, d⟩, hd, same⟩ := hv
    obtain ⟨g, x, -, hg, assigned, written⟩ := fields _ hd
    obtain ⟨rfl, rfl⟩ := Prod.mk.inj same
    obtain rfl : g = f := SettingsField.name_injective hg
    obtain ⟨-, -, read⟩ := FieldKind.reads_written written o
    exact ⟨x, assigned, read⟩
  given := by
    intro f x assigned
    obtain ⟨fs, d, hfs, hd⟩ := h.assigned f x assigned
    refine ⟨d.comingFrom o, (f.sectionName, (Datum.table fs).comingFrom o), ?_, rfl, some o,
      Datum.membersFrom o fs, by rw [Datum.comingFrom], ?_⟩
    · rw [Datum.membersFrom_eq]
      exact List.mem_map_of_mem hfs
    · rw [Datum.membersFrom_eq]
      exact List.mem_map_of_mem hd

theorem Assigns.laid (h : Assigns ms a) (o : Origin) {s : Setting} (hs : s.IsSectioned) :
    Setting.Laid (fun f v => ∃ e ∈ Datum.membersFrom o ms, Given e f v) s
      (SettingLayer.over (Datum.membersFrom o ms) s) := by
  refine SettingLayer.laid_over (fun e he s hs => ?_) hs
  rw [Datum.membersFrom_eq, List.mem_map] at he
  obtain ⟨⟨name, d⟩, hm, rfl⟩ := he
  obtain ⟨⟨g, rfl⟩, fs, rfl, fields⟩ := h.sections _ hm
  rw [Datum.comingFrom, SettingsField.ofText_sectionName]
  -- a value of a field is a scalar, so the whole section is laid member by member
  have scalars : ∀ m ∈ Datum.membersFrom o fs, m.2.IsScalar := by
    intro m hm
    rw [Datum.membersFrom_eq, List.mem_map] at hm
    obtain ⟨e, he, rfl⟩ := hm
    obtain ⟨f, x, -, -, -, written⟩ := fields e he
    obtain ⟨v, hv, -⟩ := FieldKind.reads_written written o
    exact ⟨some o, v, by rw [hv, Datum.comingFrom]⟩
  refine (Setting.laid_section hs scalars).congr fun f v => ?_
  constructor
  · rintro ⟨hf, hv⟩
    exact ⟨hf, some o, _, rfl, hv⟩
  · rintro ⟨hf, o', vs, hvs, hv⟩
    cases hvs
    exact ⟨hf, hv⟩

end SettingsFile

/-! ## The environment

The name of a variable is a prefix and the two names of a field, with double underscores between
them, in any case. Variables that do not begin with the prefix are none of ours. -/

/-- The name of the variable that sets a field, in lower case. -/
def SettingsField.variableName (f : SettingsField) : String :=
  "voice_client__" ++ f.sectionName ++ "__" ++ f.name

namespace SettingsEnvironment

/-- Whether a name is that of the variable for a field. Case does not matter. -/
def Names (name : String) (f : SettingsField) : Prop := LowerCase.text name = f.variableName

/-- Whether a variable has nothing to do with the settings, because its name begins differently. -/
def IsForeign (name : String) : Prop :=
  ¬"voice_client__".toList <+: (LowerCase.text name).toList

/-- The variables for settings in an environment give values to some fields. -/
structure Assigns (environment : List (String × String)) (a : SettingsAssignment) : Prop where
  named : ∀ e ∈ environment, IsForeign e.1 ∨
    ∃ (f : SettingsField) (x : f.Value), Names e.1 f ∧ a f = some x ∧ f.kind.Spelled x e.2
  assigned : ∀ (f : SettingsField) (x : f.Value), a f = some x → ∃ e ∈ environment, Names e.1 f

theorem key?_of_names {name : String} {f : SettingsField} (h : Names name f) :
    key? name = some f.key := by
  rw [key?, h]
  cases f <;> rfl

theorem key?_of_isForeign {name : String} (h : IsForeign name) : key? name = none := by
  rw [IsForeign, ← List.isPrefixOf_iff_prefix] at h
  exact if_neg h

/-- What an entry gives to a field. -/
def Given (e : String × Setting) (f : SettingsField) (v : Setting) : Prop :=
  e.1 = f.key ∧ v = e.2

variable {environment : List (String × String)} {a : SettingsAssignment}

/-- An entry of the environment sets one field. -/
theorem Assigns.of_mem_layer (h : Assigns environment a) {e : String × Setting}
    (he : e ∈ layer environment) : ∃ (f : SettingsField) (x : f.Value) (s : String),
      e = (f.key, .scalar (some .environment) (.text s)) ∧ a f = some x ∧ f.kind.Spelled x s := by
  obtain ⟨⟨name, s⟩, hs, found⟩ := List.mem_filterMap.1 he
  rcases h.named _ hs with foreign | ⟨f, x, names, assigned, spelled⟩
  · have none : key? name = none := key?_of_isForeign foreign
    simp only [none, Option.map_none] at found
    cases found
  · have key : key? name = some f.key := key?_of_names names
    simp only [key, Option.map_some] at found
    cases found
    exact ⟨f, x, s, rfl, assigned, spelled⟩

theorem Assigns.givenBy (h : Assigns environment a) :
    a.GivenBy fun f v => ∃ e ∈ layer environment, Given e f v where
  value := by
    rintro f v ⟨e, he, hkey, rfl⟩
    obtain ⟨g, x, s, rfl, assigned, spelled⟩ := h.of_mem_layer he
    obtain rfl : g = f := SettingsField.key_injective hkey
    exact ⟨x, assigned, FieldKind.reads_spelled spelled _⟩
  given := by
    intro f x assigned
    obtain ⟨⟨name, s⟩, hs, names⟩ := h.assigned f x assigned
    have key : key? name = some f.key := key?_of_names names
    refine ⟨_, (f.key, .scalar (some .environment) (.text s)), ?_, rfl, rfl⟩
    exact List.mem_filterMap.2 ⟨(name, s), hs, by simp only [key, Option.map_some]⟩

theorem Assigns.laid (h : Assigns environment a) {s : Setting} (hs : s.IsSectioned) :
    Setting.Laid (fun f v => ∃ e ∈ layer environment, Given e f v) s
      ((layer environment).over s) := by
  refine SettingLayer.laid_over (fun e he s hs => ?_) hs
  obtain ⟨g, x, text, rfl, -⟩ := h.of_mem_layer he
  rw [SettingsField.ofText_key]
  refine (Setting.laid_field hs ⟨_, _, rfl⟩ g).congr fun f v => ?_
  rw [Given, SettingsField.key_injective.eq_iff, eq_comm (a := f)]

end SettingsEnvironment

namespace SettingsFile

/-- A file is TOML and gives values to some fields. Without a file, no field gets any. -/
def Gives (d : Disk) : Option String → SettingsAssignment → Prop
  | none, a => ∀ f, a f = none
  | some name, a => ∃ path text ms, StandsFor d name path ∧
      d.read path = .ok text.toUTF8.data.toList ∧ Toml.parse text = .ok (.table ms) ∧ Assigns ms a

end SettingsFile

/-! ## All layers

A run without a file has a bottom layer as well: the initial values alone. -/

namespace ClientSettings

variable {d : Disk} {path : Option String} {environment : List (String × String)}
  {fromFile fromVariables : SettingsAssignment}

/-- The bottom layer. -/
theorem exists_fileLayer (h : SettingsFile.Gives d path fromFile) :
    ∃ file : SettingLayer,
      load d path environment =
        (ofSetting (mergeLayers [file, SettingsEnvironment.layer environment])).mapError .content ∧
      (file.over .emptyTable).IsSectioned ∧
      ∀ f : SettingsField, f.Reads ((file.over .emptyTable).at? f)
        ((fromFile f).getD f.initial) := by
  have empty (f : SettingsField) : f.Reads (Setting.emptyTable.at? f) f.initial :=
    ⟨fun _ => rfl, nofun⟩
  cases path with
  | none =>
      refine ⟨[], rfl, Setting.isSectioned_empty, fun f => ?_⟩
      rw [h f]
      exact empty f
  | some name =>
      obtain ⟨path, text, ms, named, content, parsed, assigns⟩ := h
      obtain ⟨o, read⟩ := SettingsFile.read_eq_ok named content parsed
      have laid := assigns.laid o Setting.isSectioned_empty
      refine ⟨_, ?_, laid.isSectioned, (assigns.givenBy o).reads laid empty⟩
      rw [load]
      simp only [read]
      rfl

/-- Every field has its value from the environment, or else from the file, or else its initial one.
-/
theorem load_eq (hfile : SettingsFile.Gives d path fromFile)
    (hvariables : SettingsEnvironment.Assigns environment fromVariables) :
    load d path environment =
      .ok (ofFields fun f => (fromVariables f).getD ((fromFile f).getD f.initial)) := by
  obtain ⟨file, loaded, sectioned, reads⟩ := exists_fileLayer hfile
  have laid := hvariables.laid sectioned
  have merged := ofSetting_eq laid.isSectioned (hvariables.givenBy.reads laid reads)
  rw [loaded, mergeLayers, List.foldl_cons, List.foldl_cons, List.foldl_nil, merged]
  rfl

end ClientSettings

end VoiceLink
