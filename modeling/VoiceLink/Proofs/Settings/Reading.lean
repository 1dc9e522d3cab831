import VoiceLink.Proofs.Settings.Layers

/-!
# Reading the settings out of a tree

Each field is read on its own: from what the tree says about it, or else it has its initial value.
`ClientSettings.ofSetting_eq` puts the fields together again, through their sections, which may be
missing as a whole.

A field whose section is missing and one that its section leaves out have the same value. For the
reader these are two cases, in two functions, with two texts for their initial values;
`SettingsField.initial` is the one they have in common.
-/

namespace VoiceLink

/-- The value of a field where nothing is given. A client without an identifier draws one. -/
def SettingsField.initial (f : SettingsField) : f.Value := ({} : ClientSettings).get f

/-! ## Reading a tree

Fields are read by position as well as by name, which matters where a section is written without
names. What is laid over each other always has names. -/

/-- What is found for a field, if anything, is read as a value, which otherwise is its initial one.
-/
structure SettingsField.Reads (f : SettingsField) (found : Option Setting) (x : f.Value) :
    Prop where
  absent : found = none → x = f.initial
  present : ∀ v, found = some v → f.kind.conversion v = .ok x

namespace SettingsSection

variable {α : Type} {ms : List (String × Setting)} {name : String} {conversion : Conversion α}

theorem field_of_absent (h : ms.lookup name = none) (index : Nat) (initial : α) :
    (named ms).field index name conversion initial = .ok initial := by
  simp only [field, h, Option.map_none]

theorem field_of_present {v : Setting} {x : α} (h : ms.lookup name = some v)
    (hv : conversion v = .ok x) (index : Nat) (initial : α) :
    (named ms).field index name conversion initial = .ok x := by
  simp only [field, h, Option.map_some, hv, Except.mapError]

theorem field_eq_ok {f : SettingsField} {x : f.Value} (h : f.Reads (ms.lookup f.name) x)
    (index : Nat) : (named ms).field index f.name f.kind.conversion f.initial = .ok x := by
  cases found : ms.lookup f.name with
  | none => rw [field_of_absent found, h.absent found]
  | some v => exact field_of_present found (h.present v found) index _

end SettingsSection

section

variable {ms : List (String × Setting)} {x : (f : SettingsField) → f.Value}

theorem ServerSettings.ofSection_eq
    (h : ∀ f : SettingsField, f.sectionName = "server" → f.Reads (ms.lookup f.name) (x f)) :
    ServerSettings.ofSection (.named ms) = .ok (ClientSettings.ofFields x).server := by
  have read (f : SettingsField) (hf : f.sectionName = "server") (index : Nat) :=
    SettingsSection.field_eq_ok (h f hf) index
  refine bind_eq_ok.2 ⟨_, read .url rfl 0, ?_⟩
  refine bind_eq_ok.2 ⟨_, read .deviceId rfl 1, ?_⟩
  refine bind_eq_ok.2 ⟨_, read .clientId rfl 2, ?_⟩
  refine bind_eq_ok.2 ⟨_, read .token rfl 3, ?_⟩
  rfl

theorem AudioSettings.ofSection_eq
    (h : ∀ f : SettingsField, f.sectionName = "audio" → f.Reads (ms.lookup f.name) (x f)) :
    AudioSettings.ofSection (.named ms) = .ok (ClientSettings.ofFields x).audio := by
  have read (f : SettingsField) (hf : f.sectionName = "audio") (index : Nat) :=
    SettingsSection.field_eq_ok (h f hf) index
  refine bind_eq_ok.2 ⟨_, read .sampleRate rfl 0, ?_⟩
  refine bind_eq_ok.2 ⟨_, read .channels rfl 1, ?_⟩
  refine bind_eq_ok.2 ⟨_, read .frameDuration rfl 2, ?_⟩
  refine bind_eq_ok.2 ⟨_, read .outputSampleRate rfl 3, ?_⟩
  refine bind_eq_ok.2 ⟨_, read .outputChannels rfl 4, ?_⟩
  refine bind_eq_ok.2 ⟨_, read .outputDir rfl 5, ?_⟩
  refine bind_eq_ok.2 ⟨_, read .dumpRawOpus rfl 6, ?_⟩
  refine bind_eq_ok.2 ⟨_, read .listenMode rfl 7, ?_⟩
  rfl

theorem TimingSettings.ofSection_eq
    (h : ∀ f : SettingsField, f.sectionName = "session" → f.Reads (ms.lookup f.name) (x f)) :
    TimingSettings.ofSection (.named ms) = .ok (ClientSettings.ofFields x).timing := by
  have read (f : SettingsField) (hf : f.sectionName = "session") (index : Nat) :=
    SettingsSection.field_eq_ok (h f hf) index
  refine bind_eq_ok.2 ⟨_, read .idleTimeout rfl 0, ?_⟩
  refine bind_eq_ok.2 ⟨_, read .helloSettle rfl 1, ?_⟩
  refine bind_eq_ok.2 ⟨_, read .responseTimeout rfl 2, ?_⟩
  rfl

end

/-- A section is read as a whole, or has its initial values as a whole where it is missing. -/
theorem SettingsSection.field_of_section {α : Type} {o : Option Origin}
    {tops : List (String × Setting)} (h : (Setting.table o tops).IsSectioned)
    {x : (f : SettingsField) → f.Value}
    (reads : ∀ f : SettingsField, f.Reads ((Setting.table o tops).at? f) (x f))
    {name : String} {conversion : Conversion α} (index : Nat) {initial value : α}
    (absent : (∀ f : SettingsField, f.sectionName = name → x f = f.initial) → initial = value)
    (present : ∀ o ms,
      (∀ f : SettingsField, f.sectionName = name → f.Reads (ms.lookup f.name) (x f)) →
      conversion (.table o ms) = .ok value) :
    (named tops).field index name conversion initial = .ok value := by
  cases found : tops.lookup name with
  | none =>
      have missing : ∀ f : SettingsField, f.sectionName = name → x f = f.initial := by
        rintro f rfl
        apply (reads f).absent
        simp [Setting.at?, Setting.member?, found]
      rw [field_of_absent found, absent missing]
  | some t =>
      obtain ⟨o', ms, rfl⟩ := h.sections name t found
      have read : ∀ f : SettingsField, f.sectionName = name →
          f.Reads (ms.lookup f.name) (x f) := by
        rintro f rfl
        simpa [Setting.at?, Setting.member?, found] using reads f
      exact field_of_present found (present o' ms read) index initial

/-- A tree is read field by field. -/
theorem ClientSettings.ofSetting_eq {s : Setting} (h : s.IsSectioned)
    {x : (f : SettingsField) → f.Value} (reads : ∀ f : SettingsField, f.Reads (s.at? f) (x f)) :
    ofSetting s = .ok (ofFields x) := by
  obtain ⟨o, tops, rfl⟩ := h.isTable
  -- each section is there or not, and the fields know no difference
  have server : (SettingsSection.named tops).field 0 "server" ServerSettings.ofSetting {} =
      .ok (ofFields x).server := by
    refine SettingsSection.field_of_section h reads 0 (fun missing => ?_) fun o ms read => ?_
    · rw [ofFields, missing .url rfl, missing .deviceId rfl, missing .clientId rfl,
        missing .token rfl]
      rfl
    · exact ServerSettings.ofSection_eq read
  have audio : (SettingsSection.named tops).field 1 "audio" AudioSettings.ofSetting {} =
      .ok (ofFields x).audio := by
    refine SettingsSection.field_of_section h reads 1 (fun missing => ?_) fun o ms read => ?_
    · rw [ofFields, missing .sampleRate rfl, missing .channels rfl, missing .frameDuration rfl,
        missing .outputSampleRate rfl, missing .outputChannels rfl, missing .outputDir rfl,
        missing .dumpRawOpus rfl, missing .listenMode rfl]
      rfl
    · exact AudioSettings.ofSection_eq read
  have timing : (SettingsSection.named tops).field 2 "session" TimingSettings.ofSetting {} =
      .ok (ofFields x).timing := by
    refine SettingsSection.field_of_section h reads 2 (fun missing => ?_) fun o ms read => ?_
    · rw [ofFields, missing .idleTimeout rfl, missing .helloSettle rfl,
        missing .responseTimeout rfl]
      rfl
    · exact TimingSettings.ofSection_eq read
  refine bind_eq_ok.2 ⟨.named tops, rfl, ?_⟩
  refine bind_eq_ok.2 ⟨_, server, ?_⟩
  refine bind_eq_ok.2 ⟨_, audio, ?_⟩
  refine bind_eq_ok.2 ⟨_, timing, ?_⟩
  rfl

end VoiceLink
