import VoiceLink.Proofs.Settings.Field

/-!
# Laying settings over each other

What a merged tree says is asked for field by field: `Setting.at?`. Putting something into the tree
is described by what it gives to which fields (`Laid`): they have what they were given, and all
others keep what they had. Such steps compose, whatever the order of files, variables and keys.

Only the fields are spoken of. A merged tree may hold more than that, and where two layers disagree
about what is not a field, nothing needs to be said about it. The tree has to have tables where
fields are looked for, though; that is `IsSectioned`, and every step keeps it.
-/

namespace VoiceLink

section Lookup

variable {α : Type} (key name : String) (value : α) (ms : List (String × α))

theorem lookup_cons_member :
    ((key, value) :: ms).lookup name = if name = key then some value else ms.lookup name := by
  rw [List.lookup_cons]
  by_cases h : name = key
  · rw [if_pos h, beq_iff_eq.2 h]
  · rw [if_neg h, beq_eq_false_iff_ne.2 h]

theorem lookup_insertMember :
    (insertMember key value ms).lookup name =
      if name = key then some value else ms.lookup name := by
  induction ms with
  | nil => exact lookup_cons_member key name value []
  | cons m ms ih =>
      obtain ⟨k, v⟩ := m
      rw [insertMember]
      split
      · next same =>
        rw [lookup_cons_member, lookup_cons_member, same]
        split <;> rfl
      · next other =>
        rw [lookup_cons_member, lookup_cons_member, ih]
        by_cases h : name = k
        · rw [if_pos h, if_pos h, if_neg (h ▸ other)]
        · rw [if_neg h, if_neg h]

end Lookup

namespace Setting

def IsTable (s : Setting) : Prop := ∃ o ms, s = .table o ms

def IsScalar (s : Setting) : Prop := ∃ o v, s = .scalar o v

/-! ## Members

Putting a member into a table changes that member alone. What was no table becomes one. -/

variable {s t v : Setting} {key name : String}

theorem isTable_put : (s.put key v).IsTable := by
  cases s <;> exact ⟨_, _, rfl⟩

theorem member?_put :
    (s.put key v).member? name = if name = key then some v else s.member? name := by
  cases s with
  | table o ms => exact lookup_insertMember key name v ms
  | scalar o x => exact lookup_cons_member key name v []
  | sequence o xs => exact lookup_cons_member key name v []

theorem lay_of_isScalar (h : v.IsScalar) : lay key v s = s.put key v := by
  obtain ⟨o, x, rfl⟩ := h
  rw [lay]

/-- Of members laid over a table, each is there afterwards unless another one of its name is, and
the table keeps what has other names. -/
theorem layAll_scalars {ms : List (String × Setting)} (h : ∀ m ∈ ms, m.2.IsScalar)
    (table : s.IsTable) :
    (layAll ms s).IsTable ∧
    ∀ name, (∃ v, (name, v) ∈ ms ∧ (layAll ms s).member? name = some v) ∨
      (∀ v, (name, v) ∉ ms) ∧ (layAll ms s).member? name = s.member? name := by
  induction ms generalizing s with
  | nil =>
      rw [layAll]
      exact ⟨table, fun name => .inr ⟨fun v => List.not_mem_nil, rfl⟩⟩
  | cons m ms ih =>
      obtain ⟨key, value⟩ := m
      rw [layAll, lay_of_isScalar (h _ List.mem_cons_self)]
      obtain ⟨isTable, members⟩ := ih (fun m hm => h m (List.mem_cons_of_mem _ hm)) isTable_put
      refine ⟨isTable, fun name => ?_⟩
      rcases members name with ⟨v, given, found⟩ | ⟨others, kept⟩
      · exact .inl ⟨v, List.mem_cons_of_mem _ given, found⟩
      · rw [kept, member?_put]
        by_cases here : name = key
        · left
          exact ⟨value, by rw [here]; exact List.mem_cons_self, if_pos here⟩
        · right
          refine ⟨fun v given => ?_, if_neg here⟩
          rcases List.mem_cons.1 given with same | behind
          · exact here (congrArg Prod.fst same)
          · exact others v behind

/-! ## Fields

`Laid given s t` holds of a step, and of any number of steps if `given` says what the last of them
gave. -/

def at? (s : Setting) (f : SettingsField) : Option Setting :=
  (s.member? f.sectionName).bind fun t => t.member? f.name

/-- A table whose members are tables again. -/
structure IsSectioned (s : Setting) : Prop where
  isTable : s.IsTable
  sections : ∀ name t, s.member? name = some t → t.IsTable

theorem isSectioned_empty : emptyTable.IsSectioned where
  isTable := ⟨none, [], rfl⟩
  sections := by
    intro name t h
    cases h

/-- A tree has come out of another one by giving values to some fields. -/
structure Laid (given : SettingsField → Setting → Prop) (s t : Setting) : Prop where
  isSectioned : t.IsSectioned
  fields : ∀ f, (∃ v, given f v ∧ t.at? f = some v) ∨ (∀ v, ¬given f v) ∧ t.at? f = s.at? f

theorem Laid.refl (h : s.IsSectioned) : Laid (fun _ _ => False) s s where
  isSectioned := h
  fields _ := .inr ⟨fun _ => id, rfl⟩

theorem Laid.trans {s t u : Setting} {given more : SettingsField → Setting → Prop}
    (h : Laid given s t) (h' : Laid more t u) : Laid (fun f v => given f v ∨ more f v) s u where
  isSectioned := h'.isSectioned
  fields f := by
    rcases h'.fields f with ⟨v, hv, found⟩ | ⟨others, kept⟩
    · exact .inl ⟨v, .inr hv, found⟩
    · rw [kept]
      rcases h.fields f with ⟨v, hv, found⟩ | ⟨noneGiven, same⟩
      · exact .inl ⟨v, .inl hv, found⟩
      · exact .inr ⟨fun v hv => hv.elim (noneGiven v) (others v), same⟩

theorem Laid.congr {given other : SettingsField → Setting → Prop}
    (h : Laid given s t) (same : ∀ f v, given f v ↔ other f v) : Laid other s t := by
  have equal : given = other := funext fun f => funext fun v => propext (same f v)
  exact equal ▸ h

/-- Putting a section into a tree gives its fields what the section says. -/
theorem laid_put (h : s.IsSectioned) (given : String → Setting → Prop) (table : t.IsTable)
    (members : ∀ name, (∃ v, given name v ∧ t.member? name = some v) ∨
      (∀ v, ¬given name v) ∧
        t.member? name = (s.member? key).bind fun old => old.member? name) :
    Laid (fun f v => f.sectionName = key ∧ given f.name v) s (s.put key t) where
  isSectioned :=
    { isTable := isTable_put
      sections := by
        intro name u found
        rw [member?_put] at found
        split at found
        · cases found
          exact table
        · exact h.sections name u found }
  fields f := by
    rw [at?, at?, member?_put]
    by_cases here : f.sectionName = key
    · rw [if_pos here, here]
      rcases members f.name with ⟨v, hv, found⟩ | ⟨others, kept⟩
      · exact .inl ⟨v, ⟨rfl, hv⟩, found⟩
      · exact .inr ⟨fun v hv => others v hv.2, kept⟩
    · rw [if_neg here]
      exact .inr ⟨fun v hv => here hv.1, rfl⟩

/-! ## Keys

The two forms that keys have in layers: sections, in a file, and fields, in the environment. -/

/-- A key with one name lays a section over the one that is there. -/
theorem laid_section (h : s.IsSectioned) {o : Option Origin} {ms : List (String × Setting)}
    (scalars : ∀ m ∈ ms, m.2.IsScalar) :
    Laid (fun f v => f.sectionName = key ∧ (f.name, v) ∈ ms) s
      (s.putKey { root := key, steps := [] } (.table o ms)) := by
  have old : ((s.member? key).getD emptyTable).IsTable := by
    cases found : s.member? key with
    | none => exact ⟨none, [], rfl⟩
    | some t => exact h.sections key t found
  obtain ⟨table, members⟩ := layAll_scalars scalars old
  show Laid _ s (lay key (.table o ms) s)
  rw [lay]
  refine laid_put h (fun name v => (name, v) ∈ ms) table fun name => ?_
  rcases members name with given | ⟨others, kept⟩
  · exact .inl given
  · refine .inr ⟨others, ?_⟩
    rw [kept]
    cases s.member? key <;> rfl

/-- A key with two names sets one field. -/
theorem laid_field (h : s.IsSectioned) (scalar : v.IsScalar) (f : SettingsField) :
    Laid (fun g x => g = f ∧ x = v) s
      (s.putKey { root := f.sectionName, steps := [.member f.name] } v) := by
  have equal : s.putKey { root := f.sectionName, steps := [.member f.name] } v =
      s.put f.sectionName (((s.member? f.sectionName).getD .unit).put f.name v) := by
    rw [← lay_of_isScalar scalar]
    rfl
  have members (name : String) : (∃ x, (name = f.name ∧ x = v) ∧
        (((s.member? f.sectionName).getD .unit).put f.name v).member? name = some x) ∨
      (∀ x, ¬(name = f.name ∧ x = v)) ∧
        (((s.member? f.sectionName).getD .unit).put f.name v).member? name =
          (s.member? f.sectionName).bind fun old => old.member? name := by
    rw [member?_put]
    by_cases here : name = f.name
    · exact .inl ⟨v, ⟨here, rfl⟩, if_pos here⟩
    · refine .inr ⟨fun x hx => here hx.1, ?_⟩
      rw [if_neg here]
      cases s.member? f.sectionName <;> rfl
  rw [equal]
  refine (laid_put h _ isTable_put members).congr fun g x => ?_
  constructor
  · rintro ⟨-, same, value⟩
    exact ⟨SettingsField.name_injective same, value⟩
  · rintro ⟨rfl, value⟩
    exact ⟨rfl, rfl, value⟩

end Setting

/-! ## Layers

The induction over the entries of a layer, whatever kind of entries these are. -/

/-- A layer is laid entry by entry. -/
theorem SettingLayer.laid_over {layer : SettingLayer}
    {given : String × Setting → SettingsField → Setting → Prop}
    (step : ∀ e ∈ layer, ∀ s : Setting, s.IsSectioned →
      Setting.Laid (given e) s (s.putKey (.ofText e.1) e.2))
    {s : Setting} (h : s.IsSectioned) :
    Setting.Laid (fun f v => ∃ e ∈ layer, given e f v) s (layer.over s) := by
  induction layer generalizing s with
  | nil => exact (Setting.Laid.refl h).congr fun f v => by simp
  | cons e layer ih =>
      have first := step e List.mem_cons_self s h
      have rest := ih (fun e he => step e (List.mem_cons_of_mem _ he)) first.isSectioned
      exact (first.trans rest).congr fun f v => by simp

end VoiceLink
