import VoiceLink.Proofs.Message.Envelope

/-!
# What a field accepts

A field looks at the members that go under its names (`Body.under`). How many of them there may be
is a matter of the kind of field, what their values may be is a relation between values and what
they mean. For each kind of field and each kind of value the reader is shown to follow this
(`Body.required_eq_ok_iff`, `Json.asUInt32_eq_ok_iff` and so on).
-/

namespace VoiceLink

/-! ## Fields

A field is one that has to be there, one that may be there or be `null`, or one that has a value if
it is there at all. The reader goes over the members one by one and remembers what it has seen; the
grammar looks at all members under the names at once. That a second one is refused, whatever its
value, is what makes the two the same. -/

namespace Located

variable {α β : Type}

theorem both_eq_ok_iff {a : Located α} {b : Located β} {x : α} {y : β} :
    a.both b = .ok (x, y) ↔ a = .ok x ∧ b = .ok y := by
  cases a <;> cases b <;> simp [both]

theorem shaped_eq_ok_iff {a : Located α} {x : α} : a.shaped = .ok x ↔ a = .ok x := by
  cases a <;> simp [shaped, Except.mapError]

end Located

namespace Body

variable {α : Type} {names : List String} {read : Json → Shaped α} {means : Json → α → Prop}
  {ms : List (String × Json)}

/-- Exactly one member goes under one of the names, and its value means `x`. -/
def Has (names : List String) (means : Json → α → Prop) (ms : List (String × Json)) (x : α) :
    Prop :=
  ∃ key v, under names ms = [(key, v)] ∧ means v x

/-- No member goes under the names, or one with a value. -/
def Optionally (names : List String) (means : Json → α → Prop) (ms : List (String × Json)) :
    Option α → Prop
  | none => under names ms = []
  | some x => Has names means ms x

/-- No member goes under the names, or one that is `null`, or one with a value. -/
def May (names : List String) (means : Json → α → Prop) (ms : List (String × Json)) :
    Option α → Prop
  | none => under names ms = [] ∨ ∃ key, under names ms = [(key, .null)]
  | some x => Has names means ms x

/-- The values of the members for a field are read as what they mean. -/
def Reads (names : List String) (read : Json → Shaped α) (means : Json → α → Prop)
    (ms : List (String × Json)) : Prop :=
  ∀ m ∈ under names ms, ∀ x, read m.2 = .ok x ↔ means m.2 x

theorem under_cons_of_mem {key : String} (here : key ∈ names) (v : Json)
    (ms : List (String × Json)) : under names ((key, v) :: ms) = (key, v) :: under names ms := by
  rw [under, List.filter_cons_of_pos (by simpa using here), under]

theorem under_cons_of_not_mem {key : String} (elsewhere : key ∉ names) (v : Json)
    (ms : List (String × Json)) : under names ((key, v) :: ms) = under names ms := by
  rw [under, List.filter_cons_of_neg (by simpa using elsewhere), under]

/-- The tag is not among the members of a body, which no field but the tag notices. -/
theorem under_untagged (other : Envelope.tagName ∉ names) :
    under names (Envelope.untagged ms) = under names ms := by
  rw [under, under, Envelope.untagged, List.filter_filter]
  apply List.filter_congr
  intro m _
  by_cases field : m.1 ∈ names
  · have : m.1 ≠ Envelope.tagName := fun same => other (same ▸ field)
    simp [field, this]
  · simp [field]

theorem has_untagged (other : Envelope.tagName ∉ names) {x : α} :
    Has names means (Envelope.untagged ms) x ↔ Has names means ms x := by
  rw [Has, Has, under_untagged other]

theorem optionally_untagged (other : Envelope.tagName ∉ names) {x : Option α} :
    Optionally names means (Envelope.untagged ms) x ↔ Optionally names means ms x := by
  cases x <;> simp only [Optionally, has_untagged other, under_untagged other]

theorem may_untagged (other : Envelope.tagName ∉ names) {x : Option α} :
    May names means (Envelope.untagged ms) x ↔ May names means ms x := by
  cases x <;> simp only [May, has_untagged other, under_untagged other]

theorem memberNamed_seen {place : Nat} {x : α} {found : Option α}
    (h : memberNamed names read place (some x) ms = .ok found) :
    under names ms = [] ∧ found = some x := by
  induction ms generalizing place with
  | nil =>
      cases h
      exact ⟨rfl, rfl⟩
  | cons m ms ih =>
      obtain ⟨key, v⟩ := m
      rw [memberNamed.eq_def] at h
      by_cases here : key ∈ names
      · simp [here] at h
      · simp only [List.contains_iff_mem, here, ↓reduceIte] at h
        rw [under_cons_of_not_mem here]
        exact ih h

theorem memberNamed_fresh {place : Nat} {found : Option α}
    (h : memberNamed names read place none ms = .ok found) :
    Optionally names (fun v x => read v = .ok x) ms found := by
  induction ms generalizing place with
  | nil =>
      cases h
      rfl
  | cons m ms ih =>
      obtain ⟨key, v⟩ := m
      rw [memberNamed.eq_def] at h
      by_cases here : key ∈ names
      · simp only [List.contains_iff_mem, here, ↓reduceIte] at h
        split at h
        · next x value =>
          obtain ⟨alone, rfl⟩ := memberNamed_seen h
          exact ⟨key, v, by rw [under_cons_of_mem here, alone], value⟩
        · cases h
      · simp only [List.contains_iff_mem, here, ↓reduceIte] at h
        have rest := ih h
        cases found with
        | none => exact (under_cons_of_not_mem here v ms).trans rest
        | some x =>
            obtain ⟨key', v', only, value⟩ := rest
            exact ⟨key', v', (under_cons_of_not_mem here v ms).trans only, value⟩

/-- A field that is optional has the value of the one member for it, if there is one. -/
theorem optional_eq_ok_iff (reads : Reads names read means ms) {i : Nat} {found : Option α} :
    (Body.members ms).optional i names read = .ok found ↔ Optionally names means ms found := by
  constructor
  · intro h
    have given := memberNamed_fresh h
    cases found with
    | none => exact given
    | some x =>
        obtain ⟨key, v, only, value⟩ := given
        exact ⟨key, v, only, (reads (key, v) (by simp [only]) x).1 value⟩
  · intro given
    cases found with
    | none => exact memberNamed_of_nil given 0 none
    | some x =>
        obtain ⟨key, v, only, value⟩ := given
        exact memberNamed_of_singleton only ((reads (key, v) (by simp [only]) x).2 value) 0

theorem required_eq_ok_iff (reads : Reads names read means ms) {record : String} {i : Nat} {x : α} :
    (Body.members ms).required record i names read = .ok x ↔ Has names means ms x := by
  have same : Has names means ms x ↔ Optionally names means ms (some x) := Iff.rfl
  rw [same, ← optional_eq_ok_iff reads, required]
  cases (Body.members ms).optional i names read with
  | error e => simp
  | ok found => cases found <;> simp

/-- What a value means where `null` stands for nothing. -/
def OrNull (means : Json → α → Prop) (v : Json) : Option α → Prop
  | none => v = .null
  | some x => means v x

theorem Reads.orNull (reads : Reads names read means ms) (something : ∀ x, ¬ means .null x) :
    Reads names (Json.asNullable read) (OrNull means) ms := by
  intro m hm found
  have value := reads m hm
  obtain ⟨key, v⟩ := m
  cases v with
  | null => cases found <;> simp [Json.asNullable, OrNull, something]
  | _ =>
      dsimp only [Json.asNullable]
      rw [map_eq_ok_iff]
      cases found with
      | none => simp [OrNull]
      | some x => simpa [OrNull] using value x

/-- A field with a default has nothing, or the value of the one member for it. -/
theorem defaulted_eq_ok_iff (reads : Reads names read means ms) (something : ∀ x, ¬ means .null x)
    {i : Nat} {found : Option α} :
    (Body.members ms).defaulted i names read = .ok found ↔ May names means ms found := by
  rw [defaulted, map_eq_ok_iff]
  simp only [optional_eq_ok_iff (reads.orNull something)]
  constructor
  · rintro ⟨given, stands, rfl⟩
    obtain _ | _ | x := given
    · exact .inl stands
    · obtain ⟨key, v, only, rfl⟩ := stands
      exact .inr ⟨key, only⟩
    · exact stands
  · intro stands
    cases found with
    | none =>
        rcases stands with absent | ⟨key, only⟩
        · exact ⟨none, absent, rfl⟩
        · exact ⟨some none, ⟨key, .null, only, rfl⟩, rfl⟩
    | some x => exact ⟨some (some x), stands, rfl⟩

end Body

/-! ## Values

What the values of fields mean, apart from how they are read. A whole number means one of a width
only if it is written in digits and fits. -/

namespace Json

def IsText (v : Json) (s : String) : Prop := v = .string s

/-- A string that spells a word means what the word stands for. -/
def IsWord {α : Type} (word : α → String) (v : Json) (x : α) : Prop := v = .string (word x)

def IsUInt32 (v : Json) (n : UInt32) : Prop := v = .nat n.toNat

def IsUInt16 (v : Json) (n : UInt16) : Prop := v = .nat n.toNat

theorem asString_eq_ok_iff {v : Json} {s : String} : v.asString = .ok s ↔ v.IsText s := by
  cases v <;> simp [asString, IsText]

theorem asBelow_eq_ok_iff {bound : Nat} {expected : String} {v : Json} {n : Nat} :
    v.asBelow bound expected = .ok n ↔ v = .nat n ∧ n < bound := by
  constructor
  · intro h
    unfold asBelow at h
    split at h
    · next m =>
      split at h
      · next fits =>
        cases h
        refine ⟨?_, by omega⟩
        rw [nat, Int.toNat_of_nonneg fits.1]
      · cases h
    · cases h
  · rintro ⟨rfl, fits⟩
    exact asBelow_nat fits expected

theorem asUInt32_eq_ok_iff {v : Json} {n : UInt32} : v.asUInt32 = .ok n ↔ v.IsUInt32 n := by
  constructor
  · intro h
    obtain ⟨m, below, rfl⟩ := map_eq_ok_iff.1 h
    obtain ⟨rfl, fits⟩ := asBelow_eq_ok_iff.1 below
    rw [IsUInt32, UInt32.toNat_ofNat_of_lt' fits]
  · rintro rfl
    exact asUInt32_nat n

theorem asUInt16_eq_ok_iff {v : Json} {n : UInt16} : v.asUInt16 = .ok n ↔ v.IsUInt16 n := by
  constructor
  · intro h
    obtain ⟨m, below, rfl⟩ := map_eq_ok_iff.1 h
    obtain ⟨rfl, fits⟩ := asBelow_eq_ok_iff.1 below
    rw [IsUInt16, UInt16.toNat_ofNat_of_lt' fits]
  · rintro rfl
    exact asUInt16_nat n

end Json

namespace Body

variable {names : List String} {ms : List (String × Json)}

theorem reads_text : Reads names Json.asString Json.IsText ms :=
  fun _ _ _ => Json.asString_eq_ok_iff

theorem reads_uint32 : Reads names Json.asUInt32 Json.IsUInt32 ms :=
  fun _ _ _ => Json.asUInt32_eq_ok_iff

theorem reads_uint16 : Reads names Json.asUInt16 Json.IsUInt16 ms :=
  fun _ _ _ => Json.asUInt16_eq_ok_iff

end Body

/-! ### Words

Tables of words are searched from the front. As no two words are alike, that does not show. -/

section Words

variable {α : Type} {word : α → String} {all : List α} {name : String} {x : α}

/-- What a name stands for where all names but the words stand for `rest`. -/
def Spells (word : α → String) (rest : α) (name : String) (x : α) : Prop :=
  (x ≠ rest ∧ name = word x) ∨ (x = rest ∧ ∀ y, y ≠ rest → name ≠ word y)

theorem lookup_words (different : Function.Injective word) :
    (all.map fun x => (word x, x)).lookup name = some x ↔ x ∈ all ∧ name = word x := by
  induction all with
  | nil => simp
  | cons y all ih =>
      rw [List.map_cons, List.lookup_cons]
      by_cases here : name = word y
      · subst here
        simp only [beq_self_eq_true, Option.some.injEq, List.mem_cons]
        constructor
        · rintro rfl
          exact ⟨.inl rfl, rfl⟩
        · rintro ⟨-, same⟩
          exact different same
      · simp only [beq_eq_false_iff_ne.2 here, ih, List.mem_cons]
        constructor
        · rintro ⟨listed, rfl⟩
          exact ⟨.inr listed, rfl⟩
        · rintro ⟨rfl | listed, rfl⟩
          · exact absurd rfl here
          · exact ⟨listed, rfl⟩

/-- Of a complete table the one word is taken. -/
theorem choose_words (different : Function.Injective word) (complete : ∀ x, x ∈ all) :
    choose (all.map fun x => (word x, x)) name = .ok x ↔ name = word x := by
  have found : (all.map fun x => (word x, x)).lookup name = some x ↔ name = word x := by
    rw [lookup_words different]
    exact and_iff_right (complete x)
  rw [← found, choose]
  split
  · next y listed => simp [listed]
  · next missing => simp [missing]

/-- What is not in a table falls to the rest. -/
theorem lookup_words_or (different : Function.Injective word) {rest : α}
    (complete : ∀ x, x ∈ all ↔ x ≠ rest) :
    ((all.map fun x => (word x, x)).lookup name).getD rest = x ↔ Spells word rest name x := by
  cases found : (all.map fun x => (word x, x)).lookup name with
  | none =>
      have unlisted : ∀ y, y ≠ rest → name ≠ word y := by
        rintro y other rfl
        have := (lookup_words different).2 ⟨(complete y).2 other, rfl⟩
        rw [found] at this
        cases this
      constructor
      · rintro rfl
        exact .inr ⟨rfl, unlisted⟩
      · rintro (⟨other, rfl⟩ | ⟨rfl, -⟩)
        · exact absurd rfl (unlisted x other)
        · rfl
  | some y =>
      obtain ⟨listed, rfl⟩ := (lookup_words different).1 found
      constructor
      · rintro rfl
        exact .inl ⟨(complete y).1 listed, rfl⟩
      · rintro (⟨-, same⟩ | ⟨rfl, unlisted⟩)
        · exact different same
        · exact absurd rfl (unlisted y ((complete y).1 listed))

end Words

/-- A choice among names is made by a string, unless it is made by an object. -/
theorem Json.asChoice_eq_ok_iff {α : Type} {named : String → Shaped α} {v : Json}
    (flat : ∀ fields, v ≠ .object fields) {x : α} :
    v.asChoice named = .ok x ↔ ∃ name, v = .string name ∧ named name = .ok x := by
  cases v with
  | object fields => exact absurd rfl (flat fields)
  | _ => simp [asChoice]

end VoiceLink
