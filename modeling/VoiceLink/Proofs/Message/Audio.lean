import VoiceLink.Proofs.Message.Field

/-!
# What words and audio parameters are accepted

A word of the protocol stands for what it spells, and an object for the audio parameters if each of
their members is there once. The same could be said in other ways, as an object with the word for
its only key and as an array; the lemmas here are about values that are neither.

What is accepted is described by relations between values and data. They are not functions, because
they say nothing of the faults that refused values are blamed for.
-/

namespace VoiceLink

/-! ## Words

Each of the three choices has a table of words, and that of the states of speech takes all other
words for one more state. -/

theorem ListenState.word_injective : Function.Injective ListenState.word := by
  intro a b
  cases a <;> cases b <;> decide

theorem ListenMode.word_injective : Function.Injective ListenMode.word := by
  intro a b
  cases a <;> cases b <;> decide

theorem TtsState.word_injective : Function.Injective TtsState.word := by
  intro a b
  cases a <;> cases b <;> decide

theorem ListenState.ofJson_eq_ok_iff {v : Json} (flat : ∀ fields, v ≠ .object fields)
    {s : ListenState} : ListenState.ofJson v = .ok s ↔ v.IsWord word s := by
  have words {name : String} : choose table name = .ok s ↔ name = s.word :=
    choose_words word_injective (by intro s; cases s <;> decide)
  simp only [ofJson, Json.asChoice_eq_ok_iff flat, words, exists_eq_right, Json.IsWord]

theorem ListenMode.ofJson_eq_ok_iff {v : Json} (flat : ∀ fields, v ≠ .object fields)
    {m : ListenMode} : ListenMode.ofJson v = .ok m ↔ v.IsWord word m := by
  have words {name : String} : choose table name = .ok m ↔ name = m.word :=
    choose_words word_injective (by intro m; cases m <;> decide)
  simp only [ofJson, Json.asChoice_eq_ok_iff flat, words, exists_eq_right, Json.IsWord]

/-- A string means the state of speech it spells, one that is not known being another one. -/
def TtsState.IsState (v : Json) (s : TtsState) : Prop :=
  ∃ name, v = .string name ∧ Spells word other name s

theorem TtsState.ofJson_eq_ok_iff {v : Json} (flat : ∀ fields, v ≠ .object fields)
    {s : TtsState} : TtsState.ofJson v = .ok s ↔ IsState v s := by
  have words {name : String} : (table.lookup name).getD other = s ↔ Spells word other name s :=
    lookup_words_or word_injective (by intro s; cases s <;> decide)
  simp only [ofJson, Json.asChoice_eq_ok_iff flat, Except.ok.injEq, words, IsState]

/-! ## Audio parameters

Four fields, all of which have to be there; other members do not matter. -/

namespace AudioParams

/-- The members of an object that stand for audio parameters. -/
structure Described (ms : List (String × Json)) (p : AudioParams) : Prop where
  sampleRate : Body.Has ["sample_rate"] Json.IsUInt32 ms p.sampleRate
  channels : Body.Has ["channels"] Json.IsUInt16 ms p.channels
  frameDuration : Body.Has ["frame_duration"] Json.IsUInt32 ms p.frameDuration
  format : Body.Has ["format"] Json.IsText ms p.format

def IsParams (v : Json) (p : AudioParams) : Prop := ∃ ms, v = .object ms ∧ Described ms p

theorem ofBody_eq_ok_iff {ms : List (String × Json)} {p : AudioParams} :
    ofBody (.members ms) = .ok p ↔ Described ms p := by
  simp only [ofBody, map_eq_ok_iff, Prod.exists, Located.both_eq_ok_iff,
    Body.required_eq_ok_iff Body.reads_uint32, Body.required_eq_ok_iff Body.reads_uint16,
    Body.required_eq_ok_iff Body.reads_text]
  constructor
  · rintro ⟨rate, channels, duration, format, _, ⟨h₁, h₂, h₃, h₄, -⟩, rfl⟩
    exact ⟨h₁, h₂, h₃, h₄⟩
  · rintro ⟨h₁, h₂, h₃, h₄⟩
    exact ⟨_, _, _, _, (), ⟨h₁, h₂, h₃, h₄, rfl⟩, rfl⟩

theorem ofJson_eq_ok_iff {v : Json} (flat : ∀ xs, v ≠ .array xs) {p : AudioParams} :
    AudioParams.ofJson v = .ok p ↔ IsParams v p := by
  cases v with
  | array xs => exact absurd rfl (flat xs)
  | object ms =>
      have opened : AudioParams.ofJson (.object ms) = (ofBody (.members ms)).shaped := rfl
      rw [opened, Located.shaped_eq_ok_iff, ofBody_eq_ok_iff]
      simp [IsParams]
  | _ => simp [ofJson, IsParams, Body.ofJson, bind, Except.bind]

end AudioParams

end VoiceLink
