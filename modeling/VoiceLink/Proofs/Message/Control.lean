import VoiceLink.Message.Control
import VoiceLink.Proofs.Json.Tokens
import VoiceLink.Proofs.Message.Audio

/-!
# What the server may say

The grammar of control messages in terms of the members of an object: which of them a field looks
at, how many there may be, and what their values may be (`ControlMessage.Describes`).
`ControlMessage.parse_object` says that the reader follows it, for objects of any size and in any
order.

The grammar speaks of objects in which a word is not written as an object and audio parameters are
not written as an array; the reader would take both.

Nothing of the reader is in the grammar. It says how often a member occurs where the reader goes
through the members one by one, and it has no notion of where a reader would stop. The order of
members has no place in it either.
-/

namespace VoiceLink

open JsonReader

namespace ControlMessage

/-! ## The grammar

A field is one that has to be there, one that may be there or be `null`, or one that has a value if
it is there; see `Body.Has` and its neighbours. -/

/-- The two names of the audio parameters in a greeting. -/
def paramNames : List String := ["audio_params", "audio_format"]

/-- The objects the grammar is about. They include those whose fields are scalars, the audio
parameters alone being an object. -/
structure Flat (ms : List (String × Json)) : Prop where
  words : ∀ m ∈ ms, m.1 ∈ ["state", "mode"] → ∀ fields, m.2 ≠ .object fields
  params : ∀ m ∈ ms, m.1 ∈ paramNames → ∀ xs, m.2 ≠ .array xs

/-- Exactly one member is the tag, and it is a string that stands for the kind. -/
def Tagged (ms : List (String × Json)) (k : Kind) : Prop :=
  ∃ tag, Envelope.tags ms = [(Envelope.tagName, .string tag)] ∧ Spells Kind.word .unknown tag k

/-- The members that stand for the fields of a message. -/
def Fields (ms : List (String × Json)) : ControlMessage → Prop
  | .hello sessionId transport params =>
    Body.May ["session_id"] Json.IsText ms sessionId ∧
      Body.May ["transport"] Json.IsText ms transport ∧
      Body.May paramNames AudioParams.IsParams ms params
  | .listen state mode text =>
    Body.Has ["state"] (Json.IsWord ListenState.word) ms state ∧
      Body.May ["mode"] (Json.IsWord ListenMode.word) ms mode ∧
      Body.May ["text"] Json.IsText ms text
  | .tts state text =>
    Body.Has ["state"] TtsState.IsState ms state ∧ Body.May ["text"] Json.IsText ms text
  | .stt text => ∃ given, Body.Optionally ["text"] Json.IsText ms given ∧ text = given.getD ""
  | .llm text emotion =>
    Body.May ["text"] Json.IsText ms text ∧ Body.May ["emotion"] Json.IsText ms emotion
  | .abort reason => Body.May ["reason"] Json.IsText ms reason
  | .unknown => True

/-- The members of an object that stand for a message. Members that no field of its kind looks at do
not matter. -/
structure Describes (ms : List (String × Json)) (m : ControlMessage) : Prop where
  tagged : Tagged ms m.kind
  fields : Fields ms m

/-! ## The reader

There is one equivalence for every kind of message, each from those of its fields. The kinds differ
in nothing but their fields, and what is said of all of them is put together in
`ofEnvelope_eq_ok_iff`. -/

theorem Kind.word_injective : Function.Injective Kind.word := by
  intro a b
  cases a <;> cases b <;> decide

theorem kindOf_eq_iff {tag : String} {k : Kind} :
    kindOf tag = k ↔ Spells Kind.word .unknown tag k :=
  lookup_words_or Kind.word_injective (by intro k; cases k <;> decide)

section Bodies

variable {ms : List (String × Json)} {m : ControlMessage}

theorem Flat.reads_word {α : Type} {name : String} (flat : Flat ms)
    (word : name ∈ ["state", "mode"]) {read : Json → Shaped α} {means : Json → α → Prop}
    (reads : ∀ v x, (∀ fields, v ≠ .object fields) → (read v = .ok x ↔ means v x)) :
    Body.Reads [name] read means ms := by
  intro m hm x
  have here := List.mem_of_mem_filter hm
  have named : m.1 = name := by simpa [Body.under] using (List.mem_filter.1 hm).2
  exact reads m.2 x (flat.words m here (named ▸ word))

theorem Flat.reads_params (flat : Flat ms) :
    Body.Reads paramNames AudioParams.ofJson AudioParams.IsParams ms := by
  intro m hm p
  have named : m.1 ∈ paramNames := by simpa [Body.under] using (List.mem_filter.1 hm).2
  exact AudioParams.ofJson_eq_ok_iff (flat.params m (List.mem_of_mem_filter hm) named)

theorem text_not_null (s : String) : ¬ Json.IsText .null s := nofun

theorem word_not_null {α : Type} {word : α → String} (x : α) : ¬ Json.IsWord word .null x := nofun

theorem params_not_null (p : AudioParams) : ¬ AudioParams.IsParams .null p := nofun

theorem helloOf_eq_ok_iff (flat : Flat ms) :
    helloOf (.members ms) = .ok m ↔ m.kind = .hello ∧ Fields ms m := by
  have params : Body.Reads ["audio_params", "audio_format"] AudioParams.ofJson
      AudioParams.IsParams ms := flat.reads_params
  simp only [helloOf, map_eq_ok_iff, Prod.exists, Located.both_eq_ok_iff,
    Body.defaulted_eq_ok_iff Body.reads_text text_not_null,
    Body.defaulted_eq_ok_iff params params_not_null]
  constructor
  · rintro ⟨sessionId, transport, params, _, ⟨h₁, h₂, h₃, -⟩, rfl⟩
    exact ⟨rfl, h₁, h₂, h₃⟩
  · rintro ⟨kind, fields⟩
    cases m with
    | hello sessionId transport params =>
        obtain ⟨h₁, h₂, h₃⟩ := fields
        exact ⟨_, _, _, (), ⟨h₁, h₂, h₃, rfl⟩, rfl⟩
    | _ => cases kind

theorem listenOf_eq_ok_iff (flat : Flat ms) :
    listenOf (.members ms) = .ok m ↔ m.kind = .listen ∧ Fields ms m := by
  have states : Body.Reads ["state"] ListenState.ofJson (Json.IsWord ListenState.word) ms :=
    flat.reads_word (by simp) fun _ _ word => ListenState.ofJson_eq_ok_iff word
  have modes : Body.Reads ["mode"] ListenMode.ofJson (Json.IsWord ListenMode.word) ms :=
    flat.reads_word (by simp) fun _ _ word => ListenMode.ofJson_eq_ok_iff word
  simp only [listenOf, map_eq_ok_iff, Prod.exists, Located.both_eq_ok_iff,
    Body.required_eq_ok_iff states, Body.defaulted_eq_ok_iff modes word_not_null,
    Body.defaulted_eq_ok_iff Body.reads_text text_not_null]
  constructor
  · rintro ⟨state, mode, text, _, ⟨h₁, h₂, h₃, -⟩, rfl⟩
    exact ⟨rfl, h₁, h₂, h₃⟩
  · rintro ⟨kind, fields⟩
    cases m with
    | listen state mode text =>
        obtain ⟨h₁, h₂, h₃⟩ := fields
        exact ⟨_, _, _, (), ⟨h₁, h₂, h₃, rfl⟩, rfl⟩
    | _ => cases kind

theorem ttsOf_eq_ok_iff (flat : Flat ms) :
    ttsOf (.members ms) = .ok m ↔ m.kind = .tts ∧ Fields ms m := by
  have states : Body.Reads ["state"] TtsState.ofJson TtsState.IsState ms :=
    flat.reads_word (by simp) fun _ _ word => TtsState.ofJson_eq_ok_iff word
  simp only [ttsOf, map_eq_ok_iff, Prod.exists, Located.both_eq_ok_iff,
    Body.required_eq_ok_iff states, Body.defaulted_eq_ok_iff Body.reads_text text_not_null]
  constructor
  · rintro ⟨state, text, _, ⟨h₁, h₂, -⟩, rfl⟩
    exact ⟨rfl, h₁, h₂⟩
  · rintro ⟨kind, fields⟩
    cases m with
    | tts state text =>
        obtain ⟨h₁, h₂⟩ := fields
        exact ⟨_, _, (), ⟨h₁, h₂, rfl⟩, rfl⟩
    | _ => cases kind

theorem sttOf_eq_ok_iff : sttOf (.members ms) = .ok m ↔ m.kind = .stt ∧ Fields ms m := by
  simp only [sttOf, map_eq_ok_iff, Prod.exists, Located.both_eq_ok_iff,
    Body.optional_eq_ok_iff Body.reads_text]
  constructor
  · rintro ⟨given, _, ⟨h₁, -⟩, rfl⟩
    exact ⟨rfl, given, h₁, rfl⟩
  · rintro ⟨kind, fields⟩
    cases m with
    | stt text =>
        obtain ⟨given, h₁, rfl⟩ := fields
        exact ⟨given, (), ⟨h₁, rfl⟩, rfl⟩
    | _ => cases kind

theorem llmOf_eq_ok_iff : llmOf (.members ms) = .ok m ↔ m.kind = .llm ∧ Fields ms m := by
  simp only [llmOf, map_eq_ok_iff, Prod.exists, Located.both_eq_ok_iff,
    Body.defaulted_eq_ok_iff Body.reads_text text_not_null]
  constructor
  · rintro ⟨text, emotion, _, ⟨h₁, h₂, -⟩, rfl⟩
    exact ⟨rfl, h₁, h₂⟩
  · rintro ⟨kind, fields⟩
    cases m with
    | llm text emotion =>
        obtain ⟨h₁, h₂⟩ := fields
        exact ⟨_, _, (), ⟨h₁, h₂, rfl⟩, rfl⟩
    | _ => cases kind

theorem abortOf_eq_ok_iff : abortOf (.members ms) = .ok m ↔ m.kind = .abort ∧ Fields ms m := by
  simp only [abortOf, map_eq_ok_iff, Prod.exists, Located.both_eq_ok_iff,
    Body.defaulted_eq_ok_iff Body.reads_text text_not_null]
  constructor
  · rintro ⟨reason, _, ⟨h₁, -⟩, rfl⟩
    exact ⟨rfl, h₁⟩
  · rintro ⟨kind, fields⟩
    cases m with
    | abort reason => exact ⟨_, (), ⟨fields, rfl⟩, rfl⟩
    | _ => cases kind

theorem unknownOf_eq_ok_iff :
    unknownOf (.members ms) = .ok m ↔ m.kind = .unknown ∧ Fields ms m := by
  simp only [unknownOf, map_eq_ok_iff]
  constructor
  · rintro ⟨_, -, rfl⟩
    exact ⟨rfl, trivial⟩
  · rintro ⟨kind, -⟩
    cases m with
    | unknown => exact ⟨(), rfl, rfl⟩
    | _ => cases kind

/-- The members of a body are the fields of the message that is made of it. -/
theorem ofEnvelope_eq_ok_iff (flat : Flat ms) {k : Kind} :
    ofEnvelope { kind := k, body := .members ms } = .ok m ↔ m.kind = k ∧ Fields ms m := by
  rw [ofEnvelope, Located.shaped_eq_ok_iff]
  cases k with
  | hello => exact helloOf_eq_ok_iff flat
  | listen => exact listenOf_eq_ok_iff flat
  | tts => exact ttsOf_eq_ok_iff flat
  | stt => exact sttOf_eq_ok_iff
  | llm => exact llmOf_eq_ok_iff
  | abort => exact abortOf_eq_ok_iff
  | unknown => exact unknownOf_eq_ok_iff

/-- Which fields there are does not depend on the tag. -/
theorem fields_untagged : Fields (Envelope.untagged ms) m ↔ Fields ms m := by
  cases m
  all_goals
    simp (disch := decide) only [Fields, Body.has_untagged, Body.may_untagged,
      Body.optionally_untagged]

theorem Flat.untagged (flat : Flat ms) : Flat (Envelope.untagged ms) :=
  { words := fun m hm => flat.words m (List.mem_of_mem_filter hm)
    params := fun m hm => flat.params m (List.mem_of_mem_filter hm) }

end Bodies

/-- **An object is a message exactly if its members describe one**, whatever their number and
order, and it is that message. The whole numbers among them are those whose digits stand in the
text. -/
theorem parse_object {text : String} {ms : List (String × Json)}
    (whole : Json.parse text = .ok (.object ms)) (flat : Flat ms) :
    (∀ m, ControlMessage.parse text = .ok m ↔ Describes ms m) ∧
      ∀ depth n cs rest, JsonReader.value depth cs = .ok (.nat n, rest) ↔
        skipBlanks cs = Numeral.digits n ++ rest ∧ Ends rest ∧ n ≤ maxWord := by
  refine ⟨fun m => ?_, fun depth n cs rest => value_nat_iff⟩
  rw [ControlMessage.parse, Envelope.parse_eq_ok_iff]
  constructor
  · rintro ⟨v, value, e, holds, decoded⟩
    cases whole.symm.trans value
    cases holds with
    | object only known =>
        cases known
        obtain ⟨kind, fields⟩ := (ofEnvelope_eq_ok_iff flat.untagged).1 decoded
        exact ⟨⟨_, only, kindOf_eq_iff.1 kind.symm⟩, fields_untagged.1 fields⟩
  · rintro ⟨⟨tag, only, spells⟩, fields⟩
    have known : (Except.ok (kindOf tag) : Shaped Kind) = .ok m.kind := by
      rw [kindOf_eq_iff.2 spells]
    exact ⟨_, whole, _, .object only known,
      (ofEnvelope_eq_ok_iff flat.untagged).2 ⟨rfl, fields_untagged.2 fields⟩⟩

/-- A greeting with the parameters under their second name and a member that no field looks at; the
tag comes last. -/
theorem parse_object_greeting :
    let params := AudioParams.opus 16000 1 60
    let ms := [("audio_format", params.toJson), ("extra", .nat 1), ("type", .string "hello")]
    ControlMessage.parse (Json.object ms).text = .ok (.hello none none (some params)) := by
  intro params ms
  have readable : ∀ m ∈ ms, m.2.Readable (maxDepth - 1) := by
    intro m hm
    simp only [ms, List.mem_cons, List.not_mem_nil, or_false] at hm
    rcases hm with rfl | rfl | rfl
    · exact params.readable _
    · exact Json.readable_nat _ (by decide)
    · exact Json.readable_string _ _
  have whole : Json.parse (Json.object ms).text = .ok (.object ms) :=
    Json.parse_text (Json.readable_object readable)
  have flat : Flat ms := by
    constructor
    · simp [ms]
    · simp [ms, paramNames, AudioParams.toJson]
  apply ((parse_object whole flat).1 _).2
  refine ⟨⟨"hello", rfl, .inl ⟨nofun, rfl⟩⟩, .inl rfl, .inl rfl, ?_⟩
  exact ⟨"audio_format", _, rfl, params.members, rfl, ⟨"sample_rate", _, rfl, rfl⟩,
    ⟨"channels", _, rfl, rfl⟩, ⟨"frame_duration", _, rfl, rfl⟩, ⟨"format", _, rfl, rfl⟩⟩

end ControlMessage

end VoiceLink
