import VoiceLink.Message.Client
import VoiceLink.Proofs.Json.RoundTrip

/-!
# Client messages on the wire

A message is written by one algorithm and read by another: the writer prints an object, the reader
takes the tag out of it, keeps the other members and looks for each field among them.
`ClientMessage.text_written` says that the text is the object it should be and that reading it gives
the message back, whatever texts and numbers are in it and whichever fields are absent.

The proof follows the reader: the envelope takes the tag, which is the first member, and then every
field is looked for under its names. For both there is a lemma about members in general, which the
kinds of messages only apply to their own.
-/

namespace VoiceLink

open JsonReader

/-! ## Envelopes

The reader of envelopes takes the members of an object as the reader of objects does, apart from the
tag. Among those that are written there is no second one. -/

namespace Envelope

variable {κ : Type} {kindOf : String → Shaped κ} {k : κ}

theorem readKind_quoted {tag : String} (found : kindOf tag = .ok k) (rest : List Char) :
    readKind kindOf ((Json.string tag).chars ++ rest) = .ok (k, rest) := by
  rw [Json.chars, quote_append, readKind, skipBlanks_cons (by decide)]
  simp only [scalar?_quoted, bind, Except.bind, found]
  rfl

theorem pastClose_close (c : Char) (rest : List Char) (h : isBlank c = false) :
    pastClose c (c :: rest) = rest := by
  rw [pastClose, skipBlanks_cons h]
  simp

/-- Behind the tag, the members are read as they are in any object. -/
theorem members_memberChars {value : JsonReader Json} {ms : List (String × Json)}
    (readable : ∀ m ∈ ms, m.2.ReadBy value) (untagged : ∀ m ∈ ms, m.1 ≠ tagName) {fuel : Nat}
    (enough : ms.length < fuel) (first : Bool) (rest : List Char) :
    members kindOf value fuel first (some k) (Json.memberChars first ms ++ '\x7d' :: rest) =
      .ok ((k, ms), rest) := by
  induction ms generalizing fuel first with
  | nil =>
      cases fuel with
      | zero => cases enough
      | succ fuel =>
          rw [Json.memberChars, List.nil_append, members, nextKey_close]
          simp only [bind, Except.bind, pastClose_close '\x7d' rest (by decide)]
          rfl
  | cons m ms ih =>
      cases fuel with
      | zero => cases enough
      | succ fuel =>
          obtain ⟨key, x⟩ := m
          have here : value (x.chars ++ (Json.memberChars false ms ++ '\x7d' :: rest)) =
              .ok (x, Json.memberChars false ms ++ '\x7d' :: rest) :=
            readable (key, x) List.mem_cons_self _ (Json.ends_memberChars ms rest)
          -- the members behind this one are read with one round less
          have others := ih (fun m hm => readable m (List.mem_cons_of_mem _ hm))
            (fun m hm => untagged m (List.mem_cons_of_mem _ hm)) (Nat.lt_of_succ_lt_succ enough)
            false
          have field : key ≠ tagName := untagged (key, x) List.mem_cons_self
          rw [Json.memberChars_cons_append, members, nextKey_quote]
          simp only [bind, Except.bind, string_quoted, colon_cons, if_neg field, here, others]
          rfl

/-- A written object whose first member is a known tag is read as a message of that kind. -/
theorem read_tagged {tag : String} {ms : List (String × Json)} (found : kindOf tag = .ok k)
    (readable : ∀ m ∈ ms, m.2.Readable (maxDepth - 1)) (untagged : ∀ m ∈ ms, m.1 ≠ tagName)
    (expected : String) (rest : List Char) :
    read expected kindOf ((Json.object ((tagName, .string tag) :: ms)).chars ++ rest) =
      .ok ({ kind := k, body := .members ms }, rest) := by
  have opened (cs : List Char) : scalar? '\x7b' cs = none := rfl
  have object : ('\x7b' = '[') = False := by decide
  rw [Json.object_append, read, skipBlanks_cons (by decide)]
  simp only [opened, object, ↓reduceIte]
  have enough : ms.length <
      (Json.memberChars true ((tagName, .string tag) :: ms) ++ '\x7d' :: rest).length := by
    have := Json.length_le_memberChars true ((tagName, .string tag) :: ms)
    rw [List.length_cons] at this
    rw [List.length_append]
    omega
  generalize (Json.memberChars true ((tagName, .string tag) :: ms) ++ '\x7d' :: rest).length = n
    at enough
  have others : members kindOf (value (maxDepth - 1)) n false (some k)
      (Json.memberChars false ms ++ '\x7d' :: rest) = .ok ((k, ms), rest) :=
    members_memberChars readable untagged enough false rest
  rw [Json.memberChars_cons_append, members, nextKey_quote]
  simp only [bind, Except.bind, string_quoted, colon_cons, ↓reduceIte, Option.isSome_none,
    Bool.false_eq_true, readKind_quoted found, others]
  rfl

theorem parse_tagged {α : Type} {decode : Envelope κ → Shaped α} {tag : String}
    {ms : List (String × Json)} {message : α} (found : kindOf tag = .ok k)
    (readable : ∀ m ∈ ms, m.2.Readable (maxDepth - 1)) (untagged : ∀ m ∈ ms, m.1 ≠ tagName)
    (decoded : decode { kind := k, body := .members ms } = .ok message) (expected : String) :
    parse expected kindOf decode (Json.object ((tagName, .string tag) :: ms)).text =
      .ok message := by
  have whole := read_tagged found readable untagged expected []
  rw [List.append_nil] at whole
  simp only [parse, Json.text, String.toList_ofList, whole, decoded]
  rfl

end Envelope

/-! ## Fields

A field looks at the members under its names. Since every name is written at most once, there is one
such member or none. -/

namespace Body

variable {α : Type} {names : List String} {read : Json → Shaped α} {ms : List (String × Json)}

/-- The members that a field looks at. -/
def under (names : List String) (ms : List (String × Json)) : List (String × Json) :=
  ms.filter fun m => m.1 ∈ names

theorem memberNamed_of_nil (none : under names ms = []) (place : Nat) (seen : Option α) :
    memberNamed names read place seen ms = .ok seen := by
  induction ms generalizing place with
  | nil => rfl
  | cons m ms ih =>
      obtain ⟨key, v⟩ := m
      by_cases here : key ∈ names
      · simp [under, here] at none
      · have rest : under names ms = [] := by
          rw [under, List.filter_cons_of_neg (by simpa using here)] at none
          exact none
        rw [memberNamed.eq_def]
        simp only [List.contains_iff_mem, here, ↓reduceIte]
        exact ih rest (place + 1)

theorem memberNamed_of_singleton {key : String} {v : Json} {x : α}
    (only : under names ms = [(key, v)]) (h : read v = .ok x) (place : Nat) :
    memberNamed names read place none ms = .ok (some x) := by
  induction ms generalizing place with
  | nil => cases only
  | cons m ms ih =>
      obtain ⟨key', v'⟩ := m
      by_cases here : key' ∈ names
      · rw [under, List.filter_cons_of_pos (by simpa using here)] at only
        obtain ⟨same, rest⟩ := List.cons.inj only
        cases same
        simp only [memberNamed, List.contains_iff_mem, here, ↓reduceIte, h]
        exact memberNamed_of_nil rest _ _
      · rw [under, List.filter_cons_of_neg (by simpa using here)] at only
        simp only [memberNamed, List.contains_iff_mem, here, ↓reduceIte]
        exact ih only (place + 1)

/-- A field that one member is for has the value of that member. -/
theorem required_of_singleton {key : String} (v : Json) {x : α}
    (only : under names ms = [(key, v)]) (h : read v = .ok x) (record : String) (i : Nat) :
    (Body.members ms).required record i names read = .ok x := by
  rw [required, optional, memberNamed_of_singleton only h]

theorem nullable_of_singleton {key : String} (v : Json) {x : Option α}
    (only : under names ms = [(key, v)]) (h : Json.asNullable read v = .ok x) (record : String)
    (i : Nat) : (Body.members ms).nullable record i names read = .ok x := by
  rw [nullable, optional, memberNamed_of_singleton only h]
  rfl

/-- A field that no member is for is absent. -/
theorem nullable_of_nil (none : under names ms = []) (record : String) (i : Nat) :
    (Body.members ms).nullable record i names read = .ok .none := by
  rw [nullable, optional, memberNamed_of_nil none]
  rfl

end Body

/-! ## Values of fields

Numbers that have 16 or 32 bits are written as they are and are not too large for the same field
when they are read. -/

namespace Json

theorem asBelow_nat {n bound : Nat} (h : n < bound) (expected : String) :
    (Json.nat n).asBelow bound expected = .ok n := by
  have fits : (0 : Int) ≤ n ∧ (n : Int) < bound := ⟨Int.natCast_nonneg n, Int.ofNat_lt.2 h⟩
  rw [Json.nat, asBelow, if_pos fits, Int.toNat_natCast]

theorem asUInt32_nat (n : UInt32) : (Json.nat n.toNat).asUInt32 = .ok n := by
  rw [asUInt32, asBelow_nat n.toNat_lt, Except.map, UInt32.ofNat_toNat]

theorem asUInt16_nat (n : UInt16) : (Json.nat n.toNat).asUInt16 = .ok n := by
  rw [asUInt16, asBelow_nat n.toNat_lt, Except.map, UInt16.ofNat_toNat]

theorem readable_uint32 (depth : Nat) (n : UInt32) : Readable depth (.nat n.toNat) := by
  apply readable_nat
  have := n.toNat_lt
  have word : maxWord = 2 ^ 64 - 1 := by decide
  omega

theorem readable_uint16 (depth : Nat) (n : UInt16) : Readable depth (.nat n.toNat) := by
  apply readable_nat
  have := n.toNat_lt
  have word : maxWord = 2 ^ 64 - 1 := by decide
  omega

end Json

theorem ListenState.ofJson_word (s : ListenState) :
    ListenState.ofJson (.string s.word) = .ok s := by
  cases s <;> rfl

theorem ListenMode.ofJson_word (m : ListenMode) : ListenMode.ofJson (.string m.word) = .ok m := by
  cases m <;> rfl

namespace AudioParams

def members (p : AudioParams) : List (String × Json) :=
  [("sample_rate", .nat p.sampleRate.toNat), ("channels", .nat p.channels.toNat),
    ("frame_duration", .nat p.frameDuration.toNat), ("format", .string p.format)]

theorem toJson_eq (p : AudioParams) : p.toJson = .object p.members := rfl

theorem ofBody_members (p : AudioParams) : ofBody (.members p.members) = .ok p := by
  have rate : (Body.members p.members).required record 0 ["sample_rate"] Json.asUInt32 =
      .ok p.sampleRate :=
    Body.required_of_singleton (.nat p.sampleRate.toNat) (by rfl) (Json.asUInt32_nat _) _ _
  have channels : (Body.members p.members).required record 1 ["channels"] Json.asUInt16 =
      .ok p.channels :=
    Body.required_of_singleton (.nat p.channels.toNat) (by rfl) (Json.asUInt16_nat _) _ _
  have duration : (Body.members p.members).required record 2 ["frame_duration"] Json.asUInt32 =
      .ok p.frameDuration :=
    Body.required_of_singleton (.nat p.frameDuration.toNat) (by rfl) (Json.asUInt32_nat _) _ _
  have format : (Body.members p.members).required record 3 ["format"] Json.asString =
      .ok p.format :=
    Body.required_of_singleton (.string p.format) (by rfl) (by rfl) _ _
  simp only [ofBody, rate, channels, duration, format]
  rfl

/-- Audio parameters are read again. -/
theorem ofJson_toJson (p : AudioParams) : AudioParams.ofJson p.toJson = .ok p := by
  have opened (ms : List (String × Json)) :
      AudioParams.ofJson (.object ms) = (ofBody (.members ms)).shaped := rfl
  rw [toJson_eq, opened, ofBody_members]
  rfl

theorem readable (depth : Nat) (p : AudioParams) : p.toJson.Readable (depth + 1) := by
  apply Json.readable_object
  intro m hm
  simp only [List.mem_cons, List.not_mem_nil, or_false] at hm
  rcases hm with rfl | rfl | rfl | rfl
  · exact Json.readable_uint32 depth p.sampleRate
  · exact Json.readable_uint16 depth p.channels
  · exact Json.readable_uint32 depth p.frameDuration
  · exact Json.readable_string depth p.format

end AudioParams

/-! ## Messages

All that is known of a message is its kind and its members. Members that may be missing come in the
middle, so the members are not a table of fields with values. -/

namespace ClientMessage

def kind : ClientMessage → Kind
  | .hello .. => .hello
  | .listen .. => .listen
  | .abort .. => .abort

def Kind.word : Kind → String
  | .hello => "hello"
  | .listen => "listen"
  | .abort => "abort"

def Kind.fields : Kind → List String
  | .hello => ["device_id", "transport", "version", "audio_params"]
  | .listen => ["device_id", "state", "mode", "text"]
  | .abort => ["device_id", "reason"]

/-- Whether a message has a value for a field: all but three always do. -/
def hasField (m : ClientMessage) (field : String) : Bool :=
  match m with
  | .hello _ _ _ _ => true
  | .listen _ _ mode text =>
    if field = "mode" then mode.isSome else if field = "text" then text.isSome else true
  | .abort _ reason => if field = "reason" then reason.isSome else true

/-- The members that follow the tag. -/
def members : ClientMessage → List (String × Json)
  | .hello deviceId transport version params =>
    [("device_id", .string deviceId), ("transport", .string transport),
      ("version", .nat version.toNat), ("audio_params", params.toJson)]
  | .listen deviceId state mode text =>
    [("device_id", .string deviceId), ("state", .string state.word)]
      ++ optionalMember "mode" (mode.map ListenMode.word) ++ optionalMember "text" text
  | .abort deviceId reason =>
    ("device_id", .string deviceId) :: optionalMember "reason" reason

theorem toJson_eq (m : ClientMessage) :
    m.toJson = .object ((Envelope.tagName, .string m.kind.word) :: m.members) := by
  cases m <;> rfl

/-- The members are the fields that are present, in the order of declaration. -/
theorem map_fst_members (m : ClientMessage) :
    m.members.map Prod.fst = m.kind.fields.filter m.hasField := by
  cases m with
  | hello deviceId transport version params => rfl
  | listen deviceId state mode text => cases mode <;> cases text <;> rfl
  | abort deviceId reason => cases reason <;> rfl

/-- No field takes the place of the tag. -/
theorem members_untagged (m : ClientMessage) : ∀ f ∈ m.members, f.1 ≠ Envelope.tagName := by
  intro f hf same
  have listed : f.1 ∈ m.kind.fields.filter m.hasField := by
    rw [← map_fst_members]
    exact List.mem_map_of_mem hf
  have declared := List.mem_of_mem_filter listed
  rw [same] at declared
  revert declared
  cases m.kind <;> decide

theorem readable_optionalMember (depth : Nat) (name : String) (value : Option String) :
    ∀ f ∈ optionalMember name value, f.2.Readable depth := by
  cases value with
  | none => exact nofun
  | some s =>
      intro f hf
      rw [List.mem_singleton.1 hf]
      exact Json.readable_string depth s

theorem readable_members (depth : Nat) (m : ClientMessage) :
    ∀ f ∈ m.members, f.2.Readable (depth + 1) := by
  intro f hf
  cases m with
  | hello deviceId transport version params =>
      simp only [members, List.mem_cons, List.not_mem_nil, or_false] at hf
      rcases hf with rfl | rfl | rfl | rfl
      · exact Json.readable_string _ deviceId
      · exact Json.readable_string _ transport
      · exact Json.readable_uint32 _ version
      · exact params.readable depth
  | listen deviceId state mode text =>
      rcases List.mem_append.1 hf with hf | hf
      · rcases List.mem_append.1 hf with hf | hf
        · simp only [List.mem_cons, List.not_mem_nil, or_false] at hf
          rcases hf with rfl | rfl
          · exact Json.readable_string _ deviceId
          · exact Json.readable_string _ state.word
        · exact readable_optionalMember _ _ _ f hf
      · exact readable_optionalMember _ _ _ f hf
  | abort deviceId reason =>
      rcases List.mem_cons.1 hf with rfl | hf
      · exact Json.readable_string _ deviceId
      · exact readable_optionalMember _ _ _ f hf

theorem helloOf_members (deviceId transport : String) (version : UInt32) (params : AudioParams) :
    let m := ClientMessage.hello deviceId transport version params
    helloOf (.members m.members) = .ok m := by
  intro m
  have device (record : String) :
      (Body.members m.members).required record 0 ["device_id"] Json.asString = .ok deviceId :=
    Body.required_of_singleton (.string deviceId) (by rfl) (by rfl) _ _
  have carrier (record : String) :
      (Body.members m.members).required record 1 ["transport"] Json.asString = .ok transport :=
    Body.required_of_singleton (.string transport) (by rfl) (by rfl) _ _
  have number (record : String) :
      (Body.members m.members).required record 2 ["version"] Json.asUInt32 = .ok version :=
    Body.required_of_singleton (.nat version.toNat) (by rfl) (Json.asUInt32_nat _) _ _
  have audio (record : String) :
      (Body.members m.members).required record 3 ["audio_params"] AudioParams.ofJson =
        .ok params :=
    Body.required_of_singleton params.toJson (by rfl) params.ofJson_toJson _ _
  simp only [helloOf, device, carrier, number, audio]
  rfl

theorem listenOf_members (deviceId : String) (state : ListenState) (mode : Option ListenMode)
    (text : Option String) :
    let m := ClientMessage.listen deviceId state mode text
    listenOf (.members m.members) = .ok m := by
  intro m
  have device (record : String) :
      (Body.members m.members).required record 0 ["device_id"] Json.asString = .ok deviceId := by
    cases mode <;> cases text <;>
      exact Body.required_of_singleton (.string deviceId) (by rfl) (by rfl) _ _
  have asked (record : String) :
      (Body.members m.members).required record 1 ["state"] ListenState.ofJson = .ok state := by
    cases mode <;> cases text <;>
      exact Body.required_of_singleton (.string state.word) (by rfl) state.ofJson_word _ _
  -- either of the last two fields may be missing, so the place of the second depends on the first
  have found (record : String) :
      (Body.members m.members).nullable record 2 ["mode"] ListenMode.ofJson = .ok mode := by
    cases mode with
    | none => cases text <;> exact Body.nullable_of_nil rfl _ _
    | some mode =>
        have read : Json.asNullable ListenMode.ofJson (.string mode.word) = .ok (some mode) := by
          rw [Json.asNullable, mode.ofJson_word, Except.map]
          exact nofun
        cases text <;> exact Body.nullable_of_singleton (.string mode.word) (by rfl) read _ _
  have said (record : String) :
      (Body.members m.members).nullable record 3 ["text"] Json.asString = .ok text := by
    cases text with
    | none => cases mode <;> exact Body.nullable_of_nil rfl _ _
    | some text =>
        cases mode <;> exact Body.nullable_of_singleton (.string text) (by rfl) (by rfl) _ _
  simp only [listenOf, device, asked, found, said]
  rfl

theorem abortOf_members (deviceId : String) (reason : Option String) :
    let m := ClientMessage.abort deviceId reason
    abortOf (.members m.members) = .ok m := by
  intro m
  have device (record : String) :
      (Body.members m.members).required record 0 ["device_id"] Json.asString = .ok deviceId := by
    cases reason <;> exact Body.required_of_singleton (.string deviceId) (by rfl) (by rfl) _ _
  have given (record : String) :
      (Body.members m.members).nullable record 1 ["reason"] Json.asString = .ok reason := by
    cases reason with
    | none => exact Body.nullable_of_nil rfl _ _
    | some reason => exact Body.nullable_of_singleton (.string reason) (by rfl) (by rfl) _ _
  simp only [abortOf, device, given]
  rfl

/-- A message is found among its own members. -/
theorem ofEnvelope_members (m : ClientMessage) :
    ofEnvelope { kind := m.kind, body := .members m.members } = .ok m := by
  cases m with
  | hello deviceId transport version params =>
      exact congrArg Located.shaped (helloOf_members deviceId transport version params)
  | listen deviceId state mode text =>
      exact congrArg Located.shaped (listenOf_members deviceId state mode text)
  | abort deviceId reason => exact congrArg Located.shaped (abortOf_members deviceId reason)

theorem choose_kind (m : ClientMessage) : choose kinds m.kind.word = .ok m.kind := by
  cases m <;> rfl

/-- Reading the text of a message gives the message. -/
theorem parse_text (m : ClientMessage) : ClientMessage.parse m.text = .ok m := by
  rw [ClientMessage.text, toJson_eq]
  exact Envelope.parse_tagged m.choose_kind (m.readable_members 125) m.members_untagged
    m.ofEnvelope_members _

/-- **A message on the wire.** The text of a message is an object: the tag comes first, then the
fields that are present in the order of declaration. Reading it gives the message back. -/
theorem text_written (m : ClientMessage) :
    Json.parse m.text = .ok (.object (("type", .string m.kind.word) :: m.members)) ∧
      m.members.map Prod.fst = m.kind.fields.filter m.hasField ∧
      ClientMessage.parse m.text = .ok m := by
  refine ⟨?_, m.map_fst_members, m.parse_text⟩
  have readable : m.toJson.Readable maxDepth := by
    rw [toJson_eq]
    apply Json.readable_object
    intro f hf
    rcases List.mem_cons.1 hf with rfl | hf
    · exact Json.readable_string _ _
    · exact m.readable_members 125 f hf
  rw [ClientMessage.text, Json.parse_text readable, toJson_eq]
  rfl

end ClientMessage

end VoiceLink
