import VoiceLink.Proofs.Message.Control

/-!
# What the other side hears

Client messages and control messages are two types that were declared apart, each with tags, fields
and rules of its own, and nothing but the wire between them. `ClientMessage.parse_heard` says that
they agree: the text of any client message is read as the control message of the same kind, with the
same data in every field that both of them have.

Some fields are known to one of the sides only, and one of them has a second name on the other side.
So the agreement is one of data, found field by field, and nothing follows from the types alone.
-/

namespace VoiceLink

theorem AudioParams.isParams_toJson (p : AudioParams) : IsParams p.toJson p := by
  apply (ofJson_eq_ok_iff _).1 p.ofJson_toJson
  intro xs same
  cases same

namespace ClientMessage

/-- A client message as the other side hears it. Who sends it and in which version is nothing a
control message tells, and a client has no name for the session. -/
def heard : ClientMessage → ControlMessage
  | .hello _ transport _ params => .hello none (some transport) (some params)
  | .listen _ state mode text => .listen state mode text
  | .abort _ reason => .abort reason

/-! ## Tags

Both sides have a table of tags. The tags a client writes are in the table of control messages. -/

theorem word_heard (m : ClientMessage) : m.heard.kind.word = m.kind.word := by
  cases m <;> rfl

/-- The tag that a client writes is one that a control message is known by. -/
theorem kindOf_heard (m : ClientMessage) : ControlMessage.kindOf m.kind.word = m.heard.kind := by
  apply ControlMessage.kindOf_eq_iff.2
  left
  constructor
  · cases m <;> exact nofun
  · exact m.word_heard.symm

/-! ## Fields

`ControlMessage.Fields` says which members a message has under which names. Here these are looked up
among the members that a client writes. -/

theorem mem_optionalMember {name : String} {value : Option String} {f : String × Json}
    (hf : f ∈ optionalMember name value) : ∃ s, f.2 = .string s := by
  cases value with
  | none => cases hf
  | some s =>
      rw [List.mem_singleton.1 hf]
      exact ⟨s, rfl⟩

/-- All values are strings and numbers, but for the audio parameters. -/
theorem mem_members {m : ClientMessage} {f : String × Json} (hf : f ∈ m.members) :
    (∃ s, f.2 = .string s) ∨ (∃ n, f.2 = .nat n) ∨
      ∃ p : AudioParams, f = ("audio_params", p.toJson) := by
  cases m with
  | hello deviceId transport version params =>
      simp only [members, List.mem_cons, List.not_mem_nil, or_false] at hf
      rcases hf with rfl | rfl | rfl | rfl
      · exact .inl ⟨deviceId, rfl⟩
      · exact .inl ⟨transport, rfl⟩
      · exact .inr (.inl ⟨version.toNat, rfl⟩)
      · exact .inr (.inr ⟨params, rfl⟩)
  | listen deviceId state mode text =>
      simp only [members, List.mem_append, List.mem_cons, List.not_mem_nil, or_false] at hf
      rcases hf with ((rfl | rfl) | hf) | hf
      · exact .inl ⟨deviceId, rfl⟩
      · exact .inl ⟨state.word, rfl⟩
      · exact .inl (mem_optionalMember hf)
      · exact .inl (mem_optionalMember hf)
  | abort deviceId reason =>
      rcases List.mem_cons.1 hf with rfl | hf
      · exact .inl ⟨deviceId, rfl⟩
      · exact .inl (mem_optionalMember hf)

/-- Words are written as strings, and audio parameters as an object. -/
theorem flat_members (m : ClientMessage) : ControlMessage.Flat m.members := by
  constructor
  · intro f hf word fields same
    rcases mem_members hf with ⟨s, string⟩ | ⟨n, number⟩ | ⟨p, rfl⟩
    · cases string.symm.trans same
    · cases number.symm.trans same
    · -- the parameters do not go under the name of a word
      simp at word
  · intro f hf params xs same
    rcases mem_members hf with ⟨s, string⟩ | ⟨n, number⟩ | ⟨p, rfl⟩
    · cases string.symm.trans same
    · cases number.symm.trans same
    · cases same

/-- Every field that both sides have is found under the name it was written with. -/
theorem fields_heard (m : ClientMessage) : ControlMessage.Fields m.members m.heard := by
  cases m with
  | hello deviceId transport version params =>
      refine ⟨.inl rfl, ⟨"transport", _, rfl, rfl⟩, ?_⟩
      exact ⟨"audio_params", _, rfl, params.isParams_toJson⟩
  | listen deviceId state mode text =>
      -- whether a field is left out does not matter to the others
      refine ⟨?_, ?_, ?_⟩
      · cases mode <;> cases text <;> exact ⟨"state", _, rfl, rfl⟩
      · cases mode with
        | none => cases text <;> exact .inl rfl
        | some mode => cases text <;> exact ⟨"mode", _, rfl, rfl⟩
      · cases text with
        | none => cases mode <;> exact .inl rfl
        | some text => cases mode <;> exact ⟨"text", _, rfl, rfl⟩
  | abort deviceId reason =>
      cases reason with
      | none => exact .inl rfl
      | some reason => exact ⟨"reason", _, rfl, rfl⟩

/-! ## Messages

The text is that of an object whose first member is the tag; the description of control messages by
the members of objects does the rest. -/

/-- **What a client says is heard.** The text of a message of any kind, with any data in it, is read
as the control message of that kind: a greeting with its carrier and its audio parameters and
without a session, a listen request with its state, mode and text, an abort with its reason. -/
theorem parse_heard (m : ClientMessage) :
    ControlMessage.parse m.text = .ok m.heard ∧ m.heard.kind.word = m.kind.word := by
  refine ⟨?_, m.word_heard⟩
  have known : (Except.ok (ControlMessage.kindOf m.kind.word) : Shaped ControlMessage.Kind) =
      .ok m.heard.kind := by
    rw [m.kindOf_heard]
  have decoded :
      ControlMessage.ofEnvelope { kind := m.heard.kind, body := .members m.members } =
        .ok m.heard := by
    apply (ControlMessage.ofEnvelope_eq_ok_iff m.flat_members).2
    exact ⟨rfl, m.fields_heard⟩
  rw [text, toJson_eq]
  exact Envelope.parse_tagged known (m.readable_members 125) m.members_untagged decoded _

end ClientMessage

end VoiceLink
