import VoiceLink.Proofs.Message.Envelope
import VoiceLink.Proofs.Session.Turns

/-!
# Texts that are no tagged object

A text whose value is no object is discarded: the router logs it, counts it and is otherwise what it
was. The exception is an array that begins with a tag, which is taken for the fields of a message in
the order of declaration, and acts like one (`Router.handle_without_object`).

That arrays are read is a property of the reader of messages, which takes a record by position as
well as by name. A peer that was told that messages are objects would not expect it.
-/

namespace VoiceLink

open JsonReader

/-! ## Arrays

The tag comes first, and the fields follow in the order in which they are declared. -/

namespace ControlMessage

/-- The message that an array stands for, if it begins with a tag. -/
def Listed (v : Json) (m : ControlMessage) : Prop :=
  ∃ tag xs, v = .array (.string tag :: xs) ∧
    ofEnvelope { kind := kindOf tag, body := .elements xs } = .ok m

/-- What is no object is a message only as an array. -/
theorem parse_without_object {text : String} (noObject : ∀ ms, Json.parse text ≠ .ok (.object ms))
    {m : ControlMessage} :
    ControlMessage.parse text = .ok m ↔ ∃ v, Json.parse text = .ok v ∧ Listed v m := by
  rw [ControlMessage.parse, Envelope.parse_eq_ok_iff]
  constructor
  · rintro ⟨v, value, e, holds, decoded⟩
    refine ⟨v, value, ?_⟩
    cases holds with
    | object only known => exact absurd value (noObject _)
    | array known =>
        cases known
        exact ⟨_, _, rfl, decoded⟩
  · rintro ⟨v, value, tag, xs, rfl, decoded⟩
    exact ⟨_, value, _, .array rfl, decoded⟩

end ControlMessage

/-! ## What a router does with them

A refused text leaves a line in the log and is counted. A text that is read is handled as its
message, whatever its form. -/

namespace Router

def discard (r : Router) (e : JsonError) : Router :=
  { r with
    log := r.log ++
      [{ level := .warn, text := "Discarding control message: " ++ ControlMessage.refusal e }]
    report := { r.report with parseErrors := r.report.parseErrors + 1 } }

/-- A text that is no message changes nothing but the log and one counter. -/
theorem handle_refused (r : Router) (d : Disk) (now : Instant) {text : String} {e : JsonError}
    (refused : ControlMessage.parse text = .error e) :
    r.handle d now (.text text) = (r.discard e, d) := by
  simp only [handle, handleText, refused]
  rfl

theorem handle_parsed (r : Router) (d : Disk) (now : Instant) {text : String} {m : ControlMessage}
    (parsed : ControlMessage.parse text = .ok m) :
    r.handle d now (.text text) = r.countControl.handleMessage d now m := by
  simp only [handle, handleText, parsed]
  rfl

/-- **A text that is no object is discarded, unless it is an array that lists the tag and the fields
of a message.** Such an array is handled as that message. -/
theorem handle_without_object (r : Router) (d : Disk) (now : Instant) {text : String}
    (noObject : ∀ ms, Json.parse text ≠ .ok (.object ms)) :
    (∃ e, ControlMessage.parse text = .error e ∧ r.handle d now (.text text) = (r.discard e, d) ∧
      ∀ v m, Json.parse text = .ok v → ¬ ControlMessage.Listed v m) ∨
    ∃ v m, Json.parse text = .ok v ∧ ControlMessage.Listed v m ∧
      ControlMessage.parse text = .ok m ∧
      r.handle d now (.text text) = r.countControl.handleMessage d now m := by
  cases parsed : ControlMessage.parse text with
  | error e =>
      refine .inl ⟨e, rfl, handle_refused r d now parsed, ?_⟩
      intro v m value listed
      have message := (ControlMessage.parse_without_object noObject).2 ⟨v, value, listed⟩
      cases parsed.symm.trans message
  | ok m =>
      obtain ⟨v, value, listed⟩ := (ControlMessage.parse_without_object noObject).1 parsed
      exact .inr ⟨v, m, value, listed, rfl, handle_parsed r d now parsed⟩

/-- A number is discarded. -/
theorem handle_without_object_number :
    ∃ (r : Router) (d : Disk) (e : JsonError),
      create .silent { outputSampleRate := 8000 } .active 0 = .ok r ∧
        r.handle d 1 (.text "5") = (r.discard e, d) := by
  have created : ∃ r, create .silent { outputSampleRate := 8000 } .active 0 = .ok r := ⟨_, rfl⟩
  obtain ⟨r, created⟩ := created
  have number : Json.parse "5" = .ok (.nat 5) := by rfl
  have noObject : ∀ ms, Json.parse "5" ≠ .ok (.object ms) := by
    intro ms object
    cases number.symm.trans object
  rcases handle_without_object r { tree := .empty, cwd := [] } 1 noObject with
    ⟨e, -, discarded, -⟩ | ⟨v, m, value, ⟨tag, xs, rfl, -⟩, -⟩
  · exact ⟨r, _, e, created, discarded⟩
  · cases number.symm.trans value

/-- An array of three strings finishes the turn: it is no object, and nothing counts it as an error.
-/
theorem flush_of_array :
    (∀ ms, Json.parse "[\"tts\",\"stop\",\"t\"]" ≠ .ok (.object ms)) ∧
      ControlMessage.parse "[\"tts\",\"stop\",\"t\"]" = .ok (.tts .stop (some "t")) ∧
      ∀ (r : Router) (d : Disk) (now : Instant),
        r.handle d now (.text "[\"tts\",\"stop\",\"t\"]") = r.countControl.flush d now := by
  have array : Json.parse "[\"tts\",\"stop\",\"t\"]" =
      .ok (.array [.string "tts", .string "stop", .string "t"]) := by
    cbv
  have noObject : ∀ ms, Json.parse "[\"tts\",\"stop\",\"t\"]" ≠ .ok (.object ms) := by
    intro ms object
    cases array.symm.trans object
  have parsed : ControlMessage.parse "[\"tts\",\"stop\",\"t\"]" = .ok (.tts .stop (some "t")) :=
    (ControlMessage.parse_without_object noObject).2 ⟨_, array, _, _, rfl, rfl⟩
  exact ⟨noObject, parsed, fun r d now => handle_parsed r d now parsed⟩

end Router

end VoiceLink
