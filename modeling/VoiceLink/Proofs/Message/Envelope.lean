import VoiceLink.Proofs.Json.Steps
import VoiceLink.Proofs.Message.Client

/-!
# What an envelope takes out of a text

The envelope reader goes over the characters itself. It stops nowhere the reader of plain values
would go on, and the other way round only where the tag is at fault: a text is read as a message
exactly if it is a JSON value that holds an envelope (`Envelope.Holds`) whose fields can be decoded
(`Envelope.parse_eq_ok_iff`). What a message accepts is then a matter of values alone.

The two readers are compared over any fuel and any depth, one round after the other. A member is
either the tag, in which case both go on from the same place with one thing more known, or it is
read in the same way by both.
-/

namespace VoiceLink

open JsonReader

namespace Envelope

variable {κ : Type} {kindOf : String → Shaped κ}

/-! ## The tag

The reader of the tag wants a string that names a kind. In all other values it stops, possibly
earlier than the reader of plain values would. -/

/-- A kind is read where any value reader would find a string that names it. -/
theorem readKind_eq_ok_iff (depth : Nat) {cs rest : List Char} {k : κ} :
    readKind kindOf cs = .ok (k, rest) ↔
      ∃ tag, value depth cs = .ok (.string tag, rest) ∧ kindOf tag = .ok k := by
  unfold readKind
  cases found : skipBlanks cs with
  | nil =>
      have : value depth cs = stop .eofInValue [] := by rw [value, found]
      rw [this]
      simp [stop]
  | cons c cs' =>
      dsimp only
      cases scalar : scalar? c cs' with
      | none =>
          constructor
          · intro h
            cases h
          · rintro ⟨tag, h, -⟩
            -- a container is no string, wherever its reader gets to
            rcases container_of_value found scalar h with ⟨xs, h⟩ | ⟨ms, h⟩ <;> cases h
      | some result =>
          rw [value_scalar found scalar]
          constructor
          · intro h
            obtain ⟨⟨v, left⟩, read, h⟩ := bind_eq_ok.1 h
            cases v with
            | string tag =>
                dsimp only at h
                split at h
                · cases h
                  exact ⟨tag, read, ‹_›⟩
                · cases h
            | _ => cases h
          · rintro ⟨tag, rfl, named⟩
            refine bind_eq_ok.2 ⟨_, rfl, ?_⟩
            simp only [named]
            rfl

/-- How the kind is chosen by the members that carry a tag: one is needed, unless there was one
before, and a second one is too many. -/
def Chosen (kindOf : String → Shaped κ) : Option κ → List (String × Json) → κ → Prop
  | some seen, tags, k => tags = [] ∧ seen = k
  | none, tags, k => ∃ tag, tags = [(tagName, .string tag)] ∧ kindOf tag = .ok k

def untagged (ms : List (String × Json)) : List (String × Json) := ms.filter fun m => m.1 ≠ tagName

def tags (ms : List (String × Json)) : List (String × Json) := Body.under [tagName] ms

theorem tags_cons_tag (v : Json) (ms : List (String × Json)) :
    tags ((tagName, v) :: ms) = (tagName, v) :: tags ms := by
  simp [tags, Body.under]

theorem tags_cons_other {key : String} (other : key ≠ tagName) (v : Json)
    (ms : List (String × Json)) : tags ((key, v) :: ms) = tags ms := by
  simp [tags, Body.under, other]

theorem untagged_cons_tag (v : Json) (ms : List (String × Json)) :
    untagged ((tagName, v) :: ms) = untagged ms := by
  simp [untagged]

theorem untagged_cons_other {key : String} (other : key ≠ tagName) (v : Json)
    (ms : List (String × Json)) : untagged ((key, v) :: ms) = (key, v) :: untagged ms := by
  simp [untagged, other]

/-! ## Members and elements

One statement for each direction, since they are by induction over different things: from a message
the members are to be found, and from the members the message. -/

/-- At the closing brace the tag must have been there. -/
theorem members_close {value : JsonReader Json} {first : Bool} {cs : List Char}
    (close : nextKey first cs = .ok none) (fuel : Nat) (seen : Option κ) {k : κ}
    {fields : List (String × Json)} {rest : List Char} :
    members kindOf value (fuel + 1) first seen cs = .ok ((k, fields), rest) ↔
      seen = some k ∧ fields = [] ∧ rest = (skipBlanks cs).drop 1 := by
  obtain ⟨rest', brace⟩ := skipBlanks_of_nextKey close
  have past : pastClose '\x7d' cs = (skipBlanks cs).drop 1 := by
    rw [pastClose, brace]
    simp
  rw [members, close, ← past]
  constructor
  · intro h
    obtain ⟨_, ⟨⟩, h⟩ := bind_eq_ok.1 h
    cases seen with
    | none => cases h
    | some k =>
        cases h
        exact ⟨rfl, rfl, rfl⟩
  · rintro ⟨rfl, rfl, rfl⟩
    rfl

/-- One round over the members of a message: the tag, which must not have been there, or another
member. -/
theorem members_next {value : JsonReader Json} {first : Bool} {cs next : List Char}
    (found : nextKey first cs = .ok (some next)) (fuel : Nat) (seen : Option κ) {k : κ}
    {fields : List (String × Json)} {rest : List Char} :
    members kindOf value (fuel + 1) first seen cs = .ok ((k, fields), rest) ↔
      ∃ key left left', string next = .ok (key, left) ∧ colon left = .ok left' ∧
        if key = tagName then
          seen = none ∧ ∃ k' left'', readKind kindOf left' = .ok (k', left'') ∧
            members kindOf value fuel false (some k') left'' = .ok ((k, fields), rest)
        else
          ∃ x left'' more, value left' = .ok (x, left'') ∧
            members kindOf value fuel false seen left'' = .ok ((k, more), rest) ∧
            fields = (key, x) :: more := by
  rw [members, found]
  constructor
  · intro h
    obtain ⟨_, ⟨⟩, h⟩ := bind_eq_ok.1 h
    obtain ⟨⟨key, left⟩, named, h⟩ := bind_eq_ok.1 h
    dsimp only at h
    split at h
    · next tag =>
      split at h
      · cases h
      · next fresh =>
        obtain ⟨left', behind, h⟩ := bind_eq_ok.1 h
        obtain ⟨⟨k', left''⟩, kind, h⟩ := bind_eq_ok.1 h
        refine ⟨key, left, left', named, behind, ?_⟩
        rw [if_pos tag]
        exact ⟨Option.not_isSome_iff_eq_none.1 fresh, k', left'', kind, h⟩
    · next other =>
      obtain ⟨left', behind, h⟩ := bind_eq_ok.1 h
      obtain ⟨⟨x, left''⟩, read, h⟩ := bind_eq_ok.1 h
      obtain ⟨⟨⟨k', more⟩, rest'⟩, others, h⟩ := bind_eq_ok.1 h
      cases h
      refine ⟨key, left, left', named, behind, ?_⟩
      rw [if_neg other]
      exact ⟨x, left'', more, read, others, rfl⟩
  · rintro ⟨key, left, left', named, behind, h⟩
    refine bind_eq_ok.2 ⟨_, rfl, bind_eq_ok.2 ⟨_, named, ?_⟩⟩
    dsimp only
    split
    · next tag =>
      rw [if_pos tag] at h
      obtain ⟨rfl, k', left'', kind, others⟩ := h
      exact bind_eq_ok.2 ⟨_, behind, bind_eq_ok.2 ⟨_, kind, others⟩⟩
    · next other =>
      rw [if_neg other] at h
      obtain ⟨x, left'', more, read, others, rfl⟩ := h
      exact bind_eq_ok.2 ⟨_, behind, bind_eq_ok.2 ⟨_, read, bind_eq_ok.2 ⟨_, others, rfl⟩⟩⟩

/-- What the members of a message are is what an object with a tag in order has. -/
theorem members_of_message {depth fuel : Nat} {first : Bool} {seen : Option κ}
    {cs rest : List Char} {k : κ} {fields : List (String × Json)}
    (h : members kindOf (value depth) fuel first seen cs = .ok ((k, fields), rest)) :
    ∃ ms, JsonReader.members (value depth) fuel first cs = .ok (ms, rest) ∧
      Chosen kindOf seen (tags ms) k ∧ fields = untagged ms := by
  induction fuel generalizing first seen cs fields with
  | zero => cases h
  | succ fuel ih =>
      cases found : nextKey first cs with
      | error stop =>
          rw [members, found] at h
          cases h
      | ok next =>
          cases next with
          | none =>
              obtain ⟨rfl, rfl, rfl⟩ := (members_close found fuel seen).1 h
              refine ⟨[], ?_, ⟨rfl, rfl⟩, rfl⟩
              rw [JsonReader.members, found]
              rfl
          | some next =>
              obtain ⟨key, left, left', named, behind, h⟩ := (members_next found fuel seen).1 h
              split at h
              · next tag =>
                subst tag
                obtain ⟨rfl, k', left'', kind, others⟩ := h
                obtain ⟨tag, read, known⟩ := (readKind_eq_ok_iff depth).1 kind
                obtain ⟨ms, plain, ⟨alone, rfl⟩, rfl⟩ := ih others
                -- to the reader of objects the tag is a member like any other
                have one : member (value depth) next = .ok ((tagName, .string tag), left'') :=
                  member_eq_ok_iff.2 ⟨left, left', named, behind, read⟩
                refine ⟨(tagName, .string tag) :: ms, ?_, ⟨tag, ?_, known⟩, ?_⟩
                · exact (JsonReader.members_next found fuel).2 ⟨_, _, _, one, plain, rfl⟩
                · rw [tags_cons_tag, alone]
                · rw [untagged_cons_tag]
              · next other =>
                obtain ⟨x, left'', more, read, others, rfl⟩ := h
                obtain ⟨ms, plain, chosen, rfl⟩ := ih others
                have one : member (value depth) next = .ok ((key, x), left'') :=
                  member_eq_ok_iff.2 ⟨left, left', named, behind, read⟩
                refine ⟨(key, x) :: ms, ?_, ?_, ?_⟩
                · exact (JsonReader.members_next found fuel).2 ⟨_, _, _, one, plain, rfl⟩
                · rw [tags_cons_other other]
                  exact chosen
                · rw [untagged_cons_other other]

/-- An object with a tag in order is read as a message. -/
theorem message_of_members {depth fuel : Nat} {first : Bool} {seen : Option κ}
    {cs rest : List Char} {k : κ} {ms : List (String × Json)}
    (h : JsonReader.members (value depth) fuel first cs = .ok (ms, rest))
    (chosen : Chosen kindOf seen (tags ms) k) :
    members kindOf (value depth) fuel first seen cs = .ok ((k, untagged ms), rest) := by
  induction fuel generalizing first seen cs ms with
  | zero => cases h
  | succ fuel ih =>
      cases found : nextKey first cs with
      | error stop =>
          rw [JsonReader.members, found] at h
          cases h
      | ok next =>
          cases next with
          | none =>
              rw [JsonReader.members, found] at h
              cases h
              cases seen with
              | none => obtain ⟨tag, ⟨⟩, -⟩ := chosen
              | some k' =>
                  obtain ⟨-, rfl⟩ := chosen
                  exact (members_close found fuel _).2 ⟨rfl, rfl, rfl⟩
          | some next =>
              obtain ⟨⟨key, x⟩, left'', more, one, others, rfl⟩ :=
                (JsonReader.members_next found fuel).1 h
              obtain ⟨left, left', named, behind, read⟩ := member_eq_ok_iff.1 one
              refine (members_next found fuel seen).2 ⟨key, left, left', named, behind, ?_⟩
              split
              · next tag =>
                cases tag
                rw [tags_cons_tag] at chosen
                cases seen with
                -- a second tag is one too many
                | some _ => cases chosen.1
                | none =>
                    obtain ⟨tag, only, known⟩ := chosen
                    obtain ⟨same, alone⟩ := List.cons.inj only
                    cases same
                    have kind := (readKind_eq_ok_iff depth).2 ⟨tag, read, known⟩
                    refine ⟨rfl, k, left'', kind, ?_⟩
                    rw [untagged_cons_tag]
                    exact ih others ⟨alone, rfl⟩
              · next other =>
                rw [tags_cons_other other] at chosen
                exact ⟨x, left'', _, read, ih others chosen, untagged_cons_other other x more⟩

/-- The elements of a message are those of an array that begins with a tag. -/
theorem elements_eq_ok_iff {depth : Nat} {cs rest : List Char} {k : κ} {xs : List Json} :
    elements kindOf (value depth) cs = .ok ((k, xs), rest) ↔
      ∃ tag, JsonReader.elements (value depth) (cs.length + 1) true cs =
          .ok (.string tag :: xs, rest) ∧ kindOf tag = .ok k := by
  cases found : nextElement true cs with
  | error stop =>
      rw [elements, JsonReader.elements, found]
      constructor
      · intro h
        cases h
      · rintro ⟨tag, h, -⟩
        cases h
  | ok next =>
      cases next with
      | none =>
          rw [elements, JsonReader.elements, found]
          constructor
          · intro h
            cases h
          · rintro ⟨tag, h, -⟩
            cases h
      | some next =>
          rw [elements, found]
          constructor
          · intro h
            obtain ⟨_, ⟨⟩, h⟩ := bind_eq_ok.1 h
            obtain ⟨⟨k', left⟩, kind, h⟩ := bind_eq_ok.1 h
            obtain ⟨⟨more, rest'⟩, others, h⟩ := bind_eq_ok.1 h
            cases h
            obtain ⟨tag, read, known⟩ := (readKind_eq_ok_iff depth).1 kind
            exact ⟨tag, (elements_first (progresses_value depth) found).2
              ⟨_, _, _, read, others, rfl⟩, known⟩
          · rintro ⟨tag, h, known⟩
            obtain ⟨x, left, more, read, others, same⟩ :=
              (elements_first (progresses_value depth) found).1 h
            cases same
            have kind := (readKind_eq_ok_iff depth).2 ⟨tag, read, known⟩
            exact bind_eq_ok.2 ⟨_, rfl, bind_eq_ok.2 ⟨_, kind, bind_eq_ok.2 ⟨_, others, rfl⟩⟩⟩

/-! ## Whole texts

A value holds one envelope or none. It is not looked at in any other way. -/

/-- The envelope a value holds: an object with exactly one tag, which names a kind, or an array that
begins with one. -/
inductive Holds (kindOf : String → Shaped κ) : Json → Envelope κ → Prop
  | object {ms : List (String × Json)} {tag : String} {k : κ}
      (only : tags ms = [(tagName, .string tag)]) (known : kindOf tag = .ok k) :
      Holds kindOf (.object ms) { kind := k, body := .members (untagged ms) }
  | array {tag : String} {xs : List Json} {k : κ} (known : kindOf tag = .ok k) :
      Holds kindOf (.array (.string tag :: xs)) { kind := k, body := .elements xs }

/-- A message is read where a value is that holds its envelope. -/
theorem read_eq_ok_iff {expected : String} {cs rest : List Char} {e : Envelope κ} :
    read expected kindOf cs = .ok (e, rest) ↔
      ∃ v, Json.read cs = .ok (v, rest) ∧ Holds kindOf v e := by
  have whole : Json.read cs = value (maxDepth - 1 + 1) cs := rfl
  rw [read]
  cases found : skipBlanks cs with
  | nil =>
      have none : Json.read cs = stop .eofInValue [] := by rw [Json.read, value, found]
      rw [none]
      constructor
      · intro h
        cases h
      · rintro ⟨v, h, -⟩
        cases h
  | cons c cs' =>
      dsimp only
      cases scalar : scalar? c cs' with
      | some result =>
          rw [whole, value_scalar found scalar]
          constructor
          · intro h
            obtain ⟨_, -, h⟩ := bind_eq_ok.1 h
            cases h
          · rintro ⟨v, rfl, holds⟩
            obtain ⟨noArray, noObject⟩ := not_container_of_scalar? scalar
            cases holds with
            | object only known => exact absurd rfl (noObject _)
            | array known => exact absurd rfl (noArray _)
      | none =>
          rcases scalar?_eq_none_iff.1 scalar with rfl | rfl
          · rw [whole, value_array found, if_pos rfl]
            constructor
            · intro h
              obtain ⟨⟨⟨k, xs⟩, left⟩, read, h⟩ := bind_eq_ok.1 h
              cases h
              obtain ⟨tag, plain, known⟩ := elements_eq_ok_iff.1 read
              exact ⟨_, bind_eq_ok.2 ⟨_, plain, rfl⟩, .array known⟩
            · rintro ⟨v, h, holds⟩
              obtain ⟨⟨xs, left⟩, plain, h⟩ := bind_eq_ok.1 h
              cases h
              cases holds with
              | array known =>
                  exact bind_eq_ok.2 ⟨_, elements_eq_ok_iff.2 ⟨_, plain, known⟩, rfl⟩
          · rw [whole, value_object found, if_neg (by decide)]
            constructor
            · intro h
              obtain ⟨⟨⟨k, fields⟩, left⟩, read, h⟩ := bind_eq_ok.1 h
              cases h
              obtain ⟨ms, plain, ⟨tag, only, known⟩, rfl⟩ := members_of_message read
              exact ⟨_, bind_eq_ok.2 ⟨_, plain, rfl⟩, .object only known⟩
            · rintro ⟨v, h, holds⟩
              obtain ⟨⟨ms, left⟩, plain, h⟩ := bind_eq_ok.1 h
              cases h
              cases holds with
              | object only known =>
                  exact bind_eq_ok.2 ⟨_, message_of_members plain ⟨_, only, known⟩, rfl⟩

/-- **A text is a message exactly if it is a value whose envelope can be decoded**: nothing else
about the text matters. -/
theorem parse_eq_ok_iff {α : Type} {expected : String} {decode : Envelope κ → Shaped α}
    {text : String} {message : α} :
    parse expected kindOf decode text = .ok message ↔
      ∃ v, Json.parse text = .ok v ∧ ∃ e, Holds kindOf v e ∧ decode e = .ok message := by
  unfold parse
  constructor
  · intro h
    dsimp only at h
    split at h
    · cases h
    · next e rest envelope =>
      obtain ⟨v, value, holds⟩ := read_eq_ok_iff.1 envelope
      split at h
      · cases h
      · next m decoded =>
        split at h
        · cases h
        · next finished =>
          cases h
          exact ⟨v, Json.parse_eq_ok_iff.2 ⟨rest, value, finished⟩, e, holds, decoded⟩
  · rintro ⟨v, whole, e, holds, decoded⟩
    obtain ⟨rest, value, finished⟩ := Json.parse_eq_ok_iff.1 whole
    simp only [read_eq_ok_iff.2 ⟨v, value, holds⟩, decoded, finished]

end Envelope

end VoiceLink
