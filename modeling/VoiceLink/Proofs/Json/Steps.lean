import VoiceLink.Proofs.Json.Progress

/-!
# What a reader does next

The first character of a value decides what it is, and a container goes on round by round. Each of
these lemmas says what one such step does, as an equivalence between a success of the reader and the
successes it is made of; later proofs go by them and not by the readers' texts.

The readers of messages go over the same characters in their own way. What they have in common with
the reader of plain values is these steps, so the two can be compared one step at a time.
-/

namespace VoiceLink

open JsonReader

namespace JsonReader

variable {cs cs' : List Char} {c : Char}

/-! ## The first character

Everything but a bracket and a brace begins a scalar, if only one that is then found to be
broken. -/

theorem scalar?_eq_none_iff : scalar? c cs = none ↔ c = '[' ∨ c = '\x7b' := by
  constructor
  · intro h
    unfold scalar? at h
    repeat' split at h
    all_goals first | assumption | cases h
  · rintro (rfl | rfl) <;> rfl

/-- A scalar is neither an array nor an object. -/
theorem not_container_of_scalar? {v : Json} {rest : List Char}
    (h : scalar? c cs = some (.ok (v, rest))) : (∀ xs, v ≠ .array xs) ∧ ∀ ms, v ≠ .object ms := by
  unfold scalar? at h
  repeat' split at h
  all_goals first
    | cases h
    | (obtain ⟨_, -, h⟩ := bind_eq_ok.1 (Option.some.inj h)
       cases h
       exact ⟨nofun, nofun⟩)

theorem value_scalar {result : Except Stop (Json × List Char)} (found : skipBlanks cs = c :: cs')
    (scalar : scalar? c cs' = some result) (depth : Nat) : value depth cs = result := by
  rw [value, found]
  simp only [scalar]

theorem value_array (found : skipBlanks cs = '[' :: cs') (depth : Nat) :
    value (depth + 1) cs = do
      let (xs, rest) ← elements (value depth) (cs'.length + 1) true cs'
      return (.array xs, rest) := by
  have opened : scalar? '[' cs' = none := rfl
  rw [value, found]
  simp only [opened, ↓reduceIte]

theorem value_object (found : skipBlanks cs = '\x7b' :: cs') (depth : Nat) :
    value (depth + 1) cs = do
      let (ms, rest) ← members (value depth) (cs'.length + 1) true cs'
      return (.object ms, rest) := by
  have opened : scalar? '\x7b' cs' = none := rfl
  have object : ('\x7b' = '[') = False := by decide
  rw [value, found]
  simp only [opened, object, ↓reduceIte]

/-- What begins with a bracket or a brace is no scalar. -/
theorem container_of_value {depth : Nat} {v : Json} {rest : List Char}
    (found : skipBlanks cs = c :: cs') (container : scalar? c cs' = none)
    (h : value depth cs = .ok (v, rest)) : (∃ xs, v = .array xs) ∨ ∃ ms, v = .object ms := by
  cases depth with
  | zero =>
      rw [value, found] at h
      simp only [container] at h
      cases h
  | succ depth =>
      rcases scalar?_eq_none_iff.1 container with rfl | rfl
      · rw [value_array found] at h
        obtain ⟨⟨xs, rest'⟩, -, h⟩ := bind_eq_ok.1 h
        cases h
        exact .inl ⟨xs, rfl⟩
      · rw [value_object found] at h
        obtain ⟨⟨ms, rest'⟩, -, h⟩ := bind_eq_ok.1 h
        cases h
        exact .inr ⟨ms, rfl⟩

/-! ## Rounds

A container goes on if there is a next element or key. How the reader finds that out, with the comma
before it, is hidden in `nextElement` and `nextKey`. -/

/-- Where no more members come, the closing brace is next. -/
theorem skipBlanks_of_nextKey {first : Bool} (h : nextKey first cs = .ok none) :
    ∃ rest, skipBlanks cs = '\x7d' :: rest := by
  unfold nextKey at h
  dsimp only at h
  split at h
  · cases h
  · exact ⟨_, ‹_›⟩
  · split at h
    · split at h <;> cases h
    · split at h
      · split at h <;> cases h
      · cases h

/-- Behind the first element the others are read as in any array. -/
theorem elements_first {value : JsonReader Json} (progress : Progresses value)
    {next rest : List Char} (found : nextElement true cs = .ok (some next)) {xs : List Json} :
    elements value (cs.length + 1) true cs = .ok (xs, rest) ↔
      ∃ x left more, value next = .ok (x, left) ∧
        elements value (left.length + 1) false left = .ok (more, rest) ∧ xs = x :: more := by
  have shorter := length_nextElement found
  rw [elements, found]
  constructor
  · intro h
    obtain ⟨_, ⟨⟩, h⟩ := bind_eq_ok.1 h
    obtain ⟨⟨x, left⟩, first, h⟩ := bind_eq_ok.1 h
    obtain ⟨⟨more, rest'⟩, others, h⟩ := bind_eq_ok.1 h
    cases h
    exact ⟨x, left, more, first, elements_rounds progress others (Nat.lt_succ_self _), rfl⟩
  · rintro ⟨x, left, more, first, others, rfl⟩
    have := progress first
    have enough : left.length < cs.length := by omega
    have others' := elements_rounds progress others enough
    exact bind_eq_ok.2 ⟨_, rfl, bind_eq_ok.2 ⟨_, first, bind_eq_ok.2 ⟨_, others', rfl⟩⟩⟩

theorem member_eq_ok_iff {value : JsonReader Json} {rest : List Char} {m : String × Json} :
    member value cs = .ok (m, rest) ↔
      ∃ left left', string cs = .ok (m.1, left) ∧ colon left = .ok left' ∧
        value left' = .ok (m.2, rest) := by
  constructor
  · intro h
    obtain ⟨⟨key, left⟩, named, h⟩ := bind_eq_ok.1 h
    obtain ⟨left', behind, h⟩ := bind_eq_ok.1 h
    obtain ⟨⟨x, rest'⟩, read, h⟩ := bind_eq_ok.1 h
    cases h
    exact ⟨left, left', named, behind, read⟩
  · rintro ⟨left, left', named, behind, read⟩
    exact bind_eq_ok.2 ⟨_, named, bind_eq_ok.2 ⟨_, behind, bind_eq_ok.2 ⟨_, read, rfl⟩⟩⟩

/-- One round over the members of an object. -/
theorem members_next {value : JsonReader Json} {first : Bool} {next rest : List Char}
    (found : nextKey first cs = .ok (some next)) (fuel : Nat) {ms : List (String × Json)} :
    members value (fuel + 1) first cs = .ok (ms, rest) ↔
      ∃ m left more, member value next = .ok (m, left) ∧
        members value fuel false left = .ok (more, rest) ∧ ms = m :: more := by
  rw [members, found]
  constructor
  · intro h
    obtain ⟨_, ⟨⟩, h⟩ := bind_eq_ok.1 h
    obtain ⟨⟨m, left⟩, one, h⟩ := bind_eq_ok.1 h
    obtain ⟨⟨more, rest'⟩, others, h⟩ := bind_eq_ok.1 h
    cases h
    exact ⟨m, left, more, one, others, rfl⟩
  · rintro ⟨m, left, more, one, others, rfl⟩
    exact bind_eq_ok.2 ⟨_, rfl, bind_eq_ok.2 ⟨_, one, bind_eq_ok.2 ⟨_, others, rfl⟩⟩⟩

end JsonReader

/-! ## Texts -/

/-- A text is a value if only blanks follow it. -/
theorem Json.parse_eq_ok_iff {text : String} {v : Json} :
    Json.parse text = .ok v ↔
      ∃ rest, Json.read text.toList = .ok (v, rest) ∧ done rest = .ok () := by
  unfold Json.parse
  constructor
  · intro h
    dsimp only at h
    split at h
    · next v' read =>
      cases h
      obtain ⟨⟨v, rest⟩, value, read⟩ := bind_eq_ok.1 read
      obtain ⟨_, finished, read⟩ := bind_eq_ok.1 read
      cases read
      exact ⟨rest, value, finished⟩
    · cases h
  · rintro ⟨rest, value, finished⟩
    simp only [bind, Except.bind, value, finished]
    rfl

end VoiceLink
