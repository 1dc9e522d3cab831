import VoiceLink.Json.Reader
import VoiceLink.Proofs.Basic

/-!
# Readers use up what they read

No reader leaves more characters than it was given, and one that has read a value leaves fewer
(`progresses_value`). So the rounds that the length of a text allows for are always enough, and it
makes no difference how many more are allowed (`elements_rounds`).

The readers use fuel only because they go round in loops that are bounded by the text and not by its
structure. After this module fuel need not be mentioned again.
-/

namespace VoiceLink.JsonReader

/-! ## Leaving no more than there was

The steps of a reader leave a part of what they were given. Most may take nothing; a whole value
takes a character at least, and it is the rounds over values that have to end. -/

def NonGrowing {α : Type} (read : List Char → Except Stop (α × List Char)) : Prop :=
  ∀ {cs x rest}, read cs = .ok (x, rest) → rest.length ≤ cs.length

def Progresses {α : Type} (read : List Char → Except Stop (α × List Char)) : Prop :=
  ∀ {cs x rest}, read cs = .ok (x, rest) → rest.length < cs.length

theorem length_skipBlanks_le (cs : List Char) : (skipBlanks cs).length ≤ cs.length :=
  (List.dropWhile_suffix _).length_le

theorem length_of_skipBlanks {cs rest : List Char} {c : Char} (h : skipBlanks cs = c :: rest) :
    rest.length < cs.length := by
  have := length_skipBlanks_le cs
  rw [h, List.length_cons] at this
  omega

theorem length_word {expected cs rest : List Char} (h : word expected cs = .ok rest) :
    rest.length ≤ cs.length := by
  induction expected generalizing cs with
  | nil =>
      cases h
      exact Nat.le_refl _
  | cons w ws ih =>
      cases cs with
      | nil => cases h
      | cons c cs =>
          rw [word] at h
          split at h
          · exact Nat.le_succ_of_le (ih h)
          · cases h

/-! ## Strings

A string takes its closing quote at least, but it is enough to know that it leaves no more. -/

theorem nonGrowing_hexQuad : NonGrowing hexQuad := by
  intro cs n rest h
  unfold hexQuad at h
  split at h
  · cases h
  · split at h
    · split at h
      · cases h
        simp only [List.length_cons]
        omega
      · cases h
    · cases h

theorem nonGrowing_unicodeEscape : NonGrowing unicodeEscape := by
  intro cs c rest h
  obtain ⟨⟨lead, cs'⟩, quad, h⟩ := bind_eq_ok.1 h
  have first := nonGrowing_hexQuad quad
  dsimp only at h
  split at h
  · cases h
  · split at h
    · cases h
      exact first
    · -- a leading surrogate: the escape of the trailing one follows
      split at h
      · cases h
      · cases h
      · next cs'' =>
        obtain ⟨⟨trail, cs'''⟩, quad', h⟩ := bind_eq_ok.1 h
        have second := nonGrowing_hexQuad quad'
        dsimp only at h
        split at h
        · cases h
        · obtain ⟨-, rfl⟩ := Prod.mk.inj (Except.ok.inj h)
          simp only [List.length_cons] at first
          omega
      · cases h
      · cases h

theorem nonGrowing_escape : NonGrowing escape := by
  intro cs c rest h
  fun_cases escape cs
  case case1 => cases h
  case case10 => exact Nat.le_succ_of_le (nonGrowing_unicodeEscape h)
  case case11 =>
    rw [escape] at h
    · cases h
    all_goals assumption
  all_goals
    cases h
    exact Nat.le_succ _

theorem nonGrowing_stringBody (fuel : Nat) : NonGrowing (stringBody fuel) := by
  intro cs s rest h
  fun_induction stringBody fuel cs generalizing s rest with
  | case1 => cases h
  | case2 => cases h
  | case3 =>
      cases h
      exact Nat.le_succ _
  | case4 fuel cs ih =>
      obtain ⟨⟨c, cs'⟩, escaped, h⟩ := bind_eq_ok.1 h
      obtain ⟨⟨more, cs''⟩, others, h⟩ := bind_eq_ok.1 h
      cases h
      have := nonGrowing_escape escaped
      have := ih _ others
      simp only [List.length_cons]
      omega
  | case5 => cases h
  | case6 fuel c cs _ _ _ ih =>
      obtain ⟨⟨more, cs'⟩, others, h⟩ := bind_eq_ok.1 h
      cases h
      exact Nat.le_succ_of_le (ih others)

theorem nonGrowing_string : NonGrowing string := by
  intro cs s rest h
  obtain ⟨⟨body, cs'⟩, read, h⟩ := bind_eq_ok.1 h
  cases h
  exact nonGrowing_stringBody _ read

/-! ## Numbers

A number takes the digit that it begins with. From there on nothing has to be taken any more. -/

theorem nonGrowing_finishReal (positive : Bool) (s : Scaled) :
    NonGrowing (finishReal positive s) := by
  intro cs n rest h
  unfold finishReal at h
  split at h
  · cases h
    exact Nat.le_refl _
  · cases h

theorem length_exponentDigits {n e : Nat} {cs rest : List Char}
    (h : exponentDigits n cs = .ok (e, rest)) : rest.length ≤ cs.length := by
  induction cs generalizing n with
  | nil =>
      cases h
      exact Nat.le_refl _
  | cons c cs ih =>
      rw [exponentDigits] at h
      split at h
      · dsimp only at h
        split at h
        · exact Nat.le_succ_of_le (ih h)
        · cases h
      · cases h
        exact Nat.le_refl _

theorem length_exponentDigits_error {n : Nat} {cs rest : List Char}
    (h : exponentDigits n cs = .error rest) : rest.length ≤ cs.length := by
  induction cs generalizing n with
  | nil => cases h
  | cons c cs ih =>
      rw [exponentDigits] at h
      split at h
      · dsimp only at h
        split at h
        · exact Nat.le_succ_of_le (ih h)
        · cases h
          exact Nat.le_succ _
      · cases h

theorem nonGrowing_exponentPart (positive : Bool) (s : Scaled) :
    NonGrowing (exponentPart positive s) := by
  intro cs n rest h
  unfold exponentPart at h
  split at h
  next up left signed =>
  -- a sign is taken if there is one
  have sign : left.length ≤ cs.length := by
    split at signed
    all_goals obtain ⟨-, rfl⟩ := Prod.mk.inj signed
    · exact Nat.le_succ _
    · exact Nat.le_succ _
    · exact Nat.le_refl _
  split at h
  · cases h
  · rw [List.length_cons] at sign
    split at h
    · split at h
      · next e rest' read =>
        have := length_exponentDigits read
        have := nonGrowing_finishReal _ _ h
        omega
      · next rest' read =>
        have := length_exponentDigits_error read
        split at h
        · cases h
        · cases h
          have := (List.dropWhile_suffix Char.isDigit (l := rest')).length_le
          omega
    · cases h

theorem nonGrowing_afterMantissa (positive : Bool) (s : Scaled) :
    NonGrowing (afterMantissa positive s) := by
  intro cs n rest h
  unfold afterMantissa at h
  split at h
  · exact Nat.le_succ_of_le (nonGrowing_exponentPart _ _ h)
  · exact Nat.le_succ_of_le (nonGrowing_exponentPart _ _ h)
  · exact nonGrowing_finishReal _ _ h

theorem nonGrowing_fractionPart (positive : Bool) (s : Scaled) :
    NonGrowing (fractionPart positive s) := by
  intro cs n rest h
  have digits := (List.dropWhile_suffix Char.isDigit (l := cs)).length_le
  unfold fractionPart at h
  dsimp only at h
  split at h
  · split at h <;> cases h
  · exact Nat.le_trans (nonGrowing_afterMantissa _ _ h) digits

theorem nonGrowing_afterWhole (positive : Bool) (s : Scaled) :
    NonGrowing (afterWhole positive s) := by
  intro cs n rest h
  unfold afterWhole at h
  split at h
  · exact Nat.le_succ_of_le (nonGrowing_fractionPart _ _ h)
  · exact nonGrowing_afterMantissa _ _ h

theorem progresses_unsigned (positive : Bool) : Progresses (unsigned positive) := by
  intro cs n rest h
  cases cs with
  | nil => cases h
  | cons c cs =>
      rw [unsigned] at h
      split at h
      · cases h
      · -- a leading zero stands alone, other digits go on
        have digits : (if c = '0' then cs else cs.dropWhile Char.isDigit).length ≤ cs.length := by
          split
          · exact Nat.le_refl _
          · exact (List.dropWhile_suffix Char.isDigit (l := cs)).length_le
        rw [List.length_cons]
        dsimp only at h
        generalize (if c = '0' then cs else cs.dropWhile Char.isDigit) = left at h digits
        generalize fitDigits _ (if c = '0' then [] else cs.takeWhile Char.isDigit) = fitted at h
        split at h
        · split at h
          · cases h
          · split at h
            · have := nonGrowing_afterWhole _ _ h
              omega
            · obtain ⟨-, rfl⟩ := Prod.mk.inj (Except.ok.inj h)
              omega
        · split at h
          · cases h
            exact Nat.succ_pos _
          · have := nonGrowing_finishReal _ _ h
            omega

theorem progresses_number : Progresses number := by
  intro cs n rest h
  unfold number at h
  split at h
  · exact Nat.lt_succ_of_lt (progresses_unsigned _ h)
  · exact progresses_unsigned _ h

/-! ## Values and containers

Containers are stated for any reader of the values in them, and the depth ties the two together in
`progresses_value`: a container is read with the reader of one level less. -/

/-- A scalar is read from its first character on. -/
theorem length_scalar? {c : Char} {cs rest : List Char} {v : Json}
    (h : scalar? c cs = some (.ok (v, rest))) : rest.length ≤ cs.length := by
  unfold scalar? at h
  split at h
  · obtain ⟨rest', read, h⟩ := bind_eq_ok.1 (Option.some.inj h)
    cases h
    exact length_word read
  · split at h
    · obtain ⟨rest', read, h⟩ := bind_eq_ok.1 (Option.some.inj h)
      cases h
      exact length_word read
    · split at h
      · obtain ⟨rest', read, h⟩ := bind_eq_ok.1 (Option.some.inj h)
        cases h
        exact length_word read
      · split at h
        · obtain ⟨⟨s, rest'⟩, read, h⟩ := bind_eq_ok.1 (Option.some.inj h)
          cases h
          exact nonGrowing_string read
        · split at h
          · obtain ⟨⟨n, rest'⟩, read, h⟩ := bind_eq_ok.1 (Option.some.inj h)
            cases h
            exact Nat.le_of_lt_succ (progresses_number read)
          · split at h <;> cases h

theorem length_nextElement {first : Bool} {cs rest : List Char}
    (h : nextElement first cs = .ok (some rest)) : rest.length ≤ cs.length := by
  have blanks := length_skipBlanks_le cs
  unfold nextElement at h
  dsimp only at h
  split at h
  · cases h
  · cases h
  · next c cs' _ found =>
    rw [found] at h blanks
    split at h
    · cases h
      exact blanks
    · split at h
      · have more := length_skipBlanks_le cs'
        rw [List.length_cons] at blanks
        split at h
        · cases h
        · cases h
        · cases h
          omega
      · cases h

theorem length_nextKey {first : Bool} {cs rest : List Char}
    (h : nextKey first cs = .ok (some rest)) : rest.length ≤ cs.length := by
  have blanks := length_skipBlanks_le cs
  unfold nextKey at h
  dsimp only at h
  split at h
  · cases h
  · cases h
  · next c cs' _ found =>
    rw [found] at h blanks
    rw [List.length_cons] at blanks
    split at h
    · -- the first key needs no comma
      split at h
      · cases h
      · next quoted =>
        cases h
        cases quoted
        omega
      · cases h
      · cases h
    · split at h
      -- a later key stands behind a comma and blanks
      · have more := length_skipBlanks_le cs'
        split at h
        · cases h
        · next quoted =>
          cases h
          have := congrArg List.length quoted
          rw [List.length_cons] at this
          omega
        · cases h
        · cases h
      · cases h

theorem length_colon {cs rest : List Char} (h : colon cs = .ok rest) :
    rest.length ≤ cs.length := by
  unfold colon at h
  split at h
  · cases h
  · next cs' found =>
    cases h
    exact Nat.le_of_lt (length_of_skipBlanks found)
  · cases h

section Containers

variable {value : JsonReader Json}

theorem nonGrowing_elements (progress : Progresses value) (fuel : Nat) (first : Bool) :
    NonGrowing (elements value fuel first) := by
  intro cs xs rest h
  induction fuel generalizing first cs xs with
  | zero => cases h
  | succ fuel ih =>
      obtain ⟨next, found, h⟩ := bind_eq_ok.1 h
      cases next with
      | none =>
          cases h
          have := length_skipBlanks_le cs
          rw [List.length_drop]
          omega
      | some cs' =>
          obtain ⟨⟨x, cs''⟩, read, h⟩ := bind_eq_ok.1 h
          obtain ⟨⟨xs', rest'⟩, others, h⟩ := bind_eq_ok.1 h
          cases h
          have := length_nextElement found
          have := progress read
          have := ih _ others
          omega

theorem progresses_member (progress : Progresses value) : Progresses (member value) := by
  intro cs m rest h
  obtain ⟨⟨key, cs'⟩, named, h⟩ := bind_eq_ok.1 h
  obtain ⟨cs'', behind, h⟩ := bind_eq_ok.1 h
  obtain ⟨⟨x, rest'⟩, read, h⟩ := bind_eq_ok.1 h
  cases h
  have := nonGrowing_string named
  have := length_colon behind
  have := progress read
  omega

theorem nonGrowing_members (progress : Progresses value) (fuel : Nat) (first : Bool) :
    NonGrowing (members value fuel first) := by
  intro cs ms rest h
  induction fuel generalizing first cs ms with
  | zero => cases h
  | succ fuel ih =>
      obtain ⟨next, found, h⟩ := bind_eq_ok.1 h
      cases next with
      | none =>
          cases h
          have := length_skipBlanks_le cs
          rw [List.length_drop]
          omega
      | some cs' =>
          obtain ⟨⟨m, cs''⟩, read, h⟩ := bind_eq_ok.1 h
          obtain ⟨⟨ms', rest'⟩, others, h⟩ := bind_eq_ok.1 h
          cases h
          have := length_nextKey found
          have := progresses_member progress read
          have := ih _ others
          omega

end Containers

/-- A value has at least one character, whatever is in it. -/
theorem progresses_value (depth : Nat) : Progresses (value depth) := by
  intro cs v rest h
  induction depth generalizing cs v rest with
  | zero =>
      rw [value] at h
      split at h
      · cases h
      · next c cs' found =>
        have shorter := length_of_skipBlanks found
        split at h
        · next result scalar =>
          have := length_scalar? (h ▸ scalar)
          omega
        · cases h
  | succ depth ih =>
      rw [value] at h
      split at h
      · cases h
      · next c cs' found =>
        have shorter := length_of_skipBlanks found
        split at h
        · next result scalar =>
          have := length_scalar? (h ▸ scalar)
          omega
        · dsimp only at h
          split at h
          · obtain ⟨⟨xs, rest'⟩, read, h⟩ := bind_eq_ok.1 h
            cases h
            -- what is in a container may be nothing, but its bracket is gone
            exact Nat.lt_of_le_of_lt (nonGrowing_elements ih _ _ read) shorter
          · obtain ⟨⟨ms, rest'⟩, read, h⟩ := bind_eq_ok.1 h
            cases h
            exact Nat.lt_of_le_of_lt (nonGrowing_members ih _ _ read) shorter

/-- The elements of an array are the same whichever number of rounds is allowed, as long as it is
more than there are characters. -/
theorem elements_rounds {value : JsonReader Json} (progress : Progresses value) {fuel : Nat}
    {first : Bool} {cs rest : List Char} {xs : List Json}
    (h : elements value fuel first cs = .ok (xs, rest)) {fuel' : Nat} (enough : cs.length < fuel') :
    elements value fuel' first cs = .ok (xs, rest) := by
  induction fuel generalizing first cs xs fuel' with
  | zero => cases h
  | succ fuel ih =>
      cases fuel' with
      | zero => cases enough
      | succ fuel' =>
          obtain ⟨next, found, h⟩ := bind_eq_ok.1 h
          refine bind_eq_ok.2 ⟨next, found, ?_⟩
          cases next with
          | none => exact h
          | some cs' =>
              obtain ⟨⟨x, cs''⟩, read, h⟩ := bind_eq_ok.1 h
              obtain ⟨⟨xs', rest'⟩, others, h⟩ := bind_eq_ok.1 h
              cases h
              have := length_nextElement found
              have := progress read
              exact bind_eq_ok.2 ⟨_, read, bind_eq_ok.2 ⟨_, ih others (by omega), rfl⟩⟩

end VoiceLink.JsonReader
