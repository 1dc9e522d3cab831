import Mathlib
import VoiceLink.Json.Printer
import VoiceLink.Json.Reader
import VoiceLink.Proofs.Basic

/-!
# Reading what was written

A written value is followed by whatever comes next, so every statement here is about a text that
goes on: the reader takes the value and leaves the rest. Strings and objects say themselves where
they end; a number ends where the rest does not continue it (`Ends`). `Json.Readable` collects what
the containers need of the values in them.

The writer is a recursion over the value, and so is the proof. A reader goes over the text instead,
with fuel for its rounds; that it is enough follows from each character being written as one at
least.
-/

namespace VoiceLink

open JsonReader

/-! ## Strings

One character after the other, each of which is written as itself, as an escape of two characters or
by its number. An escape is a round of the reader whatever its length. -/

namespace Numeral

theorem hexValue?_hexChar : ∀ d, d < 16 → hexValue? (hexChar d) = some d := by decide

theorem utf8Size_hexChar : ∀ d, d < 16 → (hexChar d).utf8Size = 1 := by decide

end Numeral

namespace JsonReader

/-- The escape of a control character gives its number. -/
theorem hexQuad_control {n : Nat} (h : n < 32) (rest : List Char) :
    hexQuad ('0' :: '0' :: Numeral.hexChar (n / 16) :: Numeral.hexChar (n % 16) :: rest) =
      .ok (n, rest) := by
  have high : n / 16 < 16 := by omega
  have low : n % 16 < 16 := Nat.mod_lt n (by decide)
  have zero : Numeral.hexValue? '0' = some 0 := by decide
  have bytes : utf8Length ['0', '0', Numeral.hexChar (n / 16), Numeral.hexChar (n % 16)] = 4 := by
    simp [utf8Length, Numeral.utf8Size_hexChar _ high, Numeral.utf8Size_hexChar _ low]
    decide
  have value : ((0 * 16 + 0) * 16 + n / 16) * 16 + n % 16 = n := by omega
  simp only [hexQuad, List.take_succ_cons, List.take_zero, bytes, Nat.lt_irrefl, ↓reduceIte,
    Numeral.hexValue?_hexChar _ high, Numeral.hexValue?_hexChar _ low, zero, value]

theorem unicodeEscape_control {c : Char} (h : c.toNat < 32) (rest : List Char) :
    unicodeEscape
        ('0' :: '0' :: Numeral.hexChar (c.toNat / 16) :: Numeral.hexChar (c.toNat % 16) :: rest) =
      .ok (c, rest) := by
  have trailing : ¬ (0xDC00 ≤ c.toNat ∧ c.toNat ≤ 0xDFFF) := by omega
  have plain : c.toNat < 0xD800 ∨ 0xDBFF < c.toNat := by omega
  rw [unicodeEscape, hexQuad_control h]
  simp only [bind, Except.bind, if_neg trailing, if_pos plain, Char.ofNat_toNat]
  rfl

/-- An escape is one round of the reader. -/
theorem stringBody_escape {cs rest : List Char} {c : Char} (escaped : escape cs = .ok (c, rest))
    (fuel : Nat) :
    stringBody (fuel + 1) ('\\' :: cs) =
      (stringBody fuel rest).map fun (body, rest) => (c :: body, rest) := by
  rw [stringBody, escaped]
  simp only [bind, Except.bind]
  cases stringBody fuel rest <;> rfl

/-- A written character is one round of the reader. -/
theorem stringBody_escapeChar (fuel : Nat) (c : Char) (rest : List Char) :
    stringBody (fuel + 1) (Json.escapeChar c ++ rest) =
      (stringBody fuel rest).map fun (body, rest) => (c :: body, rest) := by
  unfold Json.escapeChar
  split
  · next h =>
    subst h
    exact stringBody_escape rfl fuel
  split
  · next h =>
    subst h
    exact stringBody_escape rfl fuel
  split
  · next h =>
    subst h
    exact stringBody_escape rfl fuel
  split
  · next h =>
    subst h
    exact stringBody_escape rfl fuel
  split
  · next h =>
    subst h
    exact stringBody_escape rfl fuel
  split
  · next h =>
    subst h
    exact stringBody_escape rfl fuel
  split
  · next h =>
    subst h
    exact stringBody_escape rfl fuel
  split
  -- the characters with a letter of their own are done; others are written by their number
  · next control =>
    have escaped : escape ('u' :: '0' :: '0' :: Numeral.hexChar (c.toNat / 16) ::
        Numeral.hexChar (c.toNat % 16) :: rest) = .ok (c, rest) :=
      unicodeEscape_control control rest
    exact stringBody_escape escaped fuel
  · next quote backslash _ _ _ _ _ control =>
    rw [List.singleton_append, stringBody, if_neg control]
    · simp only [bind, Except.bind]
      cases stringBody fuel rest <;> rfl
    · exact quote
    · exact backslash

theorem stringBody_escaped {fuel : Nat} {cs : List Char} (h : cs.length < fuel)
    (rest : List Char) :
    stringBody fuel (cs.flatMap Json.escapeChar ++ '"' :: rest) = .ok (cs, rest) := by
  induction cs generalizing fuel with
  | nil =>
      cases fuel with
      | zero => cases h
      | succ fuel => rfl
  | cons c cs ih =>
      cases fuel with
      | zero => cases h
      | succ fuel =>
          rw [List.flatMap_cons, List.append_assoc, stringBody_escapeChar,
            ih (Nat.lt_of_succ_lt_succ h)]
          rfl

theorem escapeChar_ne_nil (c : Char) : Json.escapeChar c ≠ [] := by
  unfold Json.escapeChar
  repeat' split
  all_goals simp

/-- No character is written as nothing. -/
theorem length_le_escaped (cs : List Char) :
    cs.length ≤ (cs.flatMap Json.escapeChar).length := by
  induction cs with
  | nil => exact Nat.le_refl 0
  | cons c cs ih =>
      have one := List.length_pos_iff.2 (escapeChar_ne_nil c)
      rw [List.flatMap_cons, List.length_append, List.length_cons]
      omega

/-- Reading undoes quoting. -/
theorem string_quoted (s : String) (rest : List Char) :
    string (s.toList.flatMap Json.escapeChar ++ '"' :: rest) = .ok (s, rest) := by
  have enough : s.toList.length <
      (s.toList.flatMap Json.escapeChar ++ '"' :: rest).length + 1 := by
    have := length_le_escaped s.toList
    rw [List.length_append]
    omega
  rw [string, stringBody_escaped enough]
  simp only [bind, Except.bind, String.ofList_toList]
  rfl

theorem quote_append (s : String) (rest : List Char) :
    Json.quote s ++ rest = '"' :: (s.toList.flatMap Json.escapeChar ++ '"' :: rest) := by
  simp [Json.quote]

/-! ## Numbers

Only natural numbers of 64 bits are written. Their reader would go on over a point, an exponent or
another digit, so it matters what comes behind them; in an object that is a comma or a brace. -/

/-- What follows does not continue a number. -/
def Ends (rest : List Char) : Prop :=
  ∀ c ∈ rest.head?, c.isDigit = false ∧ c ≠ '.' ∧ c ≠ 'e' ∧ c ≠ 'E'

theorem ends_nil : Ends [] := nofun

theorem ends_comma (rest : List Char) : Ends (',' :: rest) := by
  intro c hc
  cases Option.some.inj hc
  decide

theorem ends_brace (rest : List Char) : Ends ('\x7d' :: rest) := by
  intro c hc
  cases Option.some.inj hc
  decide

theorem Ends.takeWhile_isDigit {rest : List Char} (ends : Ends rest) :
    rest.takeWhile Char.isDigit = [] := by
  cases rest with
  | nil => rfl
  | cons c rest => simp [(ends c rfl).1]

theorem Ends.dropWhile_isDigit {rest : List Char} (ends : Ends rest) :
    rest.dropWhile Char.isDigit = rest := by
  cases rest with
  | nil => rfl
  | cons c rest => simp [(ends c rfl).1]

end JsonReader

namespace Numeral

/-- Only zero is written with a leading zero. -/
theorem digits_eq_zero_cons {n : Nat} {more : List Char} (h : digits n = '0' :: more) :
    n = 0 := by
  by_contra positive
  induction n using Nat.strongRecOn generalizing more with
  | _ n ih =>
    rw [digits] at h
    split at h
    · next small =>
      have first : digitChar n = '0' := (List.cons.inj h).1
      have value := digitValue_digitChar n small
      rw [first] at value
      exact positive value.symm
    · next large =>
      have positive' : n / 10 ≠ 0 := by omega
      cases front : digits (n / 10) with
      | nil => exact digits_ne_nil _ front
      | cons c cs =>
          rw [front, List.cons_append] at h
          have first : c = '0' := (List.cons.inj h).1
          rw [first] at front
          exact ih (n / 10) (by omega) front positive'

end Numeral

namespace JsonReader

/-- Digits of a number of 64 bits are all taken. -/
theorem fitDigits_eq {n : Nat} {cs : List Char} (h : Numeral.ofDigitsFrom n cs ≤ maxWord) :
    fitDigits n cs = (Numeral.ofDigitsFrom n cs, []) := by
  induction cs generalizing n with
  | nil => rfl
  | cons c cs ih =>
      have next : n * 10 + Numeral.digitValue c = 10 * n + Numeral.digitValue c := by omega
      have fits : 10 * n + Numeral.digitValue c ≤ maxWord :=
        Nat.le_trans (Numeral.le_ofDigitsFrom _ cs) h
      rw [fitDigits, next, if_pos fits]
      exact ih h

/-- Reading undoes writing, for numbers of 64 bits. -/
theorem unsigned_digits {n : Nat} (h : n ≤ maxWord) {rest : List Char} (ends : Ends rest) :
    unsigned true (Numeral.digits n ++ rest) = .ok (.int n, rest) := by
  cases written : Numeral.digits n with
  | nil => exact absurd written (Numeral.digits_ne_nil n)
  | cons c more =>
      have all := Numeral.isDigit_of_mem_digits n
      rw [written] at all
      have first : c.isDigit = true := all c List.mem_cons_self
      have others : ∀ d ∈ more, d.isDigit = true := fun d hd => all d (List.mem_cons_of_mem c hd)
      have value : Numeral.ofDigitsFrom (Numeral.digitValue c) more = n := by
        rw [← Numeral.ofDigits_digits n, written]
        simp [Numeral.ofDigits, Numeral.ofDigitsFrom]
      have fitted : fitDigits (Numeral.digitValue c) more = (n, []) := by
        rw [fitDigits_eq (value ▸ h), value]
      -- a leading zero stands alone, so either way these digits are taken and the rest is left
      have alone : c = '0' → more = [] := by
        rintro rfl
        have zero := Numeral.digits_eq_zero_cons written
        rw [zero] at written
        exact (List.cons.inj (written.symm.trans (by rw [Numeral.digits]; rfl))).2
      have taken : (if c = '0' then [] else (more ++ rest).takeWhile Char.isDigit) = more := by
        split
        · next zero => exact (alone zero).symm
        · rw [List.takeWhile_append_of_pos others, ends.takeWhile_isDigit, List.append_nil]
      have left : (if c = '0' then more ++ rest else (more ++ rest).dropWhile Char.isDigit) =
          rest := by
        split
        · next zero => rw [alone zero, List.nil_append]
        · rw [List.dropWhile_append_of_pos others, ends.dropWhile_isDigit]
      rw [List.cons_append, unsigned, if_neg (by simpa using first)]
      simp only [taken, left, fitted]
      cases rest with
      | nil => rfl
      | cons d rest =>
          obtain ⟨digit, point, lower, upper⟩ := ends d rfl
          simp [digit, point, lower, upper, finishWhole]

theorem digits_head (n : Nat) : ∃ c more, Numeral.digits n = c :: more ∧ c.isDigit = true := by
  cases written : Numeral.digits n with
  | nil => exact absurd written (Numeral.digits_ne_nil n)
  | cons c more =>
      refine ⟨c, more, rfl, Numeral.isDigit_of_mem_digits n c ?_⟩
      rw [written]
      exact List.mem_cons_self

/-- No other value begins with a digit. -/
theorem scalar?_digit {c : Char} (h : c.isDigit = true) (cs : List Char) :
    scalar? c cs = some (do
      let (n, rest) ← number (c :: cs)
      return (.number n, rest)) := by
  have other (d : Char) (hd : d.isDigit = false) : c ≠ d := by
    rintro rfl
    cases h.symm.trans hd
  simp [scalar?, h, other 'n' rfl, other 't' rfl, other 'f' rfl, other '"' rfl]

theorem number_digits {n : Nat} (h : n ≤ maxWord) {rest : List Char} (ends : Ends rest) :
    number (Numeral.digits n ++ rest) = .ok (.int n, rest) := by
  rw [← unsigned_digits h ends]
  obtain ⟨c, more, written, digit⟩ := digits_head n
  rw [written, List.cons_append, number]
  rintro cs ⟨⟩
  cases digit

/-! ## What leads to a value

Nothing that is written begins with a blank, and the first character tells what it is. -/

theorem skipBlanks_cons {c : Char} (h : isBlank c = false) (cs : List Char) :
    skipBlanks (c :: cs) = c :: cs := by
  simp [skipBlanks, h]

theorem isBlank_of_isDigit {c : Char} (h : c.isDigit = true) : isBlank c = false := by
  have other (d : Char) (hd : d.isDigit = false) : c ≠ d := by
    rintro rfl
    cases h.symm.trans hd
  simp [isBlank, other ' ' rfl, other '\n' rfl, other '\t' rfl, other '\r' rfl]

theorem scalar?_quoted (s : String) (rest : List Char) :
    scalar? '"' (s.toList.flatMap Json.escapeChar ++ '"' :: rest) =
      some (.ok (.string s, rest)) := by
  have opened (cs : List Char) :
      scalar? '"' cs = some (string cs >>= fun r => .ok (.string r.1, r.2)) := rfl
  rw [opened, string_quoted]
  rfl

/-- A key follows the comma behind the member before it, if there is one. -/
theorem nextKey_quote (first : Bool) (rest : List Char) :
    nextKey first ((if first then [] else [',']) ++ '"' :: rest) = .ok (some rest) := by
  cases first <;> rfl

theorem nextKey_close (first : Bool) (rest : List Char) :
    nextKey first ('\x7d' :: rest) = .ok none := by
  cases first <;> rfl

theorem colon_cons (rest : List Char) : colon (':' :: rest) = .ok rest := rfl

end JsonReader

/-! ## Values and containers

A value can be read where nesting is allowed as deep as it goes. `ReadBy` is stated for any reader
of values, because the members of an object are read with the reader of one level less. -/

namespace Json

/-- A reader takes a written value, whatever comes behind it. -/
def ReadBy (value : JsonReader Json) (v : Json) : Prop :=
  ∀ rest, Ends rest → value (v.chars ++ rest) = .ok (v, rest)

def Readable (depth : Nat) (v : Json) : Prop := v.ReadBy (JsonReader.value depth)

theorem readable_string (depth : Nat) (s : String) : Readable depth (.string s) := by
  intro rest ends
  rw [chars, quote_append, JsonReader.value, skipBlanks_cons (by decide)]
  simp only [scalar?_quoted]

theorem readable_nat (depth : Nat) {n : Nat} (h : n ≤ maxWord) : Readable depth (.nat n) := by
  intro rest ends
  have whole := number_digits h ends
  have same : (Json.nat n).chars = Numeral.digits n := rfl
  rw [same]
  obtain ⟨c, more, written, digit⟩ := digits_head n
  rw [written, List.cons_append] at whole ⊢
  rw [JsonReader.value, skipBlanks_cons (isBlank_of_isDigit digit)]
  simp only [scalar?_digit digit, whole]
  rfl

/-! ### Objects

The first member has no comma in front, and the others do; the flag of the reader follows that of
the writer. -/

theorem memberChars_cons_append (first : Bool) (key : String) (x : Json)
    (ms : List (String × Json)) (rest : List Char) :
    memberChars first ((key, x) :: ms) ++ rest =
      (if first then [] else [',']) ++ '"' :: (key.toList.flatMap escapeChar ++
        '"' :: ':' :: (x.chars ++ (memberChars false ms ++ rest))) := by
  rw [memberChars]
  simp only [List.append_assoc, List.cons_append, quote_append]

/-- Behind a member comes a comma or the closing brace. -/
theorem ends_memberChars (ms : List (String × Json)) (rest : List Char) :
    Ends (memberChars false ms ++ '\x7d' :: rest) := by
  cases ms with
  | nil => exact ends_brace rest
  | cons m ms =>
      obtain ⟨key, x⟩ := m
      rw [memberChars_cons_append]
      exact ends_comma _

theorem member_written {value : JsonReader Json} {x : Json} {rest : List Char}
    (h : value (x.chars ++ rest) = .ok (x, rest)) (key : String) :
    member value (key.toList.flatMap escapeChar ++ '"' :: ':' :: (x.chars ++ rest)) =
      .ok ((key, x), rest) := by
  simp only [member, bind, Except.bind, string_quoted, colon_cons, h]
  rfl

/-- The members of an object are read again if their values are. -/
theorem members_memberChars {value : JsonReader Json} {ms : List (String × Json)}
    (readable : ∀ m ∈ ms, m.2.ReadBy value) {fuel : Nat} (enough : ms.length < fuel)
    (first : Bool) (rest : List Char) :
    members value fuel first (memberChars first ms ++ '\x7d' :: rest) = .ok (ms, rest) := by
  induction ms generalizing fuel first with
  | nil =>
      cases fuel with
      | zero => cases enough
      | succ fuel =>
          rw [memberChars, List.nil_append, members, nextKey_close]
          rfl
  | cons m ms ih =>
      cases fuel with
      | zero => cases enough
      | succ fuel =>
          obtain ⟨key, x⟩ := m
          have here : value (x.chars ++ (memberChars false ms ++ '\x7d' :: rest)) =
              .ok (x, memberChars false ms ++ '\x7d' :: rest) :=
            readable (key, x) List.mem_cons_self _ (ends_memberChars ms rest)
          have others := ih (fun m hm => readable m (List.mem_cons_of_mem _ hm))
            (Nat.lt_of_succ_lt_succ enough) false
          rw [memberChars_cons_append, members, nextKey_quote]
          simp only [bind, Except.bind, member_written here, others]
          rfl

theorem length_le_memberChars (first : Bool) (ms : List (String × Json)) :
    ms.length ≤ (memberChars first ms).length := by
  induction ms generalizing first with
  | nil => exact Nat.zero_le _
  | cons m ms ih =>
      obtain ⟨key, x⟩ := m
      have rest := ih false
      rw [← List.append_nil (memberChars first _), memberChars_cons_append]
      simp only [List.length_append, List.length_cons]
      omega

theorem object_append (ms : List (String × Json)) (rest : List Char) :
    (Json.object ms).chars ++ rest = '\x7b' :: (memberChars true ms ++ '\x7d' :: rest) := by
  simp [chars]

/-- An object is read again if its values are, one level down. -/
theorem readable_object {depth : Nat} {ms : List (String × Json)}
    (readable : ∀ m ∈ ms, Readable depth m.2) : Readable (depth + 1) (.object ms) := by
  intro rest ends
  have enough : ms.length < (memberChars true ms ++ '\x7d' :: rest).length + 1 := by
    have := length_le_memberChars true ms
    rw [List.length_append]
    omega
  have opened (cs : List Char) : scalar? '\x7b' cs = none := rfl
  rw [object_append, JsonReader.value, skipBlanks_cons (by decide)]
  simp only [opened, members_memberChars readable enough]
  rfl

/-- A text that is one written value is read as that value. -/
theorem parse_text {v : Json} (h : Readable maxDepth v) : Json.parse v.text = .ok v := by
  have whole : Json.read v.text.toList = .ok (v, []) := by
    rw [text, String.toList_ofList, ← List.append_nil v.chars]
    exact h [] ends_nil
  simp only [Json.parse, whole]
  rfl

end Json

end VoiceLink
