import VoiceLink.Proofs.Json.RoundTrip
import VoiceLink.Proofs.Json.Steps

/-!
# Which texts are natural numbers

A number that is read as an exact natural one was written as its digits and nothing else: a sign, a
fraction or an exponent makes a negative number or a double (`JsonReader.value_nat_iff`).

There are more texts that stand for a natural number than are exact ones, and the fields of messages
take only those. Putting this down to the digits makes the grammar of messages one of texts.
-/

namespace VoiceLink

/-! ## Numerals

Reading undoes writing for all numbers. The other way round it does so for texts without a zero too
many, and the reader of numbers refuses all others. -/

namespace Numeral

/-- Digits without a superfluous zero in front. -/
structure Canonical (cs : List Char) : Prop where
  ne_nil : cs ≠ []
  digits : ∀ c ∈ cs, c.isDigit = true
  zero : ∀ more, cs = '0' :: more → more = []

theorem digitValue_lt {c : Char} (h : c.isDigit = true) : digitValue c < 10 := by
  have range : 48 ≤ c.toNat ∧ c.toNat ≤ 57 := Char.isDigit_iff_toNat.1 h
  rw [digitValue]
  omega

theorem digitChar_digitValue {c : Char} (h : c.isDigit = true) : digitChar (digitValue c) = c := by
  have range : 48 ≤ c.toNat ∧ c.toNat ≤ 57 := Char.isDigit_iff_toNat.1 h
  rw [digitChar, digitValue, Nat.add_sub_cancel' range.1, Char.ofNat_toNat]

/-- Writing undoes reading, if there is no superfluous zero. -/
theorem digits_ofDigits {cs : List Char} (h : Canonical cs) : digits (ofDigits cs) = cs := by
  induction cs using List.reverseRecOn with
  | nil => exact absurd rfl h.ne_nil
  | append_singleton cs c ih =>
      have last : c.isDigit = true := h.digits c (by simp)
      have small := digitValue_lt last
      rw [ofDigits_append]
      cases cs with
      | nil =>
          have one : 10 * ofDigits [] + digitValue c = digitValue c := by simp [ofDigits]
          rw [one, digits, if_pos small, digitChar_digitValue last, List.nil_append]
      | cons d cs =>
          have front : Canonical (d :: cs) :=
            { ne_nil := by simp
              digits := fun x hx => h.digits x (List.mem_append_left _ hx)
              zero := fun more same => by
                cases same
                exact absurd (h.zero _ rfl) (by simp) }
          have written := ih front
          -- more than one digit without a zero in front is not zero
          have positive : ofDigits (d :: cs) ≠ 0 := by
            intro zero
            have single : digits 0 = ['0'] := by rw [digits]; rfl
            rw [zero, single] at written
            cases written
            exact absurd (h.zero _ rfl) (by simp)
          have large : ¬ 10 * ofDigits (d :: cs) + digitValue c < 10 := by omega
          have quotient : (10 * ofDigits (d :: cs) + digitValue c) / 10 = ofDigits (d :: cs) := by
            omega
          have remainder : (10 * ofDigits (d :: cs) + digitValue c) % 10 = digitValue c := by omega
          rw [digits, if_neg large, quotient, remainder, written, digitChar_digitValue last]

end Numeral

namespace JsonReader

variable {c : Char} {cs cs' : List Char}

/-! ## Doubles

Behind a point, an exponent or a digit too many, whatever is read is a double. -/

def GivesReal (read : JsonReader JsonNumber) : Prop :=
  ∀ {cs n rest}, read cs = .ok (n, rest) → ∃ x, n = .real x

theorem givesReal_finishReal (positive : Bool) (s : Scaled) :
    GivesReal (finishReal positive s) := by
  intro cs n rest h
  unfold finishReal at h
  split at h
  · cases h
    exact ⟨_, rfl⟩
  · cases h

theorem givesReal_exponentPart (positive : Bool) (s : Scaled) :
    GivesReal (exponentPart positive s) := by
  intro cs n rest h
  unfold exponentPart at h
  split at h
  split at h
  · cases h
  · split at h
    · split at h
      · exact givesReal_finishReal _ _ h
      · split at h
        · cases h
        · cases h
          exact ⟨_, rfl⟩
    · cases h

theorem givesReal_afterMantissa (positive : Bool) (s : Scaled) :
    GivesReal (afterMantissa positive s) := by
  intro cs n rest h
  unfold afterMantissa at h
  split at h
  · exact givesReal_exponentPart _ _ h
  · exact givesReal_exponentPart _ _ h
  · exact givesReal_finishReal _ _ h

theorem givesReal_fractionPart (positive : Bool) (s : Scaled) :
    GivesReal (fractionPart positive s) := by
  intro cs n rest h
  unfold fractionPart at h
  dsimp only at h
  split at h
  · split at h <;> cases h
  · exact givesReal_afterMantissa _ _ h

theorem givesReal_afterWhole (positive : Bool) (s : Scaled) :
    GivesReal (afterWhole positive s) := by
  intro cs n rest h
  unfold afterWhole at h
  split at h
  · exact givesReal_fractionPart _ _ h
  · exact givesReal_afterMantissa _ _ h

/-! ## Whole numbers

The digits are taken as long as they fit into 64 bits. If some are left over, the number is a
double, so an exact number has taken them all. -/

/-- Digits that were all taken make up the value, which has 64 bits. -/
theorem fitDigits_all {n v : Nat} {cs : List Char} (small : n ≤ maxWord)
    (h : fitDigits n cs = (v, [])) : v = Numeral.ofDigitsFrom n cs ∧ v ≤ maxWord := by
  induction cs generalizing n with
  | nil =>
      cases h
      exact ⟨rfl, small⟩
  | cons c cs ih =>
      rw [fitDigits] at h
      split at h
      · next fits =>
        have next : n * 10 + Numeral.digitValue c = 10 * n + Numeral.digitValue c := by omega
        obtain ⟨rfl, bound⟩ := ih fits h
        rw [next]
        exact ⟨rfl, next ▸ bound⟩
      · cases h

/-- The digits a number begins with: a leading zero stands alone. -/
theorem leading_digits {c : Char} (first : c.isDigit = true) (cs : List Char) :
    ∃ more left, (if c = '0' then [] else cs.takeWhile Char.isDigit) = more ∧
      (if c = '0' then cs else cs.dropWhile Char.isDigit) = left ∧ c :: cs = c :: more ++ left ∧
      Numeral.Canonical (c :: more) ∧ ∀ d ∈ left.head?, d.isDigit = true → c = '0' := by
  by_cases zero : c = '0'
  · refine ⟨[], cs, if_pos zero, if_pos zero, rfl, ⟨by simp, by simpa using first, ?_⟩, ?_⟩
    · intro more same
      exact (List.cons.inj same).2.symm
    · intro d _ _
      exact zero
  · refine ⟨cs.takeWhile Char.isDigit, cs.dropWhile Char.isDigit, if_neg zero, if_neg zero, ?_,
      ⟨by simp, ?_, ?_⟩, ?_⟩
    · rw [List.cons_append, List.takeWhile_append_dropWhile]
    · intro d hd
      rcases List.mem_cons.1 hd with rfl | hd
      · exact first
      · exact List.mem_takeWhile_imp hd
    · intro more same
      exact absurd (List.cons.inj same).1 zero
    · intro d hd digit
      have stop := List.head?_dropWhile_not Char.isDigit cs
      rw [Option.mem_def.1 hd] at stop
      simp [digit] at stop

/-- An exact number was written as digits, behind which the text does not go on with one. -/
theorem unsigned_int {positive : Bool} {cs rest : List Char} {i : Int}
    (h : unsigned positive cs = .ok (.int i, rest)) :
    ∃ ds, Numeral.Canonical ds ∧ cs = ds ++ rest ∧ Ends rest ∧ Numeral.ofDigits ds ≤ maxWord ∧
      finishWhole positive (Numeral.ofDigits ds) = .int i := by
  cases cs with
  | nil => cases h
  | cons c cs =>
      rw [unsigned] at h
      split at h
      · cases h
      · next digit =>
        have first : c.isDigit = true := by simpa using digit
        obtain ⟨more, left, taken, remaining, whole, canonical, stops⟩ := leading_digits first cs
        have small : Numeral.digitValue c ≤ maxWord :=
          Nat.le_trans (Nat.le_of_lt (Numeral.digitValue_lt first)) (by decide)
        have value : Numeral.ofDigitsFrom (Numeral.digitValue c) more =
            Numeral.ofDigits (c :: more) := by
          simp [Numeral.ofDigits, Numeral.ofDigitsFrom]
        simp only [taken, remaining] at h
        cases fitted : fitDigits (Numeral.digitValue c) more with
        | mk v dropped =>
            simp only [fitted] at h
            cases left with
            | nil =>
                dsimp only at h
                split at h
                · next all =>
                  rw [List.isEmpty_iff.1 all] at fitted
                  obtain ⟨rfl, bound⟩ := fitDigits_all small fitted
                  obtain ⟨finish, rfl⟩ := Prod.mk.inj (Except.ok.inj h)
                  rw [value] at finish bound
                  exact ⟨c :: more, canonical, whole, ends_nil, bound, finish⟩
                · obtain ⟨x, real⟩ := givesReal_finishReal _ _ h
                  cases real
            | cons d left =>
                dsimp only at h
                split at h
                · cases h
                · next alone =>
                  split at h
                  · obtain ⟨x, real⟩ := givesReal_afterWhole _ _ h
                    cases real
                  · next plain =>
                    obtain ⟨finish, rfl⟩ := Prod.mk.inj (Except.ok.inj h)
                    simp only [not_or, not_not, List.isEmpty_iff] at plain
                    obtain ⟨rfl, point, lower, upper⟩ := plain
                    obtain ⟨rfl, bound⟩ := fitDigits_all small fitted
                    rw [value] at finish bound
                    refine ⟨c :: more, canonical, whole, ?_, bound, finish⟩
                    intro e he
                    cases Option.some.inj he
                    refine ⟨?_, point, lower, upper⟩
                    -- digits were taken as far as they go, so only behind a zero could one be left
                    by_contra digit
                    have digit : d.isDigit = true := by simpa using digit
                    exact alone ⟨stops d rfl digit, digit⟩

/-- Exact natural numbers are those whose digits stand there, with nothing that belongs to a number
before or behind them. -/
theorem number_nat_iff {cs rest : List Char} {n : Nat} :
    number cs = .ok (.int n, rest) ↔
      cs = Numeral.digits n ++ rest ∧ Ends rest ∧ n ≤ maxWord := by
  constructor
  · intro h
    unfold number at h
    split at h
    · -- behind a sign only negative numbers are exact
      obtain ⟨ds, -, -, -, -, finish⟩ := unsigned_int h
      rw [finishWhole, if_neg (by decide)] at finish
      split at finish
      · next negative =>
        have := JsonNumber.int.inj finish
        omega
      · cases finish
    · obtain ⟨ds, canonical, rfl, ends, bound, finish⟩ := unsigned_int h
      have same : Numeral.ofDigits ds = n := by
        have := JsonNumber.int.inj finish
        omega
      rw [← same, Numeral.digits_ofDigits canonical]
      exact ⟨rfl, ends, bound⟩
  · rintro ⟨rfl, ends, bound⟩
    exact number_digits bound ends

theorem number_of_scalar? {n : JsonNumber} {rest : List Char}
    (h : scalar? c cs = some (.ok (.number n, rest))) : number (c :: cs) = .ok (n, rest) := by
  unfold scalar? at h
  repeat' split at h
  all_goals first
    | cases h
    | (obtain ⟨⟨n', rest'⟩, read, h⟩ := bind_eq_ok.1 (Option.some.inj h)
       cases h
       exact read)
    | (obtain ⟨_, -, h⟩ := bind_eq_ok.1 (Option.some.inj h)
       cases h)

/-- **A value is a natural number exactly where its digits stand**, in 64 bits, without sign,
fraction or exponent. -/
theorem value_nat_iff {depth : Nat} {rest : List Char} {n : Nat} :
    value depth cs = .ok (.nat n, rest) ↔
      skipBlanks cs = Numeral.digits n ++ rest ∧ Ends rest ∧ n ≤ maxWord := by
  constructor
  · intro h
    cases found : skipBlanks cs with
    | nil =>
        rw [value, found] at h
        cases h
    | cons c cs' =>
        cases scalar : scalar? c cs' with
        | none => rcases container_of_value found scalar h with ⟨xs, h⟩ | ⟨ms, h⟩ <;> cases h
        | some result =>
            rw [value_scalar found scalar] at h
            exact number_nat_iff.1 (number_of_scalar? (scalar.trans (congrArg some h)))
  · rintro ⟨found, ends, bound⟩
    obtain ⟨c, more, written, digit⟩ := digits_head n
    have whole := number_digits bound ends
    rw [written, List.cons_append] at found whole
    rw [value_scalar found (scalar?_digit digit _), whole]
    rfl

end JsonReader

end VoiceLink
