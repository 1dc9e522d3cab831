import Mathlib
import VoiceLink.Text.Numeral

/-!
# Fallible steps and numerals

Two things that turn up in every part of the library, whatever is read or written there. A chain of
guards and fallible steps that has come to an end tells what each of its links has found, so a
reader can be taken apart with `obtain` and need not be unfolded. And numerals tell numbers apart:
reading undoes writing, zeros on the left do not change that, and `Numeral.Spells` is the other side
of reading, the texts that people write for a number.
-/

namespace VoiceLink

/-! ## Steps that may fail -/

variable {ε α β : Type}

/-- A chain succeeds when its first step and the rest do. -/
theorem bind_eq_ok {first : Except ε α} {rest : α → Except ε β} {b : β} :
    (first >>= rest) = .ok b ↔ ∃ a, first = .ok a ∧ rest a = .ok b := by
  cases first with
  | error e => simp [bind, Except.bind]
  | ok a => simp [bind, Except.bind]

/-- What is made of a result is there when the result is. -/
theorem map_eq_ok_iff {first : Except ε α} {f : α → β} {b : β} :
    first.map f = .ok b ↔ ∃ a, first = .ok a ∧ f a = b := by
  cases first <;> simp [Except.map]

/-- A guarded computation succeeds when the guard lets it through. -/
theorem ite_error_eq_ok {p : Prop} [Decidable p] {e : ε} {x : Except ε α} {a : α} :
    (if p then .error e else x) = .ok a ↔ ¬p ∧ x = .ok a := by
  by_cases hp : p
  · simp [hp]
  · simp [hp]

/-! ## Numerals -/

namespace Numeral

theorem text_injective : Function.Injective text := by
  intro m n h
  have digits : digits m = digits n := String.ofList_injective h
  rw [← ofDigits_digits m, digits, ofDigits_digits]

theorem ofDigits_zeros_append (n : Nat) (cs : List Char) :
    ofDigits (List.replicate n '0' ++ cs) = ofDigits cs := by
  induction n with
  | zero => rfl
  | succ n ih => exact ih

theorem padded_injective (width : Nat) : Function.Injective (padded width) := by
  intro m n h
  have same := congrArg (fun s => ofDigits s.toList) h
  simpa [padded, ofDigits_zeros_append, ofDigits_digits] using same

theorem slash_not_mem_padded (width n : Nat) : '/' ∉ (padded width n).toList := by
  intro slash
  rw [padded, String.toList_ofList, List.mem_append] at slash
  rcases slash with zero | digit
  · exact absurd (List.eq_of_mem_replicate zero) (by decide)
  · exact absurd (isDigit_of_mem_digits n _ digit) (by decide)

/-! ### Behind other digits -/

/-- The number that digits stand for behind others. -/
def ofDigitsFrom (n : Nat) (cs : List Char) : Nat :=
  cs.foldl (fun n c => 10 * n + digitValue c) n

theorem le_ofDigitsFrom (n : Nat) (cs : List Char) : n ≤ ofDigitsFrom n cs := by
  induction cs generalizing n with
  | nil => exact Nat.le_refl n
  | cons c cs ih =>
      have := ih (10 * n + digitValue c)
      rw [ofDigitsFrom, List.foldl_cons]
      rw [ofDigitsFrom] at this
      omega

/-! ### Spellings -/

/-- A text that stands for a number: digits, zeros in front or not, behind a plus sign or not. -/
def Spells (n : Nat) (s : String) : Prop :=
  ∃ sign digits, (sign = [] ∨ sign = ['+']) ∧ s.toList = sign ++ digits ∧ digits ≠ [] ∧
    (∀ c ∈ digits, c.isDigit = true) ∧ ofDigits digits = n

/-- Without its sign, the text of a number is digits. -/
theorem Spells.digits_eq {n : Nat} {s : String} (h : Spells n s) :
    ∃ digits, s.toList = (if s.toList.head? = some '+' then ['+'] else []) ++ digits ∧
      digits ≠ [] ∧ (∀ c ∈ digits, c.isDigit = true) ∧ ofDigits digits = n := by
  obtain ⟨sign, digits, hsign, hs, some, all, value⟩ := h
  refine ⟨digits, ?_, some, all, value⟩
  rcases hsign with rfl | rfl
  · have noSign : s.toList.head? ≠ .some '+' := by
      intro plus
      rw [hs] at plus
      exact absurd (all _ (List.mem_of_head? plus)) (by decide)
    rw [if_neg noSign]
    exact hs
  · rw [hs]
    rfl

end Numeral

end VoiceLink
