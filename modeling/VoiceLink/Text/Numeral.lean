/-!
# Decimal numerals

Natural numbers as runs of the digits `0` to `9`, written and read. `ofDigits` undoes `digits`, and
`digits` writes no superfluous zero. `Word` says how far the integers reach that machines have for
the numbers so written.
-/

namespace VoiceLink.Numeral

/-! ## Digits -/

def digitChar (d : Nat) : Char := Char.ofNat (48 + d)

def digitValue (c : Char) : Nat := c.toNat - 48

/-- The decimal digits of a number, most significant first. -/
def digits (n : Nat) : List Char :=
  if n < 10 then [digitChar n] else digits (n / 10) ++ [digitChar (n % 10)]
termination_by n
decreasing_by omega

/-- The number a run of decimal digits stands for. -/
def ofDigits (cs : List Char) : Nat := cs.foldl (fun n c => 10 * n + digitValue c) 0

def text (n : Nat) : String := String.ofList (digits n)

/-- The decimal text of an integer, with a sign in front of a negative one. -/
def signedText : Int → String
  | .ofNat n => text n
  | .negSucc n => "-" ++ text (n + 1)

/-! ## Padding, and base sixteen -/

/-- The decimal text of a number, filled up with zeros on the left to `width` characters. -/
def padded (width n : Nat) : String :=
  let cs := digits n
  String.ofList (List.replicate (width - cs.length) '0' ++ cs)

/-- The value of a hexadecimal digit of either case. -/
def hexValue? (c : Char) : Option Nat :=
  if '0' ≤ c ∧ c ≤ '9' then some (c.toNat - 48)
  else if 'a' ≤ c ∧ c ≤ 'f' then some (c.toNat - 87)
  else if 'A' ≤ c ∧ c ≤ 'F' then some (c.toNat - 55)
  else none

def hexChar (d : Nat) : Char := if d < 10 then Char.ofNat (48 + d) else Char.ofNat (87 + d)

/-- The lower-case hexadecimal digits of a number, without superfluous zeros. -/
def hexDigits (n : Nat) : List Char :=
  if n < 16 then [hexChar n] else hexDigits (n / 16) ++ [hexChar (n % 16)]
termination_by n
decreasing_by omega

/-! ## Reading undoes writing -/

theorem digitValue_digitChar : ∀ d, d < 10 → digitValue (digitChar d) = d := by decide

theorem isDigit_digitChar : ∀ d, d < 10 → (digitChar d).isDigit = true := by decide

theorem digits_ne_nil (n : Nat) : digits n ≠ [] := by
  rw [digits]; split <;> simp

theorem ofDigits_append (cs : List Char) (c : Char) :
    ofDigits (cs ++ [c]) = 10 * ofDigits cs + digitValue c := by
  simp [ofDigits]

theorem ofDigits_digits (n : Nat) : ofDigits (digits n) = n := by
  rw [digits]
  split
  · next h => simp [ofDigits, digitValue_digitChar n h]
  · rw [ofDigits_append, ofDigits_digits (n / 10), digitValue_digitChar _ (by omega)]
    omega
termination_by n
decreasing_by omega

theorem isDigit_of_mem_digits (n : Nat) : ∀ c ∈ digits n, c.isDigit = true := by
  rw [digits]
  split
  · next h => simpa using isDigit_digitChar n h
  · intro c hc
    rcases List.mem_append.1 hc with hc | hc
    · exact isDigit_of_mem_digits (n / 10) c hc
    · rw [List.mem_singleton.1 hc]
      exact isDigit_digitChar _ (by omega)
termination_by n
decreasing_by omega

end VoiceLink.Numeral

/-! ## Integers of 64 and of 128 bits

Signed integers of 64 bits lie in the interval from `-signLimit` up to, and without, `signLimit`; of
128 bits, `wideLimit` says the same. Those without a sign reach up to `UInt64.size`. -/

namespace VoiceLink.Word

def signLimit : Nat := 9223372036854775808

def wideLimit : Nat := 2 * signLimit * signLimit

def isSigned (n : Int) : Bool := -(signLimit : Int) ≤ n && n < signLimit

/-- An integer that has 64 bits, of which one is the sign. -/
def signed? (n : Int) : Option Int := if isSigned n then some n else none

/-- The integer of a sign and a magnitude, with the same bounds. -/
def ofSign? (negative : Bool) (n : Nat) : Option Int := signed? (if negative then -(n : Int) else n)

end VoiceLink.Word
