/-!
# Little-endian words

Numbers in a fixed count of bytes with the low one first. Writing keeps what fits, and reading gives
it back.
-/

namespace VoiceLink.Wave

/-- A number in `width` bytes; what does not fit is dropped. -/
def word : Nat → Nat → List UInt8
  | 0, _ => []
  | width + 1, n => UInt8.ofNat n :: word width (n / 256)

def ofWord : List UInt8 → Nat
  | [] => 0
  | b :: bs => b.toNat + 256 * ofWord bs

/-- Four letters that mark a chunk. -/
def tag (s : String) : List UInt8 := s.toList.map fun c => UInt8.ofNat c.toNat

@[simp] theorem length_word (width n : Nat) : (word width n).length = width := by
  induction width generalizing n with
  | zero => rfl
  | succ width ih => simp [word, ih]

/-- What fits is read back. -/
theorem ofWord_word (width n : Nat) (h : n < Nat.pow 256 width) : ofWord (word width n) = n := by
  induction width generalizing n with
  | zero =>
    have : n = 0 := by simpa using h
    simp [word, ofWord, this]
  | succ width ih =>
    have hd : n / 256 < Nat.pow 256 width := by
      apply (Nat.div_lt_iff_lt_mul (by decide)).2
      simpa [Nat.pow_succ] using h
    simp only [word, ofWord, ih _ hd, UInt8.toNat_ofNat']
    omega

end VoiceLink.Wave
