/-!
# Samples and bytes

Samples are 16 bits wide and stand in bytes with the low one first. `ofBytes` undoes `toBytes`.
-/

namespace VoiceLink.Pcm

def sampleBytes (s : Int16) : List UInt8 :=
  let n := s.toUInt16.toNat
  [UInt8.ofNat (n % 256), UInt8.ofNat (n / 256)]

def toBytes (samples : List Int16) : List UInt8 := samples.flatMap sampleBytes

def sampleOf (low high : UInt8) : Int16 := (UInt16.ofNat (low.toNat + 256 * high.toNat)).toInt16

/-- The samples in a run of bytes; a single byte at the end is dropped. -/
def ofBytes : List UInt8 → List Int16
  | low :: high :: rest => sampleOf low high :: ofBytes rest
  | _ => []

theorem length_toBytes (samples : List Int16) : (toBytes samples).length = 2 * samples.length := by
  induction samples with
  | nil => rfl
  | cons s rest ih =>
    simp only [toBytes, List.flatMap_cons, List.length_append, List.length_cons] at *
    simp only [sampleBytes, List.length_cons, List.length_nil]
    omega

end VoiceLink.Pcm
