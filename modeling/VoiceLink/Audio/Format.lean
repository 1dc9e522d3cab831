import VoiceLink.Text.Numeral

/-!
# Audio formats

The rates and channel counts that Opus knows, the frame durations an encoder accepts, and the errors
of decoding and encoding. Time is counted in ticks of 2.5 milliseconds, the shortest Opus frame: in
ticks every duration and every rate is a whole number, and so is every count of samples.

Rates, channel counts and durations are enumerations. A format that has been made is one the codec
supports, and nothing behind `AudioFormat.of?` has to check that again.
-/

namespace VoiceLink

/-! ## Rates and channels -/

inductive SampleRate where
  | hz8000
  | hz12000
  | hz16000
  | hz24000
  | hz48000
  deriving DecidableEq, Repr

namespace SampleRate

def hz : SampleRate → Nat
  | hz8000 => 8000
  | hz12000 => 12000
  | hz16000 => 16000
  | hz24000 => 24000
  | hz48000 => 48000

def perTick : SampleRate → Nat
  | hz8000 => 20
  | hz12000 => 30
  | hz16000 => 40
  | hz24000 => 60
  | hz48000 => 120

/-- The rate of a given number of samples per second, if Opus knows it. -/
def ofHz? (n : Nat) : Option SampleRate :=
  [hz8000, hz12000, hz16000, hz24000, hz48000].find? fun r => r.hz = n

/-- A tick is the four hundredth part of a second. -/
theorem perTick_mul (r : SampleRate) : r.perTick * 400 = r.hz := by cases r <;> rfl

end SampleRate

inductive Channels where
  | mono
  | stereo
  deriving DecidableEq, Repr

namespace Channels

def count : Channels → Nat
  | mono => 1
  | stereo => 2

def ofCount? : Nat → Option Channels
  | 1 => some mono
  | 2 => some stereo
  | _ => none

end Channels

/-- A format the codec supports. -/
structure AudioFormat where
  rate : SampleRate
  channels : Channels
  deriving DecidableEq, Repr

/-- The supported format of a rate and a channel count, if it is one. -/
def AudioFormat.of? (sampleRate : UInt32) (channels : UInt16) : Option AudioFormat := do
  let rate ← SampleRate.ofHz? sampleRate.toNat
  let channels ← Channels.ofCount? channels.toNat
  return { rate, channels }

/-! ## Frame durations

An encoder makes packets of one frame duration, given in whole milliseconds. That leaves out the
shortest frame of all, which only a decoder meets. -/

/-- How long one encoded packet lasts. -/
inductive FrameDuration where
  | ms5
  | ms10
  | ms20
  | ms40
  | ms60
  | ms80
  | ms100
  | ms120
  deriving DecidableEq, Repr

namespace FrameDuration

def milliseconds : FrameDuration → Nat
  | ms5 => 5
  | ms10 => 10
  | ms20 => 20
  | ms40 => 40
  | ms60 => 60
  | ms80 => 80
  | ms100 => 100
  | ms120 => 120

def ticks : FrameDuration → Nat
  | ms5 => 2
  | ms10 => 4
  | ms20 => 8
  | ms40 => 16
  | ms60 => 24
  | ms80 => 32
  | ms100 => 40
  | ms120 => 48

/-- The frame duration of a given number of milliseconds. -/
def ofMilliseconds? (n : Nat) : Option FrameDuration :=
  [ms5, ms10, ms20, ms40, ms60, ms80, ms100, ms120].find? fun d => d.milliseconds = n

/-- Two ticks are five milliseconds. -/
theorem ticks_mul (d : FrameDuration) : d.ticks * 5 = d.milliseconds * 2 := by cases d <;> rfl

end FrameDuration

/-! ## Errors -/

/-- Why a packet cannot be decoded. -/
inductive PacketFault where
  | empty
  | corrupted
  | noSpace
  deriving DecidableEq, Repr

/-- Why audio cannot be decoded or encoded. -/
inductive AudioError where
  | unsupportedFormat (sampleRate : UInt32) (channels : UInt16)
  | unsupportedFrameDuration (milliseconds : UInt32)
  | malformed (length : Nat) (fault : PacketFault)
  deriving DecidableEq, Repr

def PacketFault.message : PacketFault → String
  | empty => "empty frame"
  | corrupted => "opus_decode: corrupted stream"
  | noSpace => "opus_decode: buffer too small"

def AudioError.message : AudioError → String
  | unsupportedFormat rate channels =>
    "unsupported audio format: " ++ Numeral.text rate.toNat ++ "Hz, "
      ++ Numeral.text channels.toNat ++ " channels"
  | unsupportedFrameDuration ms =>
    "unsupported Opus frame duration: " ++ Numeral.text ms.toNat ++ "ms"
  | malformed length fault =>
    "malformed Opus frame (" ++ Numeral.text length ++ " bytes): " ++ fault.message

end VoiceLink
