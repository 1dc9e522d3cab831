import VoiceLink.Audio.Accumulator
import VoiceLink.Storage.Disk
import VoiceLink.Wave.Reader

/-!
# Recordings

A 16-bit WAV file read into memory, to be sent to a server. Files of other samples are refused by
what they declare, before any sample is read; and a file that ends in the middle of its samples is
no recording at all.
-/

namespace VoiceLink

/-! ## Errors

An error says what was attempted and, behind that, why it failed. Opening reports a file that is not
there and a file that is no WAV file with the same words in front. -/

/-- Why a recording cannot be used. -/
inductive RecordingError where
  | unreadable (path : String) (error : OsError)
  | notWave (path : String) (error : WaveError)
  | wrongSamples (bits : Nat) (isFloat : Bool)
  | brokenSamples (error : WaveError)
  deriving DecidableEq, Repr

namespace RecordingError

/-- What went wrong, without its cause. -/
def summary : RecordingError → String
  | unreadable path _ => "Failed to open WAV file: " ++ path
  | notWave path _ => "Failed to open WAV file: " ++ path
  | wrongSamples bits isFloat =>
    "Expected 16-bit integer PCM, got " ++ Numeral.text bits ++ "-bit "
      ++ (if isFloat then "Float" else "Int")
  | brokenSamples _ => "Failed to read audio samples"

def cause? : RecordingError → Option String
  | unreadable _ e => some e.message
  | notWave _ e => some e.message
  | wrongSamples _ _ => none
  | brokenSamples e => some e.message

def message (e : RecordingError) : String :=
  match e.cause? with
  | some cause => e.summary ++ ": " ++ cause
  | none => e.summary

end RecordingError

/-! ## Reading -/

/-- Interleaved 16-bit samples and their format. -/
structure Recording where
  path : String
  sampleRate : Nat
  channels : Nat
  samples : List Int16
  deriving DecidableEq

namespace Recording

def sampleCount (r : Recording) : Nat := r.samples.length / max r.channels 1

/-- How long a recording plays, in milliseconds. -/
def duration (r : Recording) : Float :=
  Float.ofNat r.samples.length * 1000.0 / (Float.ofNat r.sampleRate * Float.ofNat r.channels)

/-- The recording in the bytes of a file. -/
def ofBytes (path : String) (bytes : List UInt8) : Except RecordingError Recording :=
  match Wave.readHead bytes with
  | .error e => .error (.notWave path e)
  | .ok (spec, count, data) =>
    if spec.bits ≠ 16 ∨ spec.isFloat then .error (.wrongSamples spec.bits spec.isFloat)
    else
      match Wave.readSamples spec count data with
      | .error e => .error (.brokenSamples e)
      | .ok samples =>
        .ok { path, sampleRate := spec.sampleRate, channels := spec.channels, samples }

/-- Read the recording a path names. -/
def load (d : Disk) (path : String) : Except RecordingError Recording :=
  match d.read path with
  | .error e => .error (.unreadable path e)
  | .ok bytes => ofBytes path bytes

end Recording

end VoiceLink
