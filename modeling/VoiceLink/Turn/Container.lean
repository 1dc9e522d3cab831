import VoiceLink.Audio.Accumulator
import VoiceLink.Storage.Save
import VoiceLink.Wave.Writer

/-!
# Containers of finished turns

Every finished turn is written to a WAV file of its own, and on request its compressed frames to a
file beside it. The names count the turns; a turn whose file could not be written has used up its
number, so no two turns of a session are ever written under one name.

Both kinds of file go through `Disk.save`, and what each adds in front is a check of its content.
`ContainerWriter` only makes the names and keeps the count: it never looks at what is on the disk.
-/

namespace VoiceLink

/-! ## Errors -/

/-- Why a container was not written. -/
inductive ContainerError where
  | misaligned (length blockBytes : Nat)
  | encode (error : WaveError)
  /-- A rate of zero, from which no header can be computed. -/
  | zeroRate
  | io (error : OsError)
  | persist (error : OsError)
  deriving DecidableEq, Repr

namespace ContainerError

def message : ContainerError → String
  | misaligned length blockBytes =>
    "PCM length " ++ Numeral.text length ++ " is not a multiple of the block alignment "
      ++ Numeral.text blockBytes
  | encode e => "failed to encode WAV container: " ++ e.message
  | zeroRate => "attempt to divide by zero"
  | io e => "I/O error while writing container: " ++ e.message
  | persist e => "failed to move container into place: " ++ e.message

def ofSave : SaveError Wave.EncodeFault → ContainerError
  | .io e => io e
  | .persist e => persist e
  | .content .zeroRate => zeroRate
  | .content (.wave e) => encode e

/-- The error of a raw dump that was not saved; its content cannot fail. -/
def ofRawSave : SaveError Empty → ContainerError
  | .io e => io e
  | .persist e => persist e

end ContainerError

/-! ## Writing files -/

namespace Disk

/-- Write interleaved 16-bit PCM as a WAV file. The length is checked before anything is touched. -/
def writeWave (d : Disk) (path : String) (pcm : List UInt8) (sampleRate : UInt32)
    (channels : UInt16) : Except ContainerError Unit × Disk :=
  let blockBytes := channels.toNat * (Wave.bitsPerSample / 8)
  if blockBytes = 0 ∨ pcm.length % blockBytes ≠ 0 then
    (.error (.misaligned pcm.length blockBytes), d)
  else
    match d.save path (Wave.encode pcm sampleRate.toNat channels.toNat) true with
    | (.ok (), d) => (.ok (), d)
    | (.error e, d) => (.error (.ofSave e), d)

/-- Write compressed frames one behind the other, without anything between them. -/
def writeRawFrames (d : Disk) (path : String) (frames : List (List UInt8)) :
    Except ContainerError Unit × Disk :=
  match d.save path (.ok frames.flatten) false with
  | (.ok (), d) => (.ok (), d)
  | (.error e, d) => (.error (.ofRawSave e), d)

end Disk

/-! ## Containers of a session

What is recorded of a container is taken from the snapshot that went into it and from the name it
got, before the file is written; it is given out only if the file could be. -/

/-- What is known about a written container. -/
structure ContainerMetadata where
  turnIndex : Nat
  filePath : String
  sampleRate : UInt32
  channels : UInt16
  /-- Samples per channel. -/
  sampleCount : Nat
  /-- Bytes of audio. -/
  dataBytes : Nat
  /-- Frames that made it into the container. -/
  frames : Nat
  deriving DecidableEq, Repr

/-- How long a container plays, in milliseconds. -/
def ContainerMetadata.duration (m : ContainerMetadata) : Float :=
  if m.frames = 0 then 0.0 else durationMs m.sampleCount m.sampleRate.toNat

/-- Names the containers of a session and counts its turns. -/
structure ContainerWriter where
  outputDir : String
  stem : String
  turnIndex : Nat := 0
  deriving DecidableEq, Repr

namespace ContainerWriter

def fileName (w : ContainerWriter) (turn : Nat) (ending : String) : String :=
  w.stem ++ "-turn-" ++ Numeral.padded 3 turn ++ ending

def wavePath (w : ContainerWriter) (turn : Nat) : String :=
  Path.join w.outputDir (w.fileName turn ".wav")

def rawPath (w : ContainerWriter) (turn : Nat) : String :=
  Path.join w.outputDir (w.fileName turn ".opus.raw")

def nextPath (w : ContainerWriter) : String := w.wavePath w.turnIndex

def metadata (w : ContainerWriter) (s : PcmSnapshot) : ContainerMetadata :=
  { turnIndex := w.turnIndex
    filePath := w.nextPath
    sampleRate := s.sampleRate
    channels := s.channels
    sampleCount := s.stats.samples
    dataBytes := s.pcm.length
    frames := s.stats.frames }

/-- Write a snapshot as the next turn. The count goes on even if that fails. -/
def write (w : ContainerWriter) (d : Disk) (s : PcmSnapshot) :
    Except ContainerError ContainerMetadata × ContainerWriter × Disk :=
  let next := { w with turnIndex := w.turnIndex + 1 }
  match d.writeWave w.nextPath s.pcm s.sampleRate s.channels with
  | (.ok (), d) => (.ok (w.metadata s), next, d)
  | (.error e, d) => (.error e, next, d)

/-- Write the compressed frames of the turn written last. -/
def writeRaw (w : ContainerWriter) (d : Disk) (frames : List (List UInt8)) :
    Except ContainerError String × Disk :=
  -- the count has gone on since the container was written
  let path := w.rawPath (w.turnIndex - 1)
  match d.writeRawFrames path frames with
  | (.ok (), d) => (.ok path, d)
  | (.error e, d) => (.error e, d)

end ContainerWriter

end VoiceLink
