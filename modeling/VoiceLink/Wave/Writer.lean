import VoiceLink.Wave.Bytes
import VoiceLink.Wave.Error

/-!
# Writing WAV files

A file is a header and the samples. Up to two channels the header has 44 bytes; with more it names
the speakers as well and has 68. Lengths and rates are words of 32 bits and keep only what fits, so
a file that is too long has a header that says less than there is.

The samples are in the file as they are in memory. All of the work is in the header (`header`),
which `Wave.readHead` takes apart again.
-/

namespace VoiceLink.Wave

/-! ## Format -/

def bitsPerSample : Nat := 16

/-- The mark of plain PCM in a format that names its speakers. -/
def pcmSubformat : List UInt8 :=
  [0x01, 0x00, 0x00, 0x00, 0x00, 0x00, 0x10, 0x00, 0x80, 0x00, 0x00, 0xaa, 0x00, 0x38, 0x9b, 0x71]

def floatSubformat : List UInt8 :=
  [0x03, 0x00, 0x00, 0x00, 0x00, 0x00, 0x10, 0x00, 0x80, 0x00, 0x00, 0xaa, 0x00, 0x38, 0x9b, 0x71]

/-- The bytes of audio per second, as far as a word holds them. -/
def byteRate (sampleRate channels : Nat) : Nat := sampleRate * 2 * channels % UInt32.size

/-- The speakers of a number of channels: one bit each, for at most eighteen. -/
def speakerMask (channels : Nat) : Nat := Nat.pow 2 (min channels 18) - 1

/-- The fields all formats have: channels, rate, bytes per second, bytes per block, bits. -/
def commonFields (sampleRate channels : Nat) : List UInt8 :=
  word 2 channels ++ word 4 sampleRate ++ word 4 (byteRate sampleRate channels)
    -- a rate of zero has no bytes per block; `encode` refuses it
    ++ word 2 (byteRate sampleRate channels / sampleRate) ++ word 2 bitsPerSample

def formatChunk (sampleRate channels : Nat) : List UInt8 :=
  if channels ≤ 2 then
    tag "fmt " ++ word 4 16 ++ word 2 1 ++ commonFields sampleRate channels
  else
    tag "fmt " ++ word 4 40 ++ word 2 0xfffe ++ commonFields sampleRate channels
      ++ word 2 22 ++ word 2 bitsPerSample ++ word 4 (speakerMask channels) ++ pcmSubformat

/-- The header in front of `dataBytes` bytes of samples. -/
def header (sampleRate channels dataBytes : Nat) : List UInt8 :=
  let format := formatChunk sampleRate channels
  tag "RIFF" ++ word 4 (4 + format.length + 8 + dataBytes) ++ tag "WAVE" ++ format
    ++ tag "data" ++ word 4 dataBytes

/-! ## Files -/

/-- Why no file can be made. -/
inductive EncodeFault where
  /-- A rate of zero leaves the bytes per block undefined. -/
  | zeroRate
  | wave (error : WaveError)
  deriving DecidableEq, Repr

/-- The file of interleaved 16-bit samples. The samples are counted in a word as well, so a length
that does not fit may end in the middle of a block. -/
def encode (pcm : List UInt8) (sampleRate channels : Nat) : Except EncodeFault (List UInt8) :=
  if sampleRate = 0 then .error .zeroRate
  else if pcm.length % UInt32.size / 2 % channels ≠ 0 then .error (.wave .unfinished)
  else .ok (header sampleRate channels pcm.length ++ pcm)

end VoiceLink.Wave
