import VoiceLink.Audio.Pcm
import VoiceLink.Wave.Writer

/-!
# Reading WAV files

A file is a sequence of chunks. The format chunk must come before the data chunk; chunks of other
kinds are skipped, and what follows the data is not looked at.

A reader takes what it needs off the front of the bytes and hands on the rest. Where too little is
left it fails with `truncated`, wherever that is in the file, and all other errors come of what is
there: so a file that was cut short is refused with the error of the place where it was cut.
-/

namespace VoiceLink.Wave

/-! ## Pieces -/

/-- What the samples of a file are like. -/
structure Spec where
  channels : Nat
  sampleRate : Nat
  bits : Nat
  isFloat : Bool
  bytesPerSample : Nat
  deriving DecidableEq, Repr

def takeBytes (n : Nat) (bytes : List UInt8) : Except WaveError (List UInt8 × List UInt8) :=
  if bytes.length < n then .error .truncated else .ok (bytes.take n, bytes.drop n)

def takeWord (width : Nat) (bytes : List UInt8) : Except WaveError (Nat × List UInt8) := do
  let (w, rest) ← takeBytes width bytes
  return (ofWord w, rest)

/-- Refuse the file unless a condition holds. -/
def require (condition : Bool) (fault : WaveFault) : Except WaveError Unit :=
  if condition then .ok () else .error (.illFormed fault)

/-! ## The format chunk

The chunk begins with fields that all formats share. What follows depends on the kind of samples:
plain PCM, floating point, or a format that names its speakers and says the kind again in a mark of
16 bytes. Each kind allows for lengths of its own and checks the bits of a sample against them. -/

/-- What plain PCM adds to the common fields. Neither its extension nor the speakers in it are
looked at. -/
def readPlain (length : Nat) (spec : Spec) (bytes : List UInt8) :
    Except WaveError (Spec × List UInt8) := do
  require (length = 16 || length = 18 || length = 40) .unexpectedFormatSize
  if length = 16 then return (spec, bytes)
  let (_, bytes) ← takeWord 2 bytes
  require (spec.bits = 8 || spec.bits = 16 || spec.bits = 24) .bitsNotEightOrSixteen
  if length = 40 then
    let (_, bytes) ← takeBytes 22 bytes
    return (spec, bytes)
  return (spec, bytes)

def readFloat (length : Nat) (spec : Spec) (bytes : List UInt8) :
    Except WaveError (Spec × List UInt8) := do
  require (length = 16 || length = 18) .unexpectedFormatSize
  let bytes ← if length = 18 then do
      let (extra, bytes) ← takeWord 2 bytes
      require (extra = 0) .unexpectedExtension
      pure bytes
    else pure bytes
  require (spec.bits = 32) .bitsNotThirtyTwo
  return ({ spec with isFloat := true }, bytes)

/-- What a format that names its speakers adds to the common fields. -/
def readExtensible (length : Nat) (spec : Spec) (bytes : List UInt8) :
    Except WaveError (Spec × List UInt8) := do
  require (40 ≤ length) .unexpectedFormatSize
  let (extra, bytes) ← takeWord 2 bytes
  require (extra = 22) .unexpectedLongExtension
  let (validBits, bytes) ← takeWord 2 bytes
  let (_, bytes) ← takeWord 4 bytes
  let (subformat, bytes) ← takeBytes 16 bytes
  -- a format that names its speakers may use fewer bits than its samples have
  let spec := if 0 < validBits then { spec with bits := validBits } else spec
  if subformat = pcmSubformat then return (spec, bytes)
  else if subformat = floatSubformat then return ({ spec with isFloat := true }, bytes)
  else .error .unsupported

def readFormat (length : Nat) (bytes : List UInt8) : Except WaveError (Spec × List UInt8) := do
  require (16 ≤ length) .formatSize
  let (kind, bytes) ← takeWord 2 bytes
  let (channels, bytes) ← takeWord 2 bytes
  let (sampleRate, bytes) ← takeWord 4 bytes
  let (bytesPerSecond, bytes) ← takeWord 4 bytes
  let (blockBytes, bytes) ← takeWord 2 bytes
  let (bits, bytes) ← takeWord 2 bytes
  require (channels ≠ 0) .zeroChannels
  -- the file says the size of a block; that of a sample follows from it
  let bytesPerSample := blockBytes / channels
  require (bits ≤ bytesPerSample * 8 && bytesPerSample * 8 < UInt16.size) .bitsExceedSample
  require (bytesPerSecond = blockBytes * sampleRate) .inconsistentFormat
  require (bits % 8 = 0) .bitsNotWholeBytes
  require (bits ≠ 0) .zeroBits
  let spec : Spec := { channels, sampleRate, bits, isFloat := false, bytesPerSample }
  if kind = 1 then readPlain length spec bytes
  else if kind = 3 then readFloat length spec bytes
  else if kind = 0xfffe then readExtensible length spec bytes
  else .error .unsupported

/-! ## Chunks and samples -/

/-- The chunks of a file up to its samples: their format, how many there are, and the bytes from the
first one on. Every chunk has a head of eight bytes, so the length of the file bounds the rounds. -/
def readChunks : Nat → Option Spec → List UInt8 → Except WaveError (Spec × Nat × List UInt8)
  | 0, _, _ => .error .truncated
  | fuel + 1, spec, bytes => do
    let (kind, bytes) ← takeBytes 4 bytes
    let (length, bytes) ← takeWord 4 bytes
    if kind = tag "fmt " then
      let (spec, bytes) ← readFormat length bytes
      readChunks fuel (some spec) bytes
    else if kind = tag "fact" then
      let (_, bytes) ← takeBytes 4 bytes
      readChunks fuel spec bytes
    else if kind = tag "data" then
      match spec with
      | none => .error (.illFormed .missingFormat)
      | some spec => do
        require (length % spec.bytesPerSample = 0) .dataNotWholeSamples
        -- nothing is read here: how much is really there shows when the samples are
        let count := length / spec.bytesPerSample
        require (count % spec.channels = 0) .dataNotWholeBlocks
        return (spec, count, bytes)
    else
      let (_, bytes) ← takeBytes length bytes
      readChunks fuel spec bytes

/-- Everything in front of the samples. -/
def readHead (bytes : List UInt8) : Except WaveError (Spec × Nat × List UInt8) := do
  let (riff, rest) ← takeBytes 4 bytes
  require (riff = tag "RIFF") .noRiffTag
  let (_, rest) ← takeWord 4 rest
  let (wave, rest) ← takeBytes 4 rest
  require (wave = tag "WAVE") .noWaveTag
  readChunks rest.length none rest

/-- The 16-bit samples that follow the head. -/
def readSamples (spec : Spec) (count : Nat) (bytes : List UInt8) : Except WaveError (List Int16) :=
  if count = 0 then .ok []
  else if spec.bytesPerSample = 2 then do
    let (data, _) ← takeBytes (2 * count) bytes
    return Pcm.ofBytes data
  else if 2 < spec.bytesPerSample then .error .tooWide
  else .error .unsupported

end VoiceLink.Wave
