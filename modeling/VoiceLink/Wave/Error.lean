/-!
# What can be wrong with a WAV file

Faults of the format chunk and errors of a whole file are kept apart, as only the first are reported
as an ill-formed file. Errors of writing are among them: a writer can be left with less than a block
of samples.
-/

namespace VoiceLink

/-- Why the format part of a file is refused. -/
inductive WaveFault where
  | noRiffTag
  | noWaveTag
  | missingFormat
  | formatSize
  | zeroChannels
  | bitsExceedSample
  | inconsistentFormat
  | bitsNotWholeBytes
  | zeroBits
  | unexpectedFormatSize
  | bitsNotEightOrSixteen
  | unexpectedExtension
  | bitsNotThirtyTwo
  | unexpectedLongExtension
  | dataNotWholeSamples
  | dataNotWholeBlocks
  deriving DecidableEq, Repr

/-- Why a file cannot be read or written. -/
inductive WaveError where
  | truncated
  | illFormed (fault : WaveFault)
  | unsupported
  | tooWide
  | unfinished
  deriving DecidableEq, Repr

def WaveFault.message : WaveFault → String
  | noRiffTag => "no RIFF tag found"
  | noWaveTag => "no WAVE tag found"
  | missingFormat => "missing fmt chunk"
  | formatSize => "invalid fmt chunk size"
  | zeroChannels => "file contains zero channels"
  | bitsExceedSample => "sample bits exceeds size of sample"
  | inconsistentFormat => "inconsistent fmt chunk"
  | bitsNotWholeBytes => "bits per sample is not a multiple of 8"
  | zeroBits => "bits per sample is 0"
  | unexpectedFormatSize => "unexpected fmt chunk size"
  | bitsNotEightOrSixteen => "bits per sample is not 8 or 16"
  | unexpectedExtension => "unexpected WAVEFORMATEX size"
  | bitsNotThirtyTwo => "bits per sample is not 32"
  | unexpectedLongExtension => "unexpected WAVEFORMATEXTENSIBLE size"
  | dataNotWholeSamples => "data chunk length is not a multiple of sample size"
  | dataNotWholeBlocks => "invalid data chunk length"

def WaveError.message : WaveError → String
  | truncated => "Failed to read enough bytes."
  | illFormed fault => "Ill-formed WAVE file: " ++ fault.message
  | unsupported => "The wave format of the file is not supported."
  | tooWide => "The sample has more bits than the destination type."
  | unfinished =>
    "The number of samples written is not a multiple of the number of channels."

end VoiceLink
