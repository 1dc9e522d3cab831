import VoiceLink.Message.Field

/-!
# Audio parameters and the words of the protocol

What the two sides tell each other about sound, and the closed sets of words in their messages, each
with its spelling on the wire. A set of words is an enumeration with one function that spells it
(`word`); the table by which it is read is made from that function, so reading and writing cannot
disagree.
-/

namespace VoiceLink

/-! ## Audio parameters -/

/-- The audio format announced in a greeting; the frame duration is in milliseconds. -/
structure AudioParams where
  sampleRate : UInt32
  channels : UInt16
  frameDuration : UInt32
  format : String
  deriving DecidableEq, Repr, Inhabited

def AudioParams.opus (sampleRate : UInt32) (channels : UInt16) (frameDuration : UInt32) :
    AudioParams :=
  { sampleRate, channels, frameDuration, format := "opus" }

/-! ## Words -/

/-- What a listen message asks for. -/
inductive ListenState where
  | start
  | stop
  | detect
  deriving DecidableEq, Repr

/-- How the end of the speaker's turn is found. -/
inductive ListenMode where
  | auto
  | manual
  | realtime
  deriving DecidableEq, Repr, Inhabited

/-- Progress of the server's speech. A state this library does not know is `other`. -/
inductive TtsState where
  | start
  | stop
  | sentenceStart
  | sentenceEnd
  | other
  deriving DecidableEq, Repr

namespace ListenState

def word : ListenState → String
  | start => "start"
  | stop => "stop"
  | detect => "detect"

def table : List (String × ListenState) :=
  [start, stop, detect].map fun s => (s.word, s)

def ofJson : Json → Shaped ListenState := Json.asChoice (choose table)

end ListenState

namespace ListenMode

def word : ListenMode → String
  | auto => "auto"
  | manual => "manual"
  | realtime => "realtime"

def table : List (String × ListenMode) :=
  [auto, manual, realtime].map fun m => (m.word, m)

def ofJson : Json → Shaped ListenMode := Json.asChoice (choose table)

end ListenMode

namespace TtsState

def word : TtsState → String
  | start => "start"
  | stop => "stop"
  | sentenceStart => "sentence_start"
  | sentenceEnd => "sentence_end"
  | other => "other"

/-- The known states by their words. -/
def table : List (String × TtsState) :=
  [start, stop, sentenceStart, sentenceEnd].map fun s => (s.word, s)

def ofJson : Json → Shaped TtsState :=
  Json.asChoice fun name => .ok ((table.lookup name).getD other)

end TtsState

/-! ## On the wire -/

namespace AudioParams

def toJson (p : AudioParams) : Json :=
  .object [("sample_rate", .nat p.sampleRate.toNat), ("channels", .nat p.channels.toNat),
    ("frame_duration", .nat p.frameDuration.toNat), ("format", .string p.format)]

/-- How a short sequence is described. -/
def record : String := "struct AudioParams with 4 elements"

def ofBody (b : Body) : Located AudioParams :=
  let rate := b.required record 0 ["sample_rate"] Json.asUInt32
  let channels := b.required record 1 ["channels"] Json.asUInt16
  let duration := b.required record 2 ["frame_duration"] Json.asUInt32
  let format := b.required record 3 ["format"] Json.asString
  (rate.both (channels.both (duration.both (format.both (b.exhausted 4))))).map
    fun (sampleRate, channels, frameDuration, format, _) =>
      { sampleRate, channels, frameDuration, format }

def ofJson (v : Json) : Shaped AudioParams := do
  let b ← Body.ofJson "struct AudioParams" v
  (ofBody b).shaped

end AudioParams

end VoiceLink
