import VoiceLink.Audio.Packet
import VoiceLink.Audio.Pcm

/-!
# Decoding and encoding packets

What a packet sounds like is the business of a codec and a parameter here. What this library decides
is which packets are accepted, how many samples they give, and how audio is cut into packets. A
codec's state is a function of what it was given before, so decoder and encoder keep that history
instead of a state of their own.

All that is asked of a codec is that its packets declare the duration of the frame they were made of
(`Codec.ticks_packet`); so what was encoded is decoded to as many samples, whatever they are.
-/

namespace VoiceLink

/-! ## Codecs -/

/-- A codec: the samples of packets and the packets of samples. Histories list the latest first. -/
structure Codec where
  /-- An interleaved sample of a packet that follows the packets `heard` before. -/
  sample : (format : AudioFormat) → (heard : List Packet) → Packet → (index : Nat) → Int16
  /-- The packet of one frame of interleaved samples that follows the frames `sent` before. -/
  packet : AudioFormat → FrameDuration → (sent : List (List Int16)) → List Int16 → Packet
  /-- A packet declares the duration of the frame it was made of. -/
  ticks_packet : ∀ format duration sent frame,
    (packet format duration sent frame).ticks? = some duration.ticks

namespace Codec

/-- The shortest packet of a duration: frames of no bytes, 20 milliseconds each where that fits. -/
def silentPacket : FrameDuration → Packet
  | .ms5 => [0xe8]
  | .ms10 => [0xf0]
  | .ms20 => [0xf8]
  | .ms40 => [0xf9]
  | .ms60 => [0xfb, 3]
  | .ms80 => [0xfb, 4]
  | .ms100 => [0xfb, 5]
  | .ms120 => [0xfb, 6]

/-- The codec that hears and sends silence. -/
def silent : Codec where
  sample _ _ _ _ := 0
  packet _ duration _ _ := silentPacket duration
  ticks_packet _ duration _ _ := by cases duration <;> decide

end Codec

/-! ## Decoding

A decoder belongs to one stream of packets in the order of their arrival. A packet says by itself
how long it lasts, and may be shorter or longer than the one before; what limits it is the room in
the output buffer. -/

/-- What one packet decoded to: interleaved PCM, and the samples per channel. -/
structure DecodedFrame where
  pcm : List UInt8
  samples : Nat
  deriving DecidableEq, Repr

structure Decoder where
  codec : Codec
  format : AudioFormat
  heard : List Packet

namespace Decoder

/-- A decoder for a rate and a channel count, if the codec supports them. -/
def create (codec : Codec) (sampleRate : UInt32) (channels : UInt16) : Except AudioError Decoder :=
  match AudioFormat.of? sampleRate channels with
  | some format => .ok { codec, format, heard := [] }
  | none => .error (.unsupportedFormat sampleRate channels)

/-- The samples per channel that the output buffer has room for: 120 milliseconds. -/
def capacity (d : Decoder) : Nat := d.format.rate.hz * 120 / 1000

def samplesOf (d : Decoder) (p : Packet) (samples : Nat) : List Int16 :=
  (List.range (samples * d.format.channels.count)).map (d.codec.sample d.format d.heard p)

/-- Decode one packet. Its own framing says how many samples it gives. -/
def decode (d : Decoder) (p : Packet) : Except AudioError DecodedFrame × Decoder :=
  -- a codec would take an empty packet for a lost one and make up its sound
  if p.isEmpty then (.error (.malformed 0 .empty), d)
  else
    match p.ticks? with
    | none => (.error (.malformed p.length .corrupted), d)
    | some ticks =>
      -- from here on the packet is sound, and only the buffer can be too small for it
      let samples := ticks * d.format.rate.perTick
      if d.capacity < samples then (.error (.malformed p.length .noSpace), d)
      else
        (.ok { pcm := Pcm.toBytes (d.samplesOf p samples), samples },
          { d with heard := p :: d.heard })

end Decoder

/-! ## Encoding

An encoder turns frames of one duration into packets. Audio of any length is cut into such frames
first (`Encoder.encodeAll`), of which the last may be short and is filled up with silence. -/

/-- Why a frame was not encoded. -/
inductive EncodeError where
  | tooLong (expected length : Nat)
  deriving DecidableEq, Repr

def EncodeError.message : EncodeError → String
  | tooLong expected length =>
    "frame too long: expected " ++ Numeral.text expected ++ " samples, got " ++ Numeral.text length

structure Encoder where
  codec : Codec
  format : AudioFormat
  duration : FrameDuration
  sent : List (List Int16)

namespace Encoder

/-- An encoder for a format and a frame duration; the duration is checked first. -/
def create (codec : Codec) (sampleRate : UInt32) (channels : UInt16) (milliseconds : UInt32) :
    Except AudioError Encoder :=
  -- of two things that are wrong, the duration is reported
  match FrameDuration.ofMilliseconds? milliseconds.toNat with
  | none => .error (.unsupportedFrameDuration milliseconds)
  | some duration =>
    match AudioFormat.of? sampleRate channels with
    | none => .error (.unsupportedFormat sampleRate channels)
    | some format => .ok { codec, format, duration, sent := [] }

/-- Samples per channel in a frame. -/
def frameSize (e : Encoder) : Nat := e.format.rate.hz * e.duration.milliseconds / 1000

def frameLength (e : Encoder) : Nat := e.frameSize * e.format.channels.count

/-- Encode one frame; a short one is filled up with silence. -/
def encode (e : Encoder) (samples : List Int16) : Except EncodeError Packet × Encoder :=
  if e.frameLength < samples.length then
    (.error (.tooLong e.frameLength samples.length), e)
  else
    let frame := samples ++ List.replicate (e.frameLength - samples.length) 0
    (.ok (e.codec.packet e.format e.duration e.sent frame), { e with sent := frame :: e.sent })

/-- Encode a run of frames, up to the first that fails. -/
def encodeFrames : Encoder → List (List Int16) → Except EncodeError (List Packet) × Encoder
  | e, [] => (.ok [], e)
  | e, frame :: rest =>
    match e.encode frame with
    | (.error f, e) => (.error f, e)
    | (.ok p, e) =>
      match encodeFrames e rest with
      | (.error f, e) => (.error f, e)
      | (.ok ps, e) => (.ok (p :: ps), e)

/-- Cut a list into pieces of `n`, the last of which may be shorter. -/
def pieces {α : Type} (n : Nat) : List α → List (List α)
  | [] => []
  | x :: xs => (x :: xs.take (n - 1)) :: pieces n (xs.drop (n - 1))
termination_by xs => xs.length
decreasing_by
  simp only [List.length_drop, List.length_cons]
  omega

/-- Encode any number of samples, frame by frame. -/
def encodeAll (e : Encoder) (samples : List Int16) : Except EncodeError (List Packet) × Encoder :=
  e.encodeFrames (pieces e.frameLength samples)

end Encoder

end VoiceLink
