import VoiceLink.Proofs.Audio.Decoding
import VoiceLink.Session.Sender

/-!
# Cutting a recording into packets

An encoder takes as many samples at a time as make up a frame and fills up the last frame. No piece
is too long for it, so encoding does not fail, and a recording gives as many packets as frames are
needed to hold its samples (`ControlSender.packets_eq_ok`).

The codec itself is unknown: any function from frames to packets that last as long as a frame. What
is said of its packets here is how many there are and how long they last, and that the frames it was
given are the samples in their order.
-/

namespace VoiceLink

/-! ## Formats -/

def AudioParams.frameLength (p : AudioParams) : Nat :=
  p.sampleRate.toNat * p.frameDuration.toNat / 1000 * p.channels.toNat

namespace Encoder

/-- An encoder is made for the format and the duration that were asked for. -/
theorem create_eq_ok {codec : Codec} {sampleRate : UInt32} {channels : UInt16}
    {milliseconds : UInt32} {e : Encoder}
    (h : create codec sampleRate channels milliseconds = .ok e) :
    e.format.rate.hz = sampleRate.toNat ∧ e.format.channels.count = channels.toNat ∧
      e.duration.milliseconds = milliseconds.toNat ∧ e.codec = codec ∧ e.sent = [] := by
  unfold create at h
  split at h
  · cases h
  · next duration found =>
    split at h
    · cases h
    · next format supported =>
      cases h
      obtain ⟨rate, count⟩ := AudioFormat.of?_eq_some supported
      exact ⟨rate, count, by simpa using List.find?_some found, rfl, rfl⟩

/-- Every frame holds samples. -/
theorem frameLength_pos (e : Encoder) : 0 < e.frameLength := by
  have size : 0 < e.frameSize := by
    unfold frameSize
    cases e.format.rate <;> cases e.duration <;> decide
  exact Nat.mul_pos size e.format.channels.count_pos

/-! ## Pieces

Cutting a list into pieces of one length, of which only the last may be shorter. -/

section Pieces

variable {α : Type} {n : Nat}

theorem length_le_of_mem_pieces (pos : 0 < n) {xs piece : List α} (h : piece ∈ pieces n xs) :
    piece.length ≤ n := by
  fun_induction pieces n xs with
  | case1 => cases h
  | case2 x xs ih =>
      rcases List.mem_cons.1 h with rfl | h
      · rw [List.length_cons, List.length_take]
        omega
      · exact ih h

/-- There are as many pieces as it takes to hold everything. -/
theorem length_pieces (pos : 0 < n) (xs : List α) :
    (pieces n xs).length = (xs.length + n - 1) / n := by
  fun_induction pieces n xs with
  | case1 =>
      show 0 = (0 + n - 1) / n
      rw [Nat.zero_add]
      exact (Nat.div_eq_of_lt (Nat.sub_lt pos Nat.one_pos)).symm
  | case2 x xs ih =>
      rw [List.length_cons, ih, List.length_cons, List.length_drop]
      rcases Nat.lt_or_ge xs.length n with last | more
      · have left : xs.length - (n - 1) = 0 := by omega
        have all : xs.length + 1 + n - 1 = xs.length + n := by omega
        rw [left, all, Nat.add_div_right _ pos, Nat.zero_add, Nat.div_eq_of_lt last,
          Nat.div_eq_of_lt (Nat.sub_lt pos Nat.one_pos)]
      · have left : xs.length - (n - 1) + n - 1 = xs.length := by omega
        have all : xs.length + 1 + n - 1 = xs.length + n := by omega
        rw [left, all, Nat.add_div_right _ pos]

end Pieces

/-! ## Frames

`Encoder.frames` says what is handed to the codec, apart from how it gets there. Since the codec may
look at what it was given before, its packets are described by running over the frames
(`packetsOf`). -/

/-- A frame, filled up with silence. -/
def filled (e : Encoder) (samples : List Int16) : List Int16 :=
  samples ++ List.replicate (e.frameLength - samples.length) 0

/-- The frames that are handed to the codec, to encode some samples. -/
def frames (e : Encoder) (samples : List Int16) : List (List Int16) :=
  (pieces e.frameLength samples).map e.filled

/-- What the codec makes of frames that are handed to it one after the other. -/
def packetsOf (e : Encoder) : List (List Int16) → List Packet
  | [] => []
  | frame :: frames =>
    e.codec.packet e.format e.duration e.sent frame ::
      packetsOf { e with sent := frame :: e.sent } frames

theorem length_packetsOf (e : Encoder) (frames : List (List Int16)) :
    (e.packetsOf frames).length = frames.length := by
  induction frames generalizing e with
  | nil => rfl
  | cons frame frames ih => exact congrArg Nat.succ (ih _)

/-- Every packet lasts as long as a frame. -/
theorem ticks_of_mem_packetsOf {e : Encoder} {frames : List (List Int16)} {p : Packet}
    (h : p ∈ e.packetsOf frames) : p.ticks? = some e.duration.ticks := by
  induction frames generalizing e with
  | nil => cases h
  | cons frame frames ih =>
      rcases List.mem_cons.1 h with rfl | h
      · exact e.codec.ticks_packet _ _ _ _
      · exact ih (e := { e with sent := frame :: e.sent }) h

/-- Pieces that are not too long are filled up and encoded one by one. -/
theorem encodeFrames_eq_ok {e : Encoder} {pieces : List (List Int16)}
    (fit : ∀ piece ∈ pieces, piece.length ≤ e.frameLength) :
    e.encodeFrames pieces = (.ok (e.packetsOf (pieces.map e.filled)),
      { e with sent := (pieces.map e.filled).reverse ++ e.sent }) := by
  induction pieces generalizing e with
  | nil => rfl
  | cons piece pieces ih =>
      let e' : Encoder := { e with sent := e.filled piece :: e.sent }
      have encoded : e.encode piece =
          (.ok (e.codec.packet e.format e.duration e.sent (e.filled piece)), e') := by
        rw [encode, if_neg (Nat.not_lt.2 (fit piece List.mem_cons_self))]
        rfl
      have rest := ih (e := e') fun piece h => fit piece (List.mem_cons_of_mem _ h)
      have same : e'.filled = e.filled := rfl
      simp only [encodeFrames, encoded, rest, same]
      simp [e', packetsOf]

/-- Encoding does not fail: the codec is handed the frames of the samples. -/
theorem encodeAll_frames (e : Encoder) (samples : List Int16) :
    e.encodeAll samples = (.ok (e.packetsOf (e.frames samples)),
      { e with sent := (e.frames samples).reverse ++ e.sent }) :=
  encodeFrames_eq_ok fun _ h => length_le_of_mem_pieces e.frameLength_pos h

theorem length_frames (e : Encoder) (samples : List Int16) :
    (e.frames samples).length = (samples.length + e.frameLength - 1) / e.frameLength := by
  rw [frames, List.length_map, length_pieces e.frameLength_pos]

/-- Encoding does not fail, and gives a packet for every piece. -/
theorem encodeAll_eq_ok (e : Encoder) (samples : List Int16) :
    ∃ packets, e.encodeAll samples =
        (.ok packets, { e with sent := (e.frames samples).reverse ++ e.sent }) ∧
      packets.length = (samples.length + e.frameLength - 1) / e.frameLength ∧
      ∀ p ∈ packets, p.ticks? = some e.duration.ticks :=
  ⟨_, e.encodeAll_frames samples, by rw [length_packetsOf, length_frames],
    fun _ h => ticks_of_mem_packetsOf h⟩

end Encoder

/-! ## Recordings

A sender uses a recording only if it has the format that is sent. `Refuses` and `Holds` are the two
things that can come of a path, for every disk. -/

namespace ControlSender

variable {s : ControlSender} {codec : Codec} {d : Disk} {path : String}

/-- Whether a sender cannot use a recording: it cannot be read, it has another format, or there is
no encoder for the format. -/
def Refuses (s : ControlSender) (codec : Codec) (d : Disk) (path : String) : Prop :=
  (∃ e, Recording.load d path = .error e) ∨
    (∃ r, Recording.load d path = .ok r ∧ (r.sampleRate ≠ s.audioParams.sampleRate.toNat ∨
      r.channels ≠ s.audioParams.channels.toNat)) ∨
    ∃ e, Encoder.create codec s.audioParams.sampleRate s.audioParams.channels
      s.audioParams.frameDuration = .error e

/-- A recording that a sender cannot use gives no packets, and nothing else goes wrong with it. -/
theorem packets_eq_error : (∃ e, s.packets codec d path = .error e) ↔ s.Refuses codec d path := by
  unfold packets Refuses
  cases Recording.load d path with
  | error e => simp
  | ok r =>
      by_cases other : r.sampleRate ≠ s.audioParams.sampleRate.toNat ∨
          r.channels ≠ s.audioParams.channels.toNat
      · simp [other]
      · cases created : Encoder.create codec s.audioParams.sampleRate s.audioParams.channels
            s.audioParams.frameDuration with
        | error e => simp [other, created]
        | ok encoder =>
            obtain ⟨packets, encoded, -⟩ := encoder.encodeAll_eq_ok r.samples
            simp [other, created, encoded]

/-- Packets hold a recording of the format that is sent: as many as frames are needed for its
samples, each as long as a frame. -/
structure Holds (params : AudioParams) (r : Recording) (packets : List Packet) : Prop where
  sampleRate_eq : r.sampleRate = params.sampleRate.toNat
  channels_eq : r.channels = params.channels.toNat
  frameLength_pos : 0 < params.frameLength
  length_eq : packets.length = (r.samples.length + params.frameLength - 1) / params.frameLength
  lasts : ∀ p ∈ packets, ∃ ticks, p.ticks? = some ticks ∧
    ticks * 5 = params.frameDuration.toNat * 2

theorem packets_eq_ok {packets : List Packet} (h : s.packets codec d path = .ok packets) :
    ∃ r, Recording.load d path = .ok r ∧ Holds s.audioParams r packets := by
  unfold ControlSender.packets at h
  split at h
  · cases h
  · next r loaded =>
    dsimp only at h
    split at h
    · cases h
    · next same =>
      rw [not_or, not_not, not_not] at same
      split at h
      · cases h
      · next encoder created =>
        obtain ⟨rate, channels, duration, -, -⟩ := Encoder.create_eq_ok created
        -- the encoder was made for the parameters, so the two mean the same frame
        have frame : encoder.frameLength = s.audioParams.frameLength := by
          rw [Encoder.frameLength, Encoder.frameSize, rate, channels, duration,
            AudioParams.frameLength]
        obtain ⟨packets, encoded, length, last⟩ := encoder.encodeAll_eq_ok r.samples
        rw [encoded] at h
        cases h
        exact ⟨r, loaded,
          { sampleRate_eq := same.1
            channels_eq := same.2
            frameLength_pos := frame ▸ encoder.frameLength_pos
            length_eq := frame ▸ length
            lasts := fun p h => ⟨_, last p h, by rw [encoder.duration.ticks_mul, duration]⟩ }⟩

end ControlSender

end VoiceLink
