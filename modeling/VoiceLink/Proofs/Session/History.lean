import Mathlib
import VoiceLink.Proofs.Audio.Collected
import VoiceLink.Session.Router

/-!
# The history of a connection

What a connection has delivered, looked at as a whole. One decoder has heard every packet in the
order of arrival (`Decoder.history`), and the boundaries among the frames divide what it heard into
turns: `History.turn` is the turn that is open at the end of a history, `finished` are the turns
that were ended to be written, `dropped` those that were ended and forgotten.

Nothing here depends on a router. It is a description that does not keep any state: turns are found
by looking at a whole history at once. The modules that follow prove that the router, which sees one
frame at a time, has come to the same.
-/

namespace VoiceLink

/-! ## Boundaries

Three of the control messages. All others are no boundaries, whatever else they do. -/

/-- What ends a turn and begins the next one. -/
inductive Boundary where
  /-- The server has spoken: the turn is to be written. -/
  | stop
  /-- The server is going to speak. -/
  | start
  /-- The server gives the turn up. -/
  | abort
  deriving DecidableEq, Repr

def ControlMessage.boundary? : ControlMessage → Option Boundary
  | .tts .stop _ => some .stop
  | .tts .start _ => some .start
  | .abort _ => some .abort
  | _ => none

/-- The boundary a text is. A text that is no message is none. -/
def Boundary.ofText? (text : String) : Option Boundary :=
  match ControlMessage.parse text with
  | .ok message => message.boundary?
  | .error _ => none

/-! ## Arrivals

Frames are reduced to what matters for the audio. The decoder belongs to it, since whether a packet
is accepted and what it sounds like depends on those before it. -/

/-- What an inbound frame is to the audio. -/
inductive Arrival where
  /-- A packet, and the audio in it unless it was refused. -/
  | audio (packet : Packet) (decoded : Option DecodedFrame)
  | boundary (kind : Boundary)
  /-- Nothing that matters. -/
  | other
  deriving DecidableEq, Repr

namespace Arrival

@[simp]
def isBoundary : Arrival → Bool
  | boundary _ => true
  | _ => false

theorem exists_of_isBoundary {m : Arrival} (h : m.isBoundary = true) :
    ∃ kind, m = .boundary kind := by
  cases m with
  | boundary kind => exact ⟨kind, rfl⟩
  | audio p decoded => cases h
  | other => cases h

@[simp]
def packet? : Arrival → Option Packet
  | audio p _ => some p
  | _ => none

@[simp]
def piece? : Arrival → Option (Packet × DecodedFrame)
  | audio p (some f) => some (p, f)
  | _ => none

@[simp]
def isAudio : Arrival → Bool
  | audio _ _ => true
  | _ => false

@[simp]
def isRefusal : Arrival → Bool
  | audio _ none => true
  | _ => false

end Arrival

/-- What happened on a connection, the first in front. -/
abbrev History := List Arrival

namespace Decoder

/-- Take in one frame of a connection. -/
def hear (d : Decoder) : InboundFrame → Arrival × Decoder
  | .binary p =>
    match d.decode p with
    | (.ok f, d) => (.audio p (some f), d)
    | (.error _, d) => (.audio p none, d)
  | .text t =>
    match Boundary.ofText? t with
    | some b => (.boundary b, d)
    | none => (.other, d)
  | .closed => (.other, d)
  | .failed _ => (.other, d)

def after (d : Decoder) (frames : List InboundFrame) : Decoder :=
  frames.foldl (fun d f => (d.hear f).2) d

/-- What a decoder makes of some frames. -/
def history (d : Decoder) : List InboundFrame → History
  | [] => []
  | f :: frames => (d.hear f).1 :: (d.hear f).2.history frames

@[simp]
theorem after_concat (d : Decoder) (frames : List InboundFrame) (f : InboundFrame) :
    d.after (frames ++ [f]) = ((d.after frames).hear f).2 := by
  simp [after]

@[simp]
theorem history_concat (d : Decoder) (frames : List InboundFrame) (f : InboundFrame) :
    d.history (frames ++ [f]) = d.history frames ++ [((d.after frames).hear f).1] := by
  induction frames generalizing d with
  | nil => rfl
  | cons g frames ih =>
      simp only [List.cons_append, history, ih]
      rfl

end Decoder

/-! ## Turns

A refused packet belongs to its turn as well. It leaves no audio there, but a dump of the packets
has it. -/

/-- The audio between two boundaries. -/
structure Turn where
  /-- All packets that came in. -/
  packets : List Packet
  /-- Those that were decoded, each with its audio. -/
  pieces : List (Packet × DecodedFrame)
  deriving DecidableEq, Repr

namespace Turn

/-- The decoded audio, one piece behind the other. -/
def pcm (t : Turn) : List UInt8 := t.pieces.flatMap (·.2.pcm)

def frames (t : Turn) : Nat := t.pieces.length

def inputBytes (t : Turn) : Nat := (t.pieces.map (·.1.length)).sum

/-- The samples of each channel. -/
def samples (t : Turn) : Nat := (t.pieces.map (·.2.samples)).sum

/-- What goes into an accumulator. -/
def chunks (t : Turn) : List Chunk := t.pieces.map fun piece => ⟨piece.1.length, piece.2.pcm⟩

end Turn

namespace History

/-- The arrivals since the last boundary, or since the beginning. -/
def sinceBoundary (h : History) : History := h.rtakeWhile fun m => !m.isBoundary

/-- The turn that is open. -/
def turn (h : History) : Turn :=
  { packets := h.sinceBoundary.filterMap Arrival.packet?
    pieces := h.sinceBoundary.filterMap Arrival.piece? }

/-- Each arrival together with all that was before it; `past` was before the first. -/
def withPast (past : History) : History → List (History × Arrival)
  | [] => []
  | m :: rest => (past, m) :: withPast (past ++ [m]) rest

/-- The turns that ended in a given way. -/
def ended (h : History) (kinds : List Boundary) : List Turn :=
  (withPast [] h).filterMap fun (past, m) =>
    match m with
    | .boundary kind => if kind ∈ kinds then some (turn past) else none
    | _ => none

/-- The turns that were ended to be written. -/
def finished (h : History) : List Turn := h.ended [.stop]

/-- The turns that were ended without being written. -/
def dropped (h : History) : List Turn := h.ended [.start, .abort]

/-! ### One arrival more

How the descriptions go on when something arrives. Proofs by induction over a history use nothing
but these. -/

@[simp]
theorem turn_nil : turn [] = ⟨[], []⟩ := rfl

/-- A boundary leaves nothing of the turn before it. -/
@[simp]
theorem turn_boundary (h : History) (kind : Boundary) :
    turn (h ++ [.boundary kind]) = ⟨[], []⟩ := by
  simp [turn, sinceBoundary]

@[simp]
theorem turn_other (h : History) : turn (h ++ [.other]) = turn h := by
  simp [turn, sinceBoundary]

@[simp]
theorem turn_decoded (h : History) (p : Packet) (f : DecodedFrame) :
    turn (h ++ [.audio p (some f)]) =
      ⟨(turn h).packets ++ [p], (turn h).pieces ++ [(p, f)]⟩ := by
  simp [turn, sinceBoundary]

@[simp]
theorem turn_refused (h : History) (p : Packet) :
    turn (h ++ [.audio p none]) = ⟨(turn h).packets ++ [p], (turn h).pieces⟩ := by
  simp [turn, sinceBoundary]

@[simp]
theorem withPast_concat (past h : History) (m : Arrival) :
    withPast past (h ++ [m]) = withPast past h ++ [(past ++ h, m)] := by
  induction h generalizing past with
  | nil => simp [withPast]
  | cons n h ih => simp [withPast, ih]

/-- A boundary ends the turn that is open before it. -/
theorem ended_boundary (h : History) (kinds : List Boundary) (kind : Boundary) :
    ended (h ++ [.boundary kind]) kinds =
      h.ended kinds ++ if kind ∈ kinds then [h.turn] else [] := by
  by_cases hk : kind ∈ kinds <;> simp [ended, hk]

/-- What is no boundary ends no turn. -/
theorem ended_of_isBoundary_eq_false {m : Arrival} (hm : m.isBoundary = false) (h : History)
    (kinds : List Boundary) : ended (h ++ [m]) kinds = h.ended kinds := by
  cases m with
  | boundary kind => simp at hm
  | audio p decoded => simp [ended]
  | other => simp [ended]

@[simp]
theorem finished_stop (h : History) :
    finished (h ++ [.boundary .stop]) = h.finished ++ [h.turn] := by
  rw [finished, ended_boundary]
  rfl

theorem finished_of_ne_stop {kind : Boundary} (hkind : kind ≠ .stop) (h : History) :
    finished (h ++ [.boundary kind]) = h.finished := by
  rw [finished, ended_boundary]
  cases kind <;> simp_all [finished]

theorem finished_of_isBoundary_eq_false {m : Arrival} (hm : m.isBoundary = false) (h : History) :
    finished (h ++ [m]) = h.finished :=
  ended_of_isBoundary_eq_false hm h _

@[simp]
theorem dropped_stop (h : History) : dropped (h ++ [.boundary .stop]) = h.dropped := by
  rw [dropped, ended_boundary]
  simp [dropped]

theorem dropped_of_ne_stop {kind : Boundary} (hkind : kind ≠ .stop) (h : History) :
    dropped (h ++ [.boundary kind]) = h.dropped ++ [h.turn] := by
  rw [dropped, ended_boundary]
  cases kind <;> simp_all [dropped]

theorem dropped_of_isBoundary_eq_false {m : Arrival} (hm : m.isBoundary = false) (h : History) :
    dropped (h ++ [m]) = h.dropped :=
  ended_of_isBoundary_eq_false hm h _

/-- As many turns are finished as there are boundaries for it. -/
theorem length_finished (h : History) : h.finished.length = h.count (.boundary .stop) := by
  induction h using List.reverseRecOn with
  | nil => rfl
  | append_singleton h m ih =>
      rw [List.count_append, ← ih]
      by_cases hm : m = .boundary .stop
      · rw [hm, finished_stop, List.length_append]
        rfl
      · have same : finished (h ++ [m]) = finished h := by
          cases hb : m.isBoundary with
          | false => exact finished_of_isBoundary_eq_false hb h
          | true =>
              obtain ⟨kind, rfl⟩ := Arrival.exists_of_isBoundary hb
              exact finished_of_ne_stop (fun stop => hm (congrArg _ stop)) h
        rw [same, List.count_singleton, if_neg (by simpa using hm), Nat.add_zero]

end History

end VoiceLink
