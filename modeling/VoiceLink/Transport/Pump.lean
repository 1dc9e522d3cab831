import VoiceLink.Session.State

/-!
# From a stream to frames

What a connection delivers is read item by item and handed on through a buffer of limited size.
Texts and data are handed on as they are; what only keeps the connection alive is not. A close, a
failure or the end of the stream is handed on last, and then no more is read.

Reader and receiver take turns in any order, so what happens is a list of steps. A step that is not
possible at the time leaves everything as it is: a reader with a frame in its hands reads no other,
a full buffer takes none in, and an empty one gives none away.
-/

namespace VoiceLink

/-! ## Items and frames -/

/-- An item of a stream. A stream that ends without a close just has no more of them. -/
inductive StreamItem where
  | text (content : String)
  | binary (data : Packet)
  | ping (data : List UInt8)
  | pong (data : List UInt8)
  | close (code : Option Nat) (reason : String)
  | failure (reason : String)
  deriving DecidableEq, Repr

/-- The frame an item is handed on as, if it is. -/
def StreamItem.frame? : StreamItem → Option InboundFrame
  | text s => some (.text s)
  | binary data => some (.binary data)
  | ping _ => none
  | pong _ => none
  | close _ _ => some .closed
  | failure reason => some (.failed reason)

/-- Whether nothing is read behind a frame. -/
def InboundFrame.isLast : InboundFrame → Bool
  | closed => true
  | failed _ => true
  | _ => false

/-! ## The pump -/

/-- A pump between a stream and the receiver of its frames. -/
structure Pump where
  /-- What has not been read. -/
  items : List StreamItem
  /-- What has been read and waits for room. -/
  held : Option InboundFrame := none
  /-- What waits for the receiver, the oldest in front. -/
  buffer : List InboundFrame := []
  /-- What the receiver has taken, the oldest in front. -/
  delivered : List InboundFrame := []
  /-- Whether there is a receiver. -/
  receiving : Bool := true
  /-- Whether more is going to be read. -/
  running : Bool := true
  deriving DecidableEq, Repr

/-- What may happen next around a pump. -/
inductive PumpStep where
  /-- An item is read. -/
  | read
  /-- What has been read is put into the buffer. -/
  | hand
  /-- The receiver takes a frame. -/
  | take
  /-- The receiver goes away. -/
  | leave
  deriving DecidableEq, Repr

namespace Pump

/-- How many frames wait for the receiver at most. -/
def capacity : Nat := 256

def start (items : List StreamItem) : Pump := { items }

/-- Read an item, unless one waits. -/
def read (p : Pump) : Pump :=
  if !p.running || p.held.isSome then p
  else
    match p.items with
    -- a stream that just ends is told like a close
    | [] => { p with held := some .closed }
    | item :: items => { p with items, held := item.frame? }

/-- Put what has been read into the buffer, if there is room. Without a receiver it is dropped and
nothing more is read. -/
def hand (p : Pump) : Pump :=
  match p.held with
  | none => p
  | some frame =>
    -- reading stops at the first frame that nobody receives
    if !p.receiving then { p with held := none, running := false }
    else if capacity ≤ p.buffer.length then p
    else { p with held := none, buffer := p.buffer ++ [frame], running := !frame.isLast }

def take (p : Pump) : Pump :=
  match p.buffer with
  | [] => p
  | frame :: buffer =>
    if p.receiving then { p with buffer, delivered := p.delivered ++ [frame] } else p

/-- The receiver goes away; what waits for it is lost. -/
def leave (p : Pump) : Pump := { p with receiving := false, buffer := [] }

def step (p : Pump) : PumpStep → Pump
  | .read => p.read
  | .hand => p.hand
  | .take => p.take
  | .leave => p.leave

def run (p : Pump) (steps : List PumpStep) : Pump := steps.foldl step p

end Pump

end VoiceLink
