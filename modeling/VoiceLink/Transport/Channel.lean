import VoiceLink.Session.State

/-!
# A transport within the program

The outbound half of a connection to a peer in the same program. What the peer was sent is kept in
the order of sending. Either side may go away, and to the sender that is the same: the frame is not
accepted, and the channel counts as closed.
-/

namespace VoiceLink

structure Channel where
  /-- Whether the local side has closed it. -/
  closed : Bool := false
  /-- Whether the peer still accepts frames. -/
  peerListens : Bool := true
  /-- What the peer accepted, the first in front. -/
  accepted : List OutboundFrame := []
  deriving DecidableEq, Repr

namespace Channel

/-- Send one frame: it is accepted, or the transport counts as closed. -/
def send (c : Channel) (frame : OutboundFrame) : Except SendError Unit × Channel :=
  if c.closed ∨ ¬ c.peerListens then (.error .closed, c)
  else (.ok (), { c with accepted := c.accepted ++ [frame] })

def close (c : Channel) : Channel := { c with closed := true }

/-- The peer accepts no more frames. -/
def peerHangUp (c : Channel) : Channel := { c with peerListens := false }

end Channel

end VoiceLink
