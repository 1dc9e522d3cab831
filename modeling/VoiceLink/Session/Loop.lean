import VoiceLink.Session.Router

/-!
# The receive loop

The loop takes inbound frames from a queue and hands them to the router, one after the other. It
ends when it is cancelled, when the remote side has closed or failed, or when no frame has come in
for the idle timeout. Time is virtual and counted in milliseconds; it only passes where `elapse`
says so.

A loop is a state, and going through a round (`poll`) is a function of it. What happens between two
rounds is anybody's: frames are delivered, time passes, the loop is cancelled, the caller publishes
a request. A round looks at all of this in one fixed order (`round`), so a run of the loop is
determined by what has happened and in which order.
-/

namespace VoiceLink

/-- The latest request of the caller: the instant it was made, until the loop takes it up. -/
structure TurnMark where
  pending : Option Instant := none
  /-- Whether the caller can still publish. -/
  alive : Bool := true
  deriving DecidableEq, Repr

/-! ## The loop and its surroundings -/

/-- The state of a receive loop. -/
structure Loop where
  router : Router
  /-- Frames delivered and not yet taken. -/
  queue : List InboundFrame := []
  /-- Whether more frames can be delivered. -/
  channelOpen : Bool := true
  cancelled : Bool := false
  time : Nat := 0
  /-- When the loop gives up waiting, once it has begun to wait. -/
  deadline : Option Nat := none
  mark : TurnMark := {}
  /-- How the loop ended. -/
  outcome : Option (Except SessionError SessionReport) := none

namespace Loop

/-- The instant of what happens next. Handling a frame takes time, so no two frames share one. -/
def instant (l : Loop) : Instant := l.time * 1000000 + l.router.handled

/-- Start a loop on a router. -/
def start (router : Router) (time : Nat) (mark : TurnMark) : Loop :=
  let l : Loop := { router, time, mark }
  { l with router := router.startLatency l.instant }

def ended (l : Loop) : Bool := l.outcome.isSome

/-- Deliver a frame; `false` means that nobody receives it any more. -/
def deliver (l : Loop) (frame : InboundFrame) : Bool × Loop :=
  if l.ended ∨ ¬ l.channelOpen then (false, l)
  else (true, { l with queue := l.queue ++ [frame] })

/-- No more frames will be delivered. -/
def hangUp (l : Loop) : Loop := { l with channelOpen := false }

def cancel (l : Loop) : Loop := { l with cancelled := true }

/-- Publish the instant of a request; an earlier one that was not taken up is forgotten. `false`
means that nobody takes it up any more. -/
def publishMark (l : Loop) : Bool × Loop :=
  if l.ended ∨ ¬ l.mark.alive then (false, l)
  else (true, { l with mark := { l.mark with pending := some l.instant } })

def dropMark (l : Loop) : Loop := { l with mark := { l.mark with alive := false } }

def elapse (l : Loop) (milliseconds : Nat) : Loop := { l with time := l.time + milliseconds }

/-! ## A frame

The first frame of the connection makes the session active, whichever it is; a request that the
caller has published since the last frame is where the delay of the reply is measured from. -/

/-- Take up a request published since the last frame, while its caller is there. -/
def takeMark (l : Loop) : Loop :=
  match l.mark.pending with
  | some sentAt =>
    if l.mark.alive then
      { l with
        mark := { l.mark with pending := none }
        router := l.router.startLatency sentAt }
    else l
  | none => l

/-- Make ready for a frame of the connection. -/
def prepare (l : Loop) : Loop :=
  let router := if l.router.state = .helloSent then l.router.transition .active else l.router
  let router := router.account fun a => { a with framesReceived := a.framesReceived + 1 }
  { l with router }.takeMark

def receive (l : Loop) (d : Disk) (frame : InboundFrame) : Loop × Disk :=
  let l := l.prepare
  let (router, d) := l.router.handle d l.instant frame
  ({ l with router }, d)

/-! ## Rounds

A loop that waits has a deadline, which it got when it began to wait; the frame that it takes ends
the wait. So the idle timeout is not counted from the last frame, but from when the loop had nothing
more to do. -/

/-- What a loop that ends for a reason gives back. -/
def outcomeOf (report : SessionReport) : CloseReason → Except SessionError SessionReport
  | .transportFailed text => .error (.transport text)
  | _ => .ok report

def finish (l : Loop) (reason : CloseReason) : Loop :=
  let router := l.router.close reason
  { l with router, outcome := some (outcomeOf router.report reason), deadline := none }

/-- Begin to wait, unless that has been done: the idle timeout counts from here. -/
def arm (l : Loop) : Loop :=
  match l.deadline with
  | some _ => l
  | none => { l with deadline := some (l.time + l.router.config.idleTimeout) }

/-- Whether the loop has waited for the idle timeout. -/
def expired (l : Loop) : Bool := l.deadline.any fun deadline => deadline ≤ l.time

/-- What a round of the loop comes to. -/
inductive Round where
  /-- The oldest frame is handed to the router. -/
  | take (frame : InboundFrame)
  /-- The loop ends. -/
  | stop (reason : CloseReason)
  /-- There is nothing to do. -/
  | wait
  deriving DecidableEq, Repr

/-- What the next round comes to. A cancellation goes before everything that is queued, and what is
queued before the idle timeout. -/
def round (l : Loop) : Round :=
  -- what is queued is not handled any more
  if l.cancelled then .stop .cancelled
  else
    match l.queue with
    | [] =>
      if ¬ l.channelOpen then .stop .transportClosed
      -- only with an empty queue: a frame that is there is handled, however late
      else if l.expired then .stop .idleTimeout
      else .wait
    | frame :: _ =>
      match frame.closeReason? with
      | some reason => .stop reason
      | none => .take frame

/-- Go through one round. The round after a frame begins a wait of its own. -/
def poll (l : Loop) (d : Disk) : Loop × Disk :=
  if l.ended then (l, d)
  else
    let l := l.arm
    match l.round with
    | .take frame => { l with queue := l.queue.tail, deadline := none }.receive d frame
    | .stop reason => (l.finish reason, d)
    | .wait => (l, d)

/-! ## Settling and sleeping -/

def polls : Nat → Loop → Disk → Loop × Disk
  | 0, l, d => (l, d)
  | n + 1, l, d =>
    let (l, d) := l.poll d
    polls n l d

/-- Run the loop until it has to wait: one round for every frame that is queued, and one to wait. -/
def settle (l : Loop) (d : Disk) : Loop × Disk := polls (l.queue.length + 1) l d

/-- Let time pass while the loop runs. What is already there is handled before time moves. -/
def sleep (l : Loop) (d : Disk) (milliseconds : Nat) : Loop × Disk :=
  let (l, d) := l.settle d
  (l.elapse milliseconds).settle d

end Loop

end VoiceLink
