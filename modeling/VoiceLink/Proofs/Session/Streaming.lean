import VoiceLink.Proofs.Audio.Framing
import VoiceLink.Proofs.Session.Cancelling
import VoiceLink.Proofs.Session.Outbound
import VoiceLink.Proofs.Session.Stages

/-!
# Calls that stream a recording

A call that streams a recording sends frame by frame, and between two of them anything may happen to
the session: the peer hangs up, a turn is written, time passes. `Streaming` is a session with such a
call, and a log of what the call has sent and when. The call follows its plan, the beginning of
listening, the packets and the end, up to the first send that is refused (`Streaming.Follows`); if
nobody else sends anything, that is what the peer receives (`Streaming.Alone`).

`Session.streamRecording` is a function that takes the whole time at once. What it would mean for
something to happen in the middle of it is what these moves are for.
-/

namespace VoiceLink

namespace Session

/-! ## Calls

A call goes on in stages and sends at most one frame in each. When it is not due yet, going on does
nothing. -/

/-- How far a call that streams a recording has come. -/
inductive Stage where
  /-- It is going to ask the server to listen. -/
  | start
  /-- It is going to read the recording. -/
  | load
  /-- It is going to send what is left of the packets, behind a number of others. -/
  | packets (left : List Packet) (count : Nat)
  | done (result : Except StreamError Nat)

/-- What becomes of a call that has tried to send something. -/
def Stage.after (next : Stage) (fail : SendError → StreamError) : Except SendError Unit → Stage
  | .ok () => next
  | .error e => .done (.error (fail e))

def Stage.ofPackets : Except StreamError (List Packet) → Stage
  | .ok all => .packets all 0
  | .error e => .done (.error e)

/-- A session with a call that streams a recording. -/
structure Streaming where
  watched : Watched
  path : String
  pace : Bool
  stage : Stage := .start
  /-- When the call goes on. -/
  due : Nat
  /-- The disk as it was when the recording was read. -/
  source : Option Disk := none
  /-- What the call has sent, the first in front, and when. -/
  own : List (Nat × Sent) := []

/-- What can happen. -/
inductive Move where
  /-- The call goes on, if it is due. -/
  | go
  /-- Something else happens. -/
  | other (e : Step ⊕ Loop.Step)

def Step.sends : Step → Bool
  | request _ => true
  | direct _ => true
  | stream _ => true
  | streamNext _ => true
  | _ => false

def Move.interferes : Move → Bool
  | go => false
  | other (.inl s) => s.sends
  | other (.inr _) => false

namespace Streaming

def start (w : Watched) (path : String) (pace : Bool) : Streaming :=
  { watched := w, path, pace, due := w.session.loop.time }

variable (c : Streaming)

def time : Nat := c.watched.session.loop.time

def pause : Nat :=
  if c.pace then c.watched.session.config.audioParams.frameDuration.toNat else 0

def gap : Outgoing → Nat
  | .packet _ => c.pause
  | _ => 0

def found : Option (Except StreamError (List Packet)) :=
  c.source.map fun d => c.watched.session.sender.packets c.watched.session.codec d c.path

def log : List Sent := c.own.map Prod.snd

def times : List Nat := c.own.map Prod.fst

/-- The call has sent something, or has failed to. -/
def attempt (o : Outgoing) (made : Except SendError Unit × Watched) (next : Stage)
    (fail : SendError → StreamError) : Streaming :=
  { c with
    watched := made.2, stage := next.after fail made.1, due := c.time + c.gap o
    own := c.own ++ [(c.time, ⟨o, false, made.1⟩)] }

def loaded (packets : Except StreamError (List Packet)) : Streaming :=
  { c with source := some c.watched.disk, stage := .ofPackets packets }

/-- The call goes on from a stage. -/
def advance : Stage → Streaming
  | .start => c.attempt (.request .listenStart) (c.watched.request .listenStart) .load .control
  | .load =>
    c.loaded (c.watched.session.sender.packets c.watched.session.codec c.watched.disk c.path)
  | .packets (p :: left) count =>
    c.attempt (.packet p) (c.watched.sendPacket p) (.packets left (count + 1)) (.frame count)
  | .packets [] count =>
    c.attempt (.request .listenStop) (c.watched.request .listenStop) (.done (.ok count)) .control
  | .done _ => c

def go : Streaming := if c.time < c.due then c else c.advance c.stage

def step : Move → Streaming
  | .go => c.go
  | .other e => { c with watched := c.watched.happen e }

def run (moves : List Move) : Streaming := moves.foldl step c

@[simp]
theorem run_concat (moves : List Move) (m : Move) :
    c.run (moves ++ [m]) = (c.run moves).step m := by
  simp [run]

/-! ## What a move can be

The inversion of moves. `Turn` has the one thing that differs from stage to stage. -/

/-- What a call does next where it sends something: what that is, how the call goes on then, and
what the error is if it cannot. -/
inductive Turn : Stage → Outgoing → Stage → (SendError → StreamError) → Prop where
  | start : Turn .start (.request .listenStart) .load .control
  | packet (p : Packet) (left : List Packet) (count : Nat) :
      Turn (.packets (p :: left) count) (.packet p) (.packets left (count + 1)) (.frame count)
  | stop (count : Nat) :
      Turn (.packets [] count) (.request .listenStop) (.done (.ok count)) .control

/-- What can be seen after a move: nothing has happened, the call has tried to send something, it
has read the recording, or something else has happened. -/
inductive Moved : Move → Streaming → Prop where
  | idle : Moved .go c
  | tried (o : Outgoing) (next : Stage) (fail : SendError → StreamError)
      (turn : Turn c.stage o next fail) (ready : c.due ≤ c.time) (result : Except SendError Unit)
      (s : Session) (sends : c.watched.session.Sends (o.frame c.watched.session.config) result s)
      (cancelled : s.loop.cancelled = (c.watched.session.loop.cancelled || !result.isOk)) :
      Moved .go (c.attempt o
        (result, { c.watched with session := s, sent := c.watched.sent ++ [⟨o, false, result⟩] })
        next fail)
  | read (stage : c.stage = .load) (ready : c.due ≤ c.time) :
      Moved .go (c.loaded
        (c.watched.session.sender.packets c.watched.session.codec c.watched.disk c.path))
  | other (e : Step ⊕ Loop.Step) : Moved (.other e) { c with watched := c.watched.happen e }

theorem moved_request (q : Request) {next : Stage} {fail : SendError → StreamError}
    (turn : Turn c.stage (.request q) next fail) (ready : c.due ≤ c.time) :
    c.Moved .go (c.attempt (.request q) (c.watched.request q) next fail) := by
  obtain ⟨sends, cancelled⟩ := c.watched.session.ask_sends q
  exact .tried _ _ _ turn ready _ _ sends cancelled

theorem moved_packet (p : Packet) {next : Stage} {fail : SendError → StreamError}
    (turn : Turn c.stage (.packet p) next fail) (ready : c.due ≤ c.time) :
    c.Moved .go (c.attempt (.packet p) (c.watched.sendPacket p) next fail) := by
  obtain ⟨sends, cancelled⟩ := c.watched.session.sendPacket_sends p
  exact .tried _ _ _ turn ready _ _ sends cancelled

/-- Every move is one of these. -/
theorem moved (m : Move) : c.Moved m (c.step m) := by
  cases m with
  | other e => exact .other e
  | go =>
      simp only [step, go]
      split
      · exact .idle
      · next late =>
        have ready : c.due ≤ c.time := Nat.le_of_not_lt late
        unfold advance
        split
        · next stage => exact c.moved_request .listenStart (stage ▸ .start) ready
        · next stage => exact .read stage ready
        · next p left count stage => exact c.moved_packet p (stage ▸ .packet p left count) ready
        · next count stage => exact c.moved_request .listenStop (stage ▸ .stop count) ready
        · exact .idle

variable {c} {c' : Streaming} {w : Watched} {m : Move}

@[simp]
theorem log_attempt (o : Outgoing) (made : Except SendError Unit × Watched) (next : Stage)
    (fail : SendError → StreamError) :
    (c.attempt o made next fail).log = c.log ++ [⟨o, false, made.1⟩] :=
  List.map_append

theorem happen_eq (w : Watched) (e : Step ⊕ Loop.Step) :
    (w.happen e).session.config = w.session.config ∧
      (w.happen e).session.codec = w.session.codec := by
  cases e with
  | inr s => exact ⟨rfl, rfl⟩
  | inl s =>
      have stepped := w.stepped s
      show (w.step s).session.config = _ ∧ (w.step s).session.codec = _
      generalize w.step s = w' at stepped ⊢
      cases stepped with
      | sent x s streams sends => exact ⟨sends.beside.config_eq, sends.beside.codec_eq⟩
      | quiet s beside => exact ⟨beside.config_eq, beside.codec_eq⟩
      | loop e => exact ⟨rfl, rfl⟩

/-- What a call is about, which nothing changes. -/
structure Same (c c' : Streaming) : Prop where
  config_eq : c'.watched.session.config = c.watched.session.config
  codec_eq : c'.watched.session.codec = c.watched.session.codec
  path_eq : c'.path = c.path
  pace_eq : c'.pace = c.pace

theorem Moved.same (h : c.Moved m c') : c.Same c' := by
  cases h with
  | idle => exact ⟨rfl, rfl, rfl, rfl⟩
  | tried o next fail turn ready result s sends =>
      exact ⟨sends.beside.config_eq, sends.beside.codec_eq, rfl, rfl⟩
  | read => exact ⟨rfl, rfl, rfl, rfl⟩
  | other e =>
      obtain ⟨config, codec⟩ := happen_eq c.watched e
      exact ⟨config, codec, rfl, rfl⟩

theorem run_same (c : Streaming) (moves : List Move) : c.Same (c.run moves) := by
  induction moves using List.reverseRecOn with
  | nil => exact ⟨rfl, rfl, rfl, rfl⟩
  | append_singleton moves m ih =>
      have same := ((c.run moves).moved m).same
      rw [run_concat]
      exact ⟨same.config_eq.trans ih.config_eq, same.codec_eq.trans ih.codec_eq,
        same.path_eq.trans ih.path_eq, same.pace_eq.trans ih.pace_eq⟩

/-- What the recording was read as depends on the disk it was found on, and on nothing else that
changes. -/
theorem Same.found_eq_map (h : c.Same c') :
    c'.found = c'.source.map fun d =>
      c.watched.session.sender.packets c.watched.session.codec d c.path := by
  simp only [found, sender, h.config_eq, h.codec_eq, h.path_eq]

/-- A recording that has been read stays what it was read as. -/
theorem Same.found_eq (h : c.Same c') (source : c'.source = c.source) : c'.found = c.found := by
  rw [h.found_eq_map, source, found]

/-! ## Following the plan

The log decides where a call is, and the other way round. A call whose send was refused has ended,
and its log ends with that send. -/

/-- What a call has sent when it has come to a stage, by what the recording was read as. -/
inductive Reached : Option (Except StreamError (List Packet)) → List Sent → Stage → Prop where
  | start : Reached none [] .start
  | load : Reached none [.made (.request .listenStart)] .load
  | packets (all before left : List Packet) (h : all = before ++ left) :
      Reached (some (.ok all))
        (.made (.request .listenStart) :: before.map fun packet => .made (.packet packet))
        (.packets left before.length)
  | refused (e : SendError) :
      Reached none [.failed (.request .listenStart) e] (.done (.error (.control e)))
  | done (packets : Except StreamError (List Packet)) (result : Except StreamError Nat)
      (log : List Sent) (h : Watched.Streamed packets result log)
      (begun : log.head? = some (.made (.request .listenStart))) :
      Reached (some packets) log (.done result)

variable {found : Option (Except StreamError (List Packet))} {log : List Sent} {stage : Stage}

/-- Where a call may come next, by what comes of a send. -/
theorem Reached.try {next : Stage} {o : Outgoing} {fail : SendError → StreamError}
    (h : Reached found log stage) (turn : Turn stage o next fail)
    (result : Except SendError Unit) :
    Reached found (log ++ [⟨o, false, result⟩]) (next.after fail result) := by
  cases turn with
  | start =>
      cases h with
      | start =>
          cases result with
          | ok u => exact .load
          | error e => exact .refused e
  | packet p left count =>
      cases h with
      | packets all before left h =>
          cases result with
          | ok u =>
              -- one packet has changed sides
              have sent := Reached.packets all (before ++ [p]) left (by simp [h])
              rw [List.map_append, List.length_append] at sent
              exact sent
          | error e => exact .done _ _ _ (.cut before p left e (congrArg Except.ok h)) rfl
  | stop count =>
      cases h with
      | packets all before left h =>
          rw [List.append_nil] at h
          subst h
          cases result with
          | ok u => exact .done _ _ _ (.whole all rfl) rfl
          | error e => exact .done _ _ _ (.unended all e rfl) rfl

theorem Reached.log_start (h : Reached found log .start) : log = [] := by
  cases h with
  | start => rfl

theorem Reached.log_load (h : Reached found log .load) :
    found = none ∧ log = [.made (.request .listenStart)] := by
  cases h with
  | load => exact ⟨rfl, rfl⟩

/-- Behind the beginning of listening there is a send for every packet. -/
theorem Reached.length_packets {left : List Packet} {count : Nat}
    (h : Reached found log (.packets left count)) : log.length = count + 1 := by
  cases h with
  | packets all before left h => rw [List.length_cons, List.length_map]

/-- What a call with these packets is going to send. -/
def sends (packets : List Packet) : List Outgoing :=
  .request .listenStart :: packets.map .packet ++ [.request .listenStop]

theorem accepted_of_mem_made {before : List Outgoing} {x : Sent} (h : x ∈ before.map Sent.made) :
    x.accepted = true := by
  obtain ⟨o, -, rfl⟩ := List.mem_map.1 h
  rfl

/-- A call whose send was refused has come to an end, and sent what was to be sent before. -/
theorem Reached.refusal (h : Reached found log stage) {x : Sent} (mem : x ∈ log)
    (refused : x.accepted = false) :
    ∃ packets before o rest e, sends packets = before ++ o :: rest ∧
      log = before.map .made ++ [.failed o e] ∧ (before ≠ [] → found = some (.ok packets)) ∧
      ∃ e', stage = .done (.error e') := by
  have made (before : List Outgoing) (mem : x ∈ before.map Sent.made) : False := by
    rw [accepted_of_mem_made mem] at refused
    cases refused
  cases h with
  | start => cases mem
  | load => exact (made [_] mem).elim
  | packets all before left h =>
      exact (made (.request .listenStart :: before.map .packet) (by simpa using mem)).elim
  | refused e => exact ⟨[], [], _, _, e, rfl, rfl, absurd rfl, _, rfl⟩
  | done packets result log h begun =>
      cases h with
      | refused e => cases begun
      | unusable e h => exact (made [_] mem).elim
      | whole all h => exact (made (sends all) (by simpa [sends] using mem)).elim
      | cut before packet rest e h =>
          exact ⟨before ++ packet :: rest, .request .listenStart :: before.map .packet,
            .packet packet, rest.map .packet ++ [.request .listenStop], e, by simp [sends], by simp,
            fun _ => congrArg some h, _, rfl⟩
      | unended all e h =>
          exact ⟨all, .request .listenStart :: all.map .packet, .request .listenStop, [], e, rfl,
            by simp, fun _ => congrArg some h, _, rfl⟩

/-- A call that comes back with success has sent everything. -/
theorem Reached.whole {count : Nat} (h : Reached found log (.done (.ok count))) :
    ∃ packets, found = some (.ok packets) ∧ packets.length = count ∧
      log = (sends packets).map .made := by
  cases h with
  | done packets result log h begun =>
      cases h with
      | whole all h => exact ⟨all, congrArg some h, rfl, by simp [sends]⟩

/-- A recording that cannot be used ends the call behind the beginning of listening. -/
theorem Reached.unusable {e : StreamError} (h : Reached (some (.error e)) log stage) :
    log = [.made (.request .listenStart)] ∧ stage = .done (.error e) := by
  cases h with
  | done packets result log h begun =>
      cases h with
      | refused e => cases begun
      | unusable e h =>
          cases h
          exact ⟨rfl, rfl⟩
      | cut before packet rest e h => cases h
      | unended all e h => cases h
      | whole all h => cases h

/-- A call follows its plan: it has sent what it should have sent to be where it is, and if a send
has failed, it has cancelled the session. -/
structure Follows (c : Streaming) : Prop where
  reached : Reached c.found c.log c.stage
  cancelled : c.log.any Sent.isSessionFailure = true → c.watched.session.loop.cancelled = true

theorem start_follows (w : Watched) (path : String) (pace : Bool) :
    (start w path pace).Follows where
  reached := .start
  cancelled := nofun

/-- What is cancelled stays so. -/
theorem cancelled_happen (h : w.session.loop.cancelled = true) (e : Step ⊕ Loop.Step) :
    (w.happen e).session.loop.cancelled = true := by
  cases e with
  | inl s => exact (Watched.still_step h s).idle.cancelled
  | inr s => exact (Loop.Watched.idle_step (w := w.view) h s).1.cancelled

theorem Moved.follows (h : c.Moved m c') (hc : c.Follows) : c'.Follows := by
  have same := h.same
  cases h with
  | idle => exact hc
  | other e =>
      refine ⟨?_, fun failed => cancelled_happen (hc.cancelled failed) e⟩
      rw [same.found_eq rfl]
      exact hc.reached
  | tried o next fail turn ready result s sends cancelled =>
      refine ⟨?_, fun failed => ?_⟩
      · rw [same.found_eq rfl, log_attempt]
        exact hc.reached.try turn result
      · show s.loop.cancelled = true
        rw [cancelled, Bool.or_eq_true]
        rw [log_attempt, List.any_append, Bool.or_eq_true] at failed
        refine failed.imp hc.cancelled fun now => ?_
        simpa [Sent.isSessionFailure] using now
  | read stage =>
      refine ⟨?_, fun failed => ?_⟩
      · obtain ⟨-, begun⟩ := Reached.log_load (stage ▸ hc.reached)
        -- the recording is read from the disk of this moment, and stays what it was read as
        generalize read : c.watched.session.sender.packets c.watched.session.codec c.watched.disk
          c.path = packets
        have found : (c.loaded packets).found = some packets := congrArg some read
        have log : (c.loaded packets).log = c.log := rfl
        rw [found, log, begun]
        cases packets with
        | ok packets => exact .packets packets [] packets rfl
        | error e => exact .done _ _ _ (.unusable e rfl) rfl
      · exact hc.cancelled failed

theorem run_follows (hc : c.Follows) (moves : List Move) : (c.run moves).Follows := by
  induction moves using List.reverseRecOn with
  | nil => exact hc
  | append_singleton moves m ih =>
      rw [run_concat]
      exact ((c.run moves).moved m).follows ih

/-! ## What the peer receives

As long as nobody interferes, what the peer has received is the log of the call, without the send
that was refused. -/

/-- The peer has received what the call has sent, and nothing else since. -/
def Alone (accepted : List OutboundFrame) (c : Streaming) : Prop :=
  c.watched.session.channel.accepted = accepted ++
    (c.log.filter Sent.accepted).map fun x => x.outgoing.frame c.watched.session.config

theorem start_alone (w : Watched) (path : String) (pace : Bool) :
    (start w path pace).Alone w.session.channel.accepted :=
  (List.append_nil _).symm

/-- A step that sends nothing leaves alone what the peer has received. -/
theorem accepted_happen (w : Watched) {e : Step ⊕ Loop.Step}
    (quiet : (Move.other e).interferes = false) :
    (w.happen e).session.channel.accepted = w.session.channel.accepted := by
  cases e with
  | inr s => rfl
  | inl s =>
      cases s with
      | takeEvents =>
          obtain ⟨-, channel, -⟩ := takeEvents_beside (s := w.session) w.session.pending
          exact congrArg Channel.accepted channel
      | request q => cases quiet
      | direct o => cases quiet
      | stream path => cases quiet
      | streamNext i => cases quiet
      | _ => rfl

theorem Moved.alone {accepted : List OutboundFrame} (h : c.Moved m c') (hc : c.Alone accepted)
    (quiet : m.interferes = false) : c'.Alone accepted := by
  have same := h.same
  unfold Alone at hc ⊢
  rw [same.config_eq]
  cases h with
  | idle => exact hc
  | other e => exact (accepted_happen c.watched quiet).trans hc
  | read => exact hc
  | tried o next fail turn ready result s sends cancelled =>
      show s.channel.accepted = _
      rw [sends.channel_eq, Channel.send_accepted, ← sends.result_eq, hc, log_attempt]
      cases accepted : result.isOk <;> simp [Sent.accepted, accepted]

theorem run_alone {accepted : List OutboundFrame} (hc : c.Alone accepted) {moves : List Move}
    (quiet : ∀ m ∈ moves, m.interferes = false) : (c.run moves).Alone accepted := by
  induction moves using List.reverseRecOn with
  | nil => exact hc
  | append_singleton moves m ih =>
      rw [run_concat]
      have before := ih fun m hm => quiet m (List.mem_append_left _ hm)
      exact ((c.run moves).moved m).alone before (quiet m (by simp))

end Streaming

end Session

end VoiceLink
