import VoiceLink.Proofs.Session.Streaming

/-!
# The course of a recording

A call that streams a recording does not send anything before its time (`Streaming.Timely`).
Streaming a recording without interference is one of its runs (`Streaming.exists_run`).
`Session.streamRecording_course` puts together what the peer receives, and when.

Two runs of one call are looked at. In the one that `streamRecording` makes nobody else does
anything, and time passes only while the call waits; so it is exactly on time. In any other run the
call may be late, and what it sends after that is late as well, but never early.
-/

namespace VoiceLink

namespace Session

namespace Streaming

variable {c c' : Streaming} {m : Move}

/-! ## In time

Times are compared with the first packet. A send is due a pause after the one before it, and it is
that which the call keeps to. -/

/-- Whether something happens when it should; where nobody is late, it does so exactly. -/
def OnTime (exact : Prop) (planned actual : Nat) : Prop :=
  planned ≤ actual ∧ (exact → actual = planned)

/-- Behind the beginning of listening, everything has been sent a pause after what was before it. -/
def Paced (exact : Prop) (pause : Nat) (times : List Nat) : Prop :=
  ∀ first ∈ times[1]?, ∀ i, ∀ t ∈ times[i + 1]?, OnTime exact (first + i * pause) t

variable {exact : Prop} {pause : Nat} {times : List Nat}

theorem OnTime.refl (t : Nat) : OnTime exact t t := ⟨Nat.le_refl t, fun _ => rfl⟩

theorem OnTime.trans {t t' t'' : Nat} (h : OnTime exact t t') (h' : OnTime exact t' t'') :
    OnTime exact t t'' :=
  ⟨Nat.le_trans h.1 h'.1, fun sure => (h'.2 sure).trans (h.2 sure)⟩

/-- One more send in time; if it is the first behind the beginning of listening, it is the one to
count from. -/
theorem Paced.concat (h : Paced exact pause times) {count now : Nat}
    (length : times.length = count + 1)
    (next : ∀ first ∈ times[1]?, OnTime exact (first + count * pause) now) :
    Paced exact pause (times ++ [now]) ∧
      ∀ first ∈ (times ++ [now])[1]?, OnTime exact (first + count * pause) now := by
  have last : ∀ first ∈ (times ++ [now])[1]?, OnTime exact (first + count * pause) now := by
    intro first found
    cases count with
    | zero =>
        rw [List.getElem?_append_right (Nat.le_of_eq length), length] at found
        cases found
        rw [Nat.zero_mul]
        exact .refl _
    | succ count =>
        rw [List.getElem?_append_left (by omega)] at found
        exact next first found
  refine ⟨fun first found i t ht => ?_, last⟩
  rcases Nat.lt_trichotomy (i + 1) times.length with earlier | now' | later
  · rw [List.getElem?_append_left earlier] at ht
    rw [List.getElem?_append_left (by omega)] at found
    exact h first found i t ht
  · rw [List.getElem?_append_right (Nat.le_of_eq now'.symm), now', Nat.sub_self] at ht
    cases ht
    obtain rfl : i = count := by omega
    exact last first found
  · rw [List.getElem?_eq_none (by simpa using later)] at ht
    cases ht

/-- The call is not late: it goes on as soon as it is due. -/
def InTime (c : Streaming) : Prop := (∀ result, c.stage ≠ .done result) → c.time ≤ c.due

/-- The call is never late on the way. -/
def Punctual (c : Streaming) (moves : List Move) : Prop :=
  ∀ before, before <+: moves → (c.run before).InTime

/-- What a call has sent behind the beginning of listening it has sent in time, and so it will the
next. -/
structure Timely (exact : Prop) (c : Streaming) : Prop where
  paced : Paced exact c.pause c.times
  due : ∀ left count, c.stage = .packets left count →
    ∀ first ∈ c.times[1]?, OnTime exact (first + count * c.pause) c.due

theorem Same.pause_eq (h : c.Same c') : c'.pause = c.pause := by
  rw [Streaming.pause, h.pace_eq, h.config_eq, Streaming.pause]

@[simp]
theorem times_attempt (o : Outgoing) (made : Except SendError Unit × Watched) (next : Stage)
    (fail : SendError → StreamError) :
    (c.attempt o made next fail).times = c.times ++ [c.time] :=
  List.map_append

theorem length_times (c : Streaming) : c.times.length = c.log.length := by
  rw [Streaming.times, log, List.length_map, List.length_map]

/-- What a call that is due sends is sent in time. -/
theorem Timely.now (hc : c.Timely exact) (follows : c.Follows) (inTime : exact → c.InTime)
    (ready : c.due ≤ c.time) {left : List Packet} {count : Nat}
    (stage : c.stage = .packets left count) :
    Paced exact c.pause (c.times ++ [c.time]) ∧
      ∀ first ∈ (c.times ++ [c.time])[1]?, OnTime exact (first + count * c.pause) c.time := by
  have reached := follows.reached
  rw [stage] at reached
  have late (sure : exact) : c.time = c.due := by
    refine Nat.le_antisymm (inTime sure fun result done => ?_) ready
    cases stage.symm.trans done
  refine hc.paced.concat (c.length_times.trans reached.length_packets) fun first found => ?_
  exact (hc.due left count stage first found).trans ⟨ready, late⟩

/-- When the recording is read, nothing has been sent behind the beginning of listening. -/
theorem Timely.read (hc : c.Timely exact) (follows : c.Follows) (stage : c.stage = .load)
    (packets : Except StreamError (List Packet)) : (c.loaded packets).Timely exact := by
  obtain ⟨-, begun⟩ := Reached.log_load (stage ▸ follows.reached)
  have length : c.times.length = 1 := c.length_times.trans (congrArg List.length begun)
  refine ⟨hc.paced, fun left count _ first found => ?_⟩
  have nothing : c.times[1]? = none := List.getElem?_eq_none (Nat.le_of_eq length)
  cases nothing.symm.trans found

/-- A send in time; only behind a packet there may be another one, a pause later. -/
theorem Timely.tried (hc : c.Timely exact) (follows : c.Follows) (inTime : exact → c.InTime)
    {o : Outgoing} {next : Stage} {fail : SendError → StreamError} (turn : Turn c.stage o next fail)
    (ready : c.due ≤ c.time) {made : Except SendError Unit × Watched}
    (same : c.Same (c.attempt o made next fail)) : (c.attempt o made next fail).Timely exact := by
  have reached := follows.reached
  generalize stage_eq : c.stage = stage at turn reached
  refine ⟨?_, fun left count stage => ?_⟩
  · rw [same.pause_eq, times_attempt]
    cases turn with
    | start =>
        -- the beginning of listening is not counted from
        have nothing : c.times = [] :=
          congrArg (List.map Prod.fst) (List.map_eq_nil_iff.1 reached.log_start)
        rw [nothing]
        exact nofun
    | packet p left count => exact (hc.now follows inTime ready stage_eq).1
    | stop count => exact (hc.now follows inTime ready stage_eq).1
  · rw [same.pause_eq, times_attempt]
    change next.after fail made.1 = _ at stage
    generalize made.1 = result at stage
    cases result with
    | error e => cases stage
    | ok u =>
        cases turn with
        | start => cases stage
        | stop count => cases stage
        | packet p left' count' =>
            cases stage
            intro first found
            obtain ⟨planned, sure⟩ := (hc.now follows inTime ready stage_eq).2 first found
            show OnTime exact _ (c.time + c.pause)
            rw [Nat.succ_mul, ← Nat.add_assoc]
            exact ⟨Nat.add_le_add_right planned _, fun h => congrArg (· + c.pause) (sure h)⟩

theorem Moved.timely (h : c.Moved m c') (follows : c.Follows) (hc : c.Timely exact)
    (inTime : exact → c.InTime) : c'.Timely exact := by
  have same := h.same
  cases h with
  | idle => exact hc
  | read stage => exact hc.read follows stage _
  | tried o next fail turn ready => exact hc.tried follows inTime turn ready same
  | other e =>
      refine ⟨?_, fun left count stage => ?_⟩
      · rw [same.pause_eq]
        exact hc.paced
      · rw [same.pause_eq]
        exact hc.due left count stage

theorem start_timely (exact : Prop) (w : Watched) (path : String) (pace : Bool) :
    (start w path pace).Timely exact :=
  ⟨nofun, nofun⟩

/-- A call follows its plan in time, as long as it is not late. -/
theorem run_timely (exact : Prop) (w : Watched) (path : String) (pace : Bool) (moves : List Move)
    (punctual : exact → (start w path pace).Punctual moves) :
    ((start w path pace).run moves).Timely exact := by
  induction moves using List.reverseRecOn with
  | nil => exact start_timely exact w path pace
  | append_singleton moves m ih =>
      have timely := ih fun sure before h => punctual sure before (h.trans (List.prefix_append _ _))
      have follows := run_follows (start_follows w path pace) moves
      rw [run_concat]
      exact (((start w path pace).run moves).moved m).timely follows timely fun sure =>
        punctual sure moves (List.prefix_append _ _)

/-! ## Streaming without interference

The call that takes everything at once is taken apart into moves, part by part, and the parts are
put together again. `InTime` holds at the borders. -/

/-- A call comes from one state to another on its own, and is never late on the way. -/
inductive Leads (c : Streaming) : Streaming → Prop where
  | refl (inTime : c.InTime) : Leads c c
  | step {c' : Streaming} (h : Leads c c') (m : Move) (quiet : m.interferes = false)
      (inTime : (c'.step m).InTime) : Leads c (c'.step m)

theorem Leads.trans {c'' : Streaming} (h : c.Leads c') (h' : c'.Leads c'') : c.Leads c'' := by
  induction h' with
  | refl => exact h
  | step _ m quiet inTime ih => exact ih.step m quiet inTime

theorem Leads.exists_run (h : c.Leads c') :
    ∃ moves, c.run moves = c' ∧ (∀ m ∈ moves, m.interferes = false) ∧ c.Punctual moves := by
  induction h with
  | refl inTime =>
      refine ⟨[], rfl, nofun, fun before h => ?_⟩
      rw [List.prefix_nil.1 h]
      exact inTime
  | step _ m quiet inTime ih =>
      obtain ⟨moves, rfl, quiets, punctual⟩ := ih
      refine ⟨moves ++ [m], c.run_concat moves m, fun m' h => ?_, fun before h => ?_⟩
      · rcases List.mem_append.1 h with h | h
        · exact quiets m' h
        · rw [List.mem_singleton.1 h]
          exact quiet
      · rcases List.prefix_concat_iff.1 h with rfl | h
        · rw [run_concat]
          exact inTime
        · exact punctual before h

theorem Leads.same (h : c.Leads c') : c.Same c' := by
  obtain ⟨moves, rfl, -, -⟩ := h.exists_run
  exact c.run_same moves

/-- Only time that passes makes a call late. -/
theorem inTime_of_eq (hc : c.InTime) (stage : c'.stage = c.stage) (due : c'.due = c.due)
    (time : c'.time = c.time) : c'.InTime := by
  rw [InTime, stage, due, time]
  exact hc

theorem rounds_lead (hc : c.InTime) (n : Nat) :
    c.Leads { c with watched := c.watched.run ((List.replicate n LoopEvent.poll).map .loop) } ∧
      (c.watched.run ((List.replicate n LoopEvent.poll).map .loop)).session.loop.time = c.time := by
  induction n generalizing c with
  | zero => exact ⟨.refl hc, rfl⟩
  | succ n ih =>
      have round := c.watched.view.run_polls 1
      have time : (c.watched.step (.loop .poll)).session.loop.time = c.time :=
        (congrArg (fun p => p.1.time) round).trans (Loop.polls_time 1 _ _)
      have first : (c.step (.other (.inl (.loop .poll)))).InTime := inTime_of_eq hc rfl rfl time
      have leads := (Leads.refl hc).step (.other (.inl (.loop .poll))) rfl first
      obtain ⟨rest, same⟩ := ih first
      exact ⟨leads.trans rest, same.trans time⟩

/-- The receive loop goes on until it has to wait. -/
theorem settle_leads (hc : c.InTime) :
    ∃ w, c.Leads { c with watched := w } ∧
      (w.session, w.disk) = c.watched.session.settle c.watched.disk ∧
      w.session.loop.time = c.time := by
  obtain ⟨leads, time⟩ := rounds_lead hc (c.watched.session.loop.queue.length + 1)
  obtain ⟨session, disk, -, -⟩ := c.watched.run_rounds
  exact ⟨_, leads, Prod.ext session disk, time⟩

/-- Time passes up to the moment when the call is due. -/
theorem sleep_leads {milliseconds : Nat} (due : c.due = c.time + milliseconds) :
    ∃ w, c.Leads { c with watched := w } ∧
      (w.session, w.disk) = c.watched.session.sleep c.watched.disk milliseconds ∧
      w.session.loop.time = c.due := by
  have inTime : c.InTime := fun _ => due ▸ Nat.le_add_right _ _
  obtain ⟨w, settled, same, time⟩ := settle_leads inTime
  let slept : Move := .other (.inl (.loop (.elapse milliseconds)))
  have reached : (({ c with watched := w } : Streaming).step slept).time = c.due := by
    show w.session.loop.time + milliseconds = c.due
    rw [time, due]
  have elapsed : (({ c with watched := w } : Streaming).step slept).InTime :=
    fun _ => Nat.le_of_eq reached
  obtain ⟨w', settled', same', time'⟩ := settle_leads elapsed
  refine ⟨w', (settled.step slept rfl elapsed).trans settled', ?_, time'.trans reached⟩
  rw [same']
  have slept_eq : c.watched.session.sleep c.watched.disk milliseconds =
      Session.settle { w.session with loop := w.session.loop.elapse milliseconds } w.disk := by
    have session : (c.watched.session.settle c.watched.disk).1 = w.session := by rw [← same]
    have disk : (c.watched.session.settle c.watched.disk).2 = w.disk := by rw [← same]
    rw [← session, ← disk]
    rfl
  exact slept_eq.symm

/-- A call that has sent a packet pauses. -/
theorem pause_leads (due : c.due = c.time + c.pause) :
    ∃ w, c.Leads { c with watched := w } ∧
      (w.session, w.disk) =
        Session.pause c.pace c.watched.session.config.audioParams.frameDuration.toNat
          (c.watched.session, c.watched.disk) ∧
      w.session.loop.time = c.due := by
  unfold Streaming.pause at due
  unfold Session.pause
  by_cases paced : c.pace = true
  · rw [if_pos paced] at due ⊢
    exact sleep_leads due
  · rw [if_neg paced] at due ⊢
    exact ⟨c.watched, .refl fun _ => Nat.le_of_eq due.symm, rfl, due.symm⟩

theorem go_of_due (ready : c.due ≤ c.time) : c.go = c.advance c.stage := by
  rw [go, if_neg (Nat.not_lt.2 ready)]

/-- No time passes while a call goes on. -/
theorem time_go (c : Streaming) : (c.step .go).time = c.time := by
  have moved := c.moved .go
  generalize c.step .go = c' at moved ⊢
  cases moved with
  | idle => rfl
  | read => rfl
  | tried o next fail turn ready result s sends =>
      obtain ⟨log, mark, cancelled, loop⟩ := sends.beside.loop_eq
      show s.loop.time = c.watched.session.loop.time
      rw [loop]

/-- A call that is due just now is not late when it has gone on. -/
theorem go_leads (due : c.due = c.time) : c.Leads (c.step .go) := by
  refine (Leads.refl fun _ => Nat.le_of_eq due.symm).step .go rfl fun _ => ?_
  rw [c.time_go]
  have moved := c.moved .go
  generalize c.step .go = c' at moved ⊢
  cases moved with
  | idle => exact Nat.le_of_eq due.symm
  | read => exact Nat.le_of_eq due.symm
  | tried => exact Nat.le_add_right _ _

/-- The call goes on with a request. -/
theorem go_request (due : c.due = c.time) {q : Request} {next : Stage}
    {fail : SendError → StreamError} (turn : Turn c.stage (.request q) next fail) :
    c.Leads (c.step .go) ∧ (c.step .go).watched.session = (c.watched.session.ask q).2 ∧
      (c.step .go).watched.disk = c.watched.disk ∧
      (c.step .go).stage = next.after fail (c.watched.session.ask q).1 ∧
      (c.step .go).due = (c.step .go).time := by
  have goes := go_of_due (Nat.le_of_eq due)
  generalize stage_eq : c.stage = stage at turn goes
  refine ⟨go_leads due, ?_⟩
  rw [c.time_go]
  cases turn with
  | start =>
      rw [step, goes]
      exact ⟨rfl, rfl, rfl, rfl⟩
  | stop count =>
      rw [step, goes]
      exact ⟨rfl, rfl, rfl, rfl⟩

/-- The call goes on with a packet. -/
theorem go_packet (due : c.due = c.time) {packet : Packet} {left : List Packet} {count : Nat}
    (stage : c.stage = .packets (packet :: left) count) :
    c.Leads (c.step .go) ∧
      (c.step .go).watched.session = (c.watched.session.sendPacket packet).2 ∧
      (c.step .go).watched.disk = c.watched.disk ∧
      (c.step .go).stage = Stage.after (.packets left (count + 1)) (.frame count)
        (c.watched.session.sendPacket packet).1 ∧
      (c.step .go).due = (c.step .go).time + (c.step .go).pause := by
  have goes := go_of_due (Nat.le_of_eq due)
  have leads := go_leads due
  refine ⟨leads, ?_⟩
  rw [c.time_go, leads.same.pause_eq, step, goes, stage]
  exact ⟨rfl, rfl, rfl, rfl⟩

/-- The call goes on with the recording. -/
theorem go_read (due : c.due = c.time) (stage : c.stage = .load) :
    c.Leads (c.loaded
      (c.watched.session.sender.packets c.watched.session.codec c.watched.disk c.path)) := by
  have goes := go_of_due (Nat.le_of_eq due)
  have leads := go_leads due
  rw [step, goes, stage] at leads
  exact leads

/-- What a call comes to with its packets: all have been sent, or one was refused. -/
def Spends (c : Streaming) : Except StreamError Nat × Session × Disk → Prop
  | (.ok n, p) => ∃ c', c.Leads c' ∧ c'.stage = .packets [] n ∧ c'.due = c'.time ∧
      (c'.watched.session, c'.watched.disk) = p
  | (.error e, p) => ∃ c', c.Leads c' ∧ c'.stage = .done (.error e) ∧
      (c'.watched.session, c'.watched.disk) = (p.1.terminate, p.2)

theorem Leads.spends (h : c.Leads c') {r : Except StreamError Nat × Session × Disk}
    (h' : c'.Spends r) : c.Spends r := by
  obtain ⟨e | n, p⟩ := r
  · obtain ⟨last, leads, rest⟩ := h'
    exact ⟨last, h.trans leads, rest⟩
  · obtain ⟨last, leads, rest⟩ := h'
    exact ⟨last, h.trans leads, rest⟩

/-- The packets are sent one after the other, up to the first that is refused. -/
theorem spends_packets (left : List Packet) (count : Nat) (stage : c.stage = .packets left count)
    (due : c.due = c.time) {pause : Session × Disk → Session × Disk}
    (pauses : pause =
      Session.pause c.pace c.watched.session.config.audioParams.frameDuration.toNat) :
    c.Spends (ControlSender.stream sendFrame pause (c.watched.session, c.watched.disk) count
      left) := by
  induction left generalizing c count with
  | nil => exact ⟨c, .refl fun _ => Nat.le_of_eq due.symm, stage, due, rfl⟩
  | cons packet left ih =>
      obtain ⟨first, session, disk, stage, wait⟩ := go_packet due stage
      generalize c.step .go = c₁ at first session disk stage wait
      have same := first.same
      simp only [ControlSender.stream, sendFrame]
      cases sent : c.watched.session.send (.binary packet) with
      | mk result s =>
          cases result with
          | error e =>
              have made : c.watched.session.sendPacket packet = (.error e, s.terminate) := by
                simp [Session.sendPacket, sent, Except.isOk, Except.toBool]
              rw [made] at session stage
              exact ⟨c₁, first, stage, Prod.ext session disk⟩
          | ok u =>
              have made : c.watched.session.sendPacket packet = (.ok (), s) := by
                simp [Session.sendPacket, sent, Except.isOk, Except.toBool]
              rw [made] at session stage
              obtain ⟨w, rest, paused, reached⟩ := pause_leads wait
              rw [same.config_eq, same.pace_eq, session, disk, ← pauses] at paused
              -- the packet and the pause behind it, and then the others in the same way
              have onward := first.trans rest
              refine onward.spends ?_
              dsimp only
              rw [← paused]
              apply ih (c := { c₁ with watched := w }) (count + 1) stage reached.symm
              rw [pauses, onward.same.config_eq, onward.same.pace_eq]

def Ends (c : Streaming) (r : Except StreamError Nat × Session × Disk) : Prop :=
  ∃ c', c.Leads c' ∧ (c'.watched.session, c'.watched.disk) = r.2 ∧ c'.stage = .done r.1

theorem Leads.ends (h : c.Leads c') {r : Except StreamError Nat × Session × Disk}
    (h' : c'.Ends r) : c.Ends r := by
  obtain ⟨last, leads, rest⟩ := h'
  exact ⟨last, h.trans leads, rest⟩

/-- Behind the packets there is only the end of listening. -/
theorem ends_stop {count : Nat} (stage : c.stage = .packets [] count) (due : c.due = c.time) :
    c.Ends ((c.watched.session.listenStop.1.mapError StreamError.control).map fun _ => count,
      c.watched.session.listenStop.2, c.watched.disk) := by
  have turn : Turn c.stage (.request .listenStop) (.done (.ok count)) .control := by
    rw [stage]
    exact .stop count
  obtain ⟨stops, session, disk, stage, -⟩ := go_request due turn
  refine ⟨_, stops, Prod.ext session disk, stage.trans ?_⟩
  show _ = Stage.done (((c.watched.session.ask .listenStop).1.mapError StreamError.control).map _)
  generalize (c.watched.session.ask .listenStop).1 = result
  cases result with
  | error e => rfl
  | ok u => rfl

/-- A call that nobody interferes with and that is never late ends as streaming the recording
does. -/
theorem start_ends (w : Watched) (path : String) (pace : Bool) :
    (start w path pace).Ends (w.session.streamRecording w.disk path pace) := by
  obtain ⟨asked, session, disk, stage, due⟩ :=
    go_request (c := start w path pace) rfl (q := .listenStart) .start
  generalize (start w path pace).step .go = c at asked session disk stage due
  have same := asked.same
  unfold streamRecording
  have begun : w.session.listenStart = ((w.session.ask .listenStart).1, c.watched.session) := by
    rw [session]
    rfl
  change c.stage = Stage.after _ _ (w.session.ask .listenStart).1 at stage
  rw [begun]
  generalize (w.session.ask .listenStart).1 = result at stage
  cases result with
  | error e => exact ⟨c, asked, by rw [disk]; rfl, stage⟩
  | ok u =>
      have path_eq : c.path = path := same.path_eq
      have disk_eq : c.watched.disk = w.disk := disk
      have reads := go_read due stage
      rw [path_eq, disk_eq] at reads
      dsimp only
      -- from here on only what the recording was read as matters
      generalize c.watched.session.sender.packets c.watched.session.codec w.disk path = packets
        at reads
      cases packets with
      | error e => exact ⟨_, asked.trans reads, congrArg (Prod.mk _) disk_eq, rfl⟩
      | ok packets =>
          have spends := spends_packets (c := c.loaded (.ok packets)) packets 0 rfl due rfl
          have pace_eq : (c.loaded (.ok packets)).pace = pace := same.pace_eq
          have watched_eq : (c.loaded (.ok packets)).watched = c.watched := rfl
          rw [watched_eq, disk_eq, pace_eq] at spends
          have spends := (asked.trans reads).spends spends
          dsimp only
          generalize ControlSender.stream sendFrame _ _ 0 packets = spent at spends ⊢
          obtain ⟨e | count, s₂, d₂⟩ := spent
          · obtain ⟨last, leads, stage, same⟩ := spends
            exact ⟨last, leads, same, stage⟩
          · obtain ⟨last, leads, stage, due, same⟩ := spends
            obtain ⟨rfl, rfl⟩ := Prod.mk.inj same
            have ends := leads.ends (ends_stop stage due)
            dsimp only
            generalize last.watched.session.listenStop = stops at ends ⊢
            obtain ⟨e | u, s⟩ := stops
            · exact ends
            · exact ends

/-- Streaming a recording is a run of a call that nobody interferes with and that is never late. -/
theorem exists_run (w : Watched) (path : String) (pace : Bool) :
    ∃ moves, (∀ m ∈ moves, m.interferes = false) ∧ (start w path pace).Punctual moves ∧
      let c := (start w path pace).run moves
      (c.watched.session, c.watched.disk) = (w.session.streamRecording w.disk path pace).2 ∧
        c.stage = .done (w.session.streamRecording w.disk path pace).1 := by
  obtain ⟨c, leads, rest⟩ := start_ends w path pace
  obtain ⟨moves, rfl, quiet, punctual⟩ := leads.exists_run
  exact ⟨moves, quiet, punctual, rest⟩

/-! ## The whole course

The plan is a list of frames. What a peer has received is always the beginning of it, and the result
of the call tells how much. -/

/-- The frames that a call with these packets is going to send. -/
def plan (c : SessionConfig) (packets : List Packet) : List OutboundFrame :=
  ControlSender.frame (.listen c.deviceId .start (some c.listenMode) none) ::
    packets.map .binary ++
      [ControlSender.frame (.listen c.deviceId .stop (some c.listenMode) none)]

theorem map_frame_sends (config : SessionConfig) (packets : List Packet) :
    (sends packets).map (Outgoing.frame config) = plan config packets := by
  simp only [sends, plan, List.map_cons, List.map_append, List.map_map, List.map_nil]
  rfl

/-- The frames of sends that were all accepted. -/
theorem frames_made (config : SessionConfig) (before : List Outgoing) :
    ((before.map Sent.made).filter Sent.accepted).map (fun x => x.outgoing.frame config) =
      before.map (Outgoing.frame config) := by
  rw [List.filter_eq_self.2 fun x => accepted_of_mem_made, List.map_map]
  rfl

variable {accepted : List OutboundFrame} {config : SessionConfig}

/-- A call whose send was refused has delivered what was to be sent before. -/
theorem Alone.of_refusal (alone : c.Alone accepted) (follows : c.Follows) {j t : Nat} {x : Sent}
    (at_j : c.own[j]? = some (t, x)) (refused : x.accepted = false) :
    (∃ e, c.stage = .done (.error e)) ∧ ∃ packets, (0 < j → c.found = some (.ok packets)) ∧
      (plan c.watched.session.config packets)[j]? =
        some (x.outgoing.frame c.watched.session.config) ∧
      c.watched.session.channel.accepted =
        accepted ++ (plan c.watched.session.config packets).take j := by
  have at_j : c.log[j]? = some x := by rw [log, List.getElem?_map, at_j]; rfl
  obtain ⟨packets, before, o, rest, e, sends_eq, log_eq, found, ended⟩ :=
    follows.reached.refusal (List.mem_of_getElem? at_j) refused
  -- all sends before the last were accepted
  have last : j = before.length ∧ x = .failed o e := by
    rw [log_eq] at at_j
    rcases Nat.lt_trichotomy j before.length with earlier | same | later
    · rw [List.getElem?_append_left (by simpa using earlier)] at at_j
      rw [accepted_of_mem_made (List.mem_of_getElem? at_j)] at refused
      cases refused
    · rw [List.getElem?_append_right (by simp [same]), List.length_map, same, Nat.sub_self] at at_j
      exact ⟨same, (Option.some.inj at_j).symm⟩
    · rw [List.getElem?_eq_none (by simpa using later)] at at_j
      cases at_j
  obtain ⟨rfl, rfl⟩ := last
  have plan_eq := map_frame_sends c.watched.session.config packets
  rw [sends_eq, List.map_append, List.map_cons] at plan_eq
  refine ⟨ended, packets, fun some => found (List.ne_nil_of_length_pos some), ?_, ?_⟩
  · rw [← plan_eq, List.getElem?_append_right (by simp), List.length_map, Nat.sub_self]
    rfl
  · rw [alone, log_eq, List.filter_append, List.map_append, frames_made, ← plan_eq,
      List.take_left' (List.length_map _)]
    simp [Sent.accepted, Sent.failed, Except.isOk, Except.toBool]

/-- A call that comes back with success has delivered everything. -/
theorem Alone.of_success (alone : c.Alone accepted) (follows : c.Follows) {count : Nat}
    (stage : c.stage = .done (.ok count)) :
    ∃ packets, c.found = some (.ok packets) ∧ packets.length = count ∧
      c.watched.session.channel.accepted =
        accepted ++ plan c.watched.session.config packets ∧
      c.log.map (fun x => x.outgoing.frame c.watched.session.config) =
        plan c.watched.session.config packets := by
  have reached := follows.reached
  rw [stage] at reached
  obtain ⟨packets, found, length, log_eq⟩ := reached.whole
  refine ⟨packets, found, length, ?_, ?_⟩
  · rw [alone, log_eq, frames_made, map_frame_sends]
  · rw [log_eq, List.map_map, ← map_frame_sends]
    rfl

/-- A call that has found a recording it cannot use fails, and has only begun. -/
theorem Alone.of_unusable (alone : c.Alone accepted) (follows : c.Follows) {e : StreamError}
    (found : c.found = some (.error e)) :
    c.stage = .done (.error e) ∧ c.watched.session.channel.accepted = accepted ++
      [(Outgoing.request .listenStart).frame c.watched.session.config] := by
  have reached := follows.reached
  rw [found] at reached
  obtain ⟨log_eq, stage⟩ := reached.unusable
  refine ⟨stage, ?_⟩
  rw [alone, log_eq]
  rfl

/-- Where a call keeps pace, all its packets and the end are on time. -/
theorem Timely.onTime (hc : c.Timely exact) {count : Nat} (length : c.log.length = count + 2) :
    ∃ first, c.times[1]? = some first ∧ ∀ i ≤ count, ∃ t, c.times[i + 1]? = some t ∧
      OnTime exact (first + i * c.pause) t := by
  have length : c.times.length = count + 2 := c.length_times.trans length
  have found (i : Nat) (h : i ≤ count) : ∃ t, c.times[i + 1]? = some t :=
    ⟨_, List.getElem?_eq_getElem (by omega)⟩
  obtain ⟨first, at_one⟩ := found 0 (Nat.zero_le _)
  refine ⟨first, at_one, fun i h => ?_⟩
  obtain ⟨t, ht⟩ := found i h
  exact ⟨t, ht, hc.paced first at_one i t ht⟩

end Streaming

open Streaming (plan OnTime)
open ControlSender (Holds)

/-- **The course of a recording.** Streaming a recording is one run of a call that nobody interferes
with and that is never late. In every run in which nobody else sends anything, whatever else happens
to the session: a call that comes back with success has delivered the beginning of listening, the
packets that hold the recording and the end of listening, and where it keeps pace, the packets and
the end follow the first packet by as many frame durations as there are packets between, or later if
the call was late. When a send is refused the call fails, and what was planned before has been
delivered. When the recording or the format cannot be used the call fails, and nothing but the
beginning of listening has been delivered. -/
theorem streamRecording_course (w : Watched) (path : String) (pace : Bool) :
    let config := w.session.config
    let before := w.session.channel.accepted
    let read (d : Disk) := w.session.sender.packets w.session.codec d path
    let call := Streaming.start w path pace
    (∃ moves, (∀ m ∈ moves, m.interferes = false) ∧ call.Punctual moves ∧
      let c := call.run moves
      (c.watched.session, c.watched.disk) = (w.session.streamRecording w.disk path pace).2 ∧
        c.stage = .done (w.session.streamRecording w.disk path pace).1) ∧
    ∀ moves, (∀ m ∈ moves, m.interferes = false) →
      let c := call.run moves
      let received := c.watched.session.channel.accepted
      (∀ n, c.stage = .done (.ok n) → ∃ d r packets, c.source = some d ∧
        Recording.load d path = .ok r ∧ read d = .ok packets ∧
        Holds config.audioParams r packets ∧ packets.length = n ∧
        received = before ++ plan config packets ∧
        c.log.map (fun x => x.outgoing.frame config) = plan config packets ∧
        (pace = true → ∃ first, c.times[1]? = some first ∧ ∀ i ≤ n, ∃ t, c.times[i + 1]? = some t ∧
          OnTime (call.Punctual moves) (first + i * config.audioParams.frameDuration.toNat) t)) ∧
      (∀ j t x, c.own[j]? = some (t, x) → x.accepted = false →
        (∃ e, c.stage = .done (.error e)) ∧
          ∃ packets, (0 < j → ∃ d, c.source = some d ∧ read d = .ok packets) ∧
            (plan config packets)[j]? = some (x.outgoing.frame config) ∧
            received = before ++ (plan config packets).take j) ∧
      ∀ d, c.source = some d → w.session.sender.Refuses w.session.codec d path →
        (∃ e, c.stage = .done (.error e)) ∧
          received = before ++
            [ControlSender.frame
              (.listen config.deviceId .start (some config.listenMode) none)] := by
  intro config before read call
  refine ⟨Streaming.exists_run w path pace, fun moves quiet => ?_⟩
  intro c received
  have same : call.Same c := call.run_same moves
  have follows : c.Follows := Streaming.run_follows (Streaming.start_follows w path pace) moves
  have alone : c.Alone before :=
    Streaming.run_alone (Streaming.start_alone w path pace) quiet
  have found : c.found = c.source.map read := same.found_eq_map
  have config_eq : c.watched.session.config = config := same.config_eq
  refine ⟨fun n stage => ?_, fun j t x at_j refused => ?_, fun d source refuses => ?_⟩
  · obtain ⟨packets, some, length, delivered, sent⟩ := alone.of_success follows stage
    rw [config_eq] at delivered sent
    obtain ⟨d, source, ok⟩ := Option.map_eq_some_iff.1 (found.symm.trans some)
    obtain ⟨r, loaded, holds⟩ := ControlSender.packets_eq_ok ok
    refine ⟨d, r, packets, source, loaded, ok, holds, length, delivered, sent, fun paced => ?_⟩
    have timely := Streaming.run_timely (call.Punctual moves) w path pace moves id
    have pause_eq : c.pause = config.audioParams.frameDuration.toNat :=
      same.pause_eq.trans (if_pos paced)
    rw [← pause_eq]
    refine timely.onTime ?_
    -- everything was sent, so there are as many times as frames in the plan
    have lengths := congrArg List.length sent
    simpa [plan, length] using lengths
  · obtain ⟨ended, packets, some, planned, delivered⟩ := alone.of_refusal follows at_j refused
    rw [config_eq] at planned delivered
    refine ⟨ended, packets, fun pos => ?_, planned, delivered⟩
    exact Option.map_eq_some_iff.1 (found.symm.trans (some pos))
  · obtain ⟨e, unusable⟩ := ControlSender.packets_eq_error.2 refuses
    have unusable : c.found = some (.error e) := by
      rw [found, source, Option.map_some]
      exact congrArg some unusable
    obtain ⟨stage, delivered⟩ := alone.of_unusable follows unusable
    rw [config_eq] at delivered
    exact ⟨⟨e, stage⟩, delivered⟩

/-- Two samples go out in one packet, and the end follows 60 milliseconds later; when the peer has
hung up nothing goes out, and without a recording there is only the beginning of listening. -/
theorem streamRecording_course_two_samples :
    let d := (Disk.writeWave { tree := .empty, cwd := [] } "a.wav" [1, 0, 2, 0] 16000 1).2
    ∃ s, Session.start .silent {} {} 0 = .ok s ∧
      let w := Watched.start s d
      let received (c : Streaming) := c.watched.session.channel.accepted
      let begins := (Outgoing.request .listenStart).frame {}
      (∃ moves packet first,
        let c := (Streaming.start w "a.wav" true).run moves
        c.stage = .done (.ok 1) ∧
          received c = s.channel.accepted ++
            [begins, .binary packet, (Outgoing.request .listenStop).frame {}] ∧
          c.times[1]? = some first ∧ c.times[2]? = some (first + 60)) ∧
        received ((Streaming.start w "a.wav" true).run [.other (.inl .peerHangUp), .go]) =
          s.channel.accepted ∧
        received ((Streaming.start w "b.wav" true).run [.go, .go]) =
          s.channel.accepted ++ [begins] := by
  intro d
  have started : ∃ s, Session.start .silent {} {} 0 = .ok s := ⟨_, rfl⟩
  obtain ⟨s, started⟩ := started
  refine ⟨s, started, ?_⟩
  intro w received begins
  have config : s.config = {} := (start_eq_ok started).2.1
  refine ⟨?_, ?_, ?_⟩
  · obtain ⟨⟨moves, quiet, punctual, -, stage⟩, course⟩ := streamRecording_course w "a.wav" true
    have sent : (w.session.streamRecording w.disk "a.wav" true).1.toOption = some 1 := by
      cases started
      decide +kernel
    have stage : ((Streaming.start w "a.wav" true).run moves).stage = .done (.ok 1) := by
      rw [stage]
      generalize (w.session.streamRecording w.disk "a.wav" true).1 = result at sent
      cases result with
      | error e => cases sent
      | ok n =>
          cases sent
          rfl
    obtain ⟨whole, -, -⟩ := course moves quiet
    obtain ⟨-, -, packets, -, -, -, -, length, delivered, -, paced⟩ := whole 1 stage
    obtain ⟨packet, rfl⟩ := List.length_eq_one_iff.1 length
    obtain ⟨first, at_first, onTime⟩ := paced rfl
    obtain ⟨t, at_last, -, exact⟩ := onTime 1 (Nat.le_refl 1)
    have config : w.session.config = {} := config
    rw [exact punctual, config] at at_last
    rw [config] at delivered
    exact ⟨moves, packet, first, stage, delivered, at_first, at_last⟩
  · obtain ⟨-, course⟩ := streamRecording_course w "a.wav" true
    obtain ⟨-, refused, -⟩ := course [.other (.inl .peerHangUp), .go] (by decide)
    have at_zero : ((Streaming.start w "a.wav" true).run
        [.other (.inl .peerHangUp), .go]).own[0]? =
          some (0, .failed (.request .listenStart) .closed) := by
      cases started
      rfl
    obtain ⟨-, packets, -, -, delivered⟩ := refused 0 _ _ at_zero rfl
    exact delivered.trans (List.append_nil _)
  · obtain ⟨-, course⟩ := streamRecording_course w "b.wav" true
    obtain ⟨-, -, unusable⟩ := course [.go, .go] (by decide)
    have missing : (Recording.load d "b.wav").isOk = false := by decide +kernel
    have refuses : w.session.sender.Refuses w.session.codec d "b.wav" := by
      refine .inl ?_
      generalize Recording.load d "b.wav" = loaded at missing
      cases loaded with
      | error e => exact ⟨e, rfl⟩
      | ok r => cases missing
    have source : ((Streaming.start w "b.wav" true).run [.go, .go]).source = some d := by
      cases started
      rfl
    obtain ⟨-, delivered⟩ := unusable d source refuses
    have config : w.session.config = {} := config
    rw [config] at delivered
    exact delivered

end Session

end VoiceLink
