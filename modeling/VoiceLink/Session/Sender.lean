import VoiceLink.Audio.Codec
import VoiceLink.Audio.Recording
import VoiceLink.Message.Client
import VoiceLink.Transport.Channel

/-!
# The control sender

Control messages go out as one text frame each, recordings as one binary frame per packet. A
recording is read, checked and encoded as a whole before its first packet is sent.

`ControlSender` says what is sent and in which order; over what it goes is a parameter of `stream`.
A session sends over its channel and lets its receive loop run in the pauses, while a line of its
own (`SenderLine`) only counts them.
-/

namespace VoiceLink

/-- Who sends, and audio of which format. -/
structure ControlSender where
  deviceId : String
  audioParams : AudioParams
  deriving DecidableEq, Repr

/-! ## Errors -/

/-- Why a recording was not sent, or not to its end. -/
inductive StreamError where
  | recording (error : RecordingError)
  | wrongFormat (path : String) (rate channels expectedRate expectedChannels : Nat)
  | encoder (error : AudioError)
  | encode (error : EncodeError)
  | frame (index : Nat) (error : SendError)
  | control (error : SendError)
  deriving DecidableEq, Repr

namespace StreamError

/-- A rate and a channel count. -/
def formatText (rate channels : Nat) : String :=
  Numeral.text rate ++ "Hz/" ++ Numeral.text channels ++ "ch"

/-- What went wrong, without its cause. -/
def summary : StreamError → String
  | recording e => e.summary
  | wrongFormat path rate channels expectedRate expectedChannels =>
    path ++ " is " ++ formatText rate channels ++ ", session expects "
      ++ formatText expectedRate expectedChannels
  | encoder e => e.message
  | encode e => e.message
  | frame index _ => "Failed to send audio frame " ++ Numeral.text index
  | control e => (SessionError.send e).message

def cause? : StreamError → Option String
  | recording e => e.cause?
  | frame _ e => some e.message
  | control e => some e.message
  | _ => none

def message (e : StreamError) : String :=
  match e.cause? with
  | some cause => e.summary ++ ": " ++ cause
  | none => e.summary

end StreamError

/-! ## Messages -/

namespace ControlSender

def hello (s : ControlSender) : ClientMessage := .greeting s.deviceId s.audioParams

def listenStart (s : ControlSender) (mode : ListenMode) : ClientMessage :=
  .listen s.deviceId .start (some mode) none

def listenStop (s : ControlSender) (mode : ListenMode) : ClientMessage :=
  .listen s.deviceId .stop (some mode) none

/-- A text that stands for what was said. -/
def listenDetect (s : ControlSender) (text : String) : ClientMessage :=
  .listen s.deviceId .detect none (some text)

def abort (s : ControlSender) (reason : Option String) : ClientMessage := .abort s.deviceId reason

def frame (m : ClientMessage) : OutboundFrame := .text m.text

/-! ## Recordings -/

/-- The packets of a recording in the sender's format. -/
def packets (s : ControlSender) (codec : Codec) (d : Disk) (path : String) :
    Except StreamError (List Packet) :=
  match Recording.load d path with
  | .error e => .error (.recording e)
  | .ok r =>
    let p := s.audioParams
    -- audio is never resampled: another format is an error
    if r.sampleRate ≠ p.sampleRate.toNat ∨ r.channels ≠ p.channels.toNat then
      .error (.wrongFormat r.path r.sampleRate r.channels p.sampleRate.toNat p.channels.toNat)
    else
      match Encoder.create codec p.sampleRate p.channels p.frameDuration with
      | .error e => .error (.encoder e)
      | .ok encoder =>
        match encoder.encodeAll r.samples with
        | (.error e, _) => .error (.encode e)
        | (.ok packets, _) => .ok packets

/-- Send packets one after the other, pausing after each; the number sent, or the first failure. -/
def stream {σ : Type} (send : σ → OutboundFrame → Except SendError Unit × σ) (pause : σ → σ) :
    σ → Nat → List Packet → Except StreamError Nat × σ
  | state, index, [] => (.ok index, state)
  | state, index, packet :: rest =>
    match send state (.binary packet) with
    | (.error e, state) => (.error (.frame index e), state)
    | (.ok (), state) => stream send pause (pause state) (index + 1) rest

end ControlSender

/-! ## A line -/

/-- A sender at work on a channel, with the time it has spent pausing. -/
structure SenderLine where
  sender : ControlSender
  channel : Channel := {}
  time : Nat := 0
  deriving DecidableEq, Repr

namespace SenderLine

def send (l : SenderLine) (frame : OutboundFrame) : Except SendError Unit × SenderLine :=
  let (result, channel) := l.channel.send frame
  (result, { l with channel })

def sendMessage (l : SenderLine) (m : ClientMessage) : Except SendError Unit × SenderLine :=
  l.send (ControlSender.frame m)

/-- Send a recording; with `pace` a frame duration passes after each packet. -/
def streamRecording (l : SenderLine) (codec : Codec) (d : Disk) (path : String) (pace : Bool) :
    Except StreamError Nat × SenderLine :=
  match l.sender.packets codec d path with
  | .error e => (.error e, l)
  | .ok packets =>
    let step := if pace then l.sender.audioParams.frameDuration.toNat else 0
    ControlSender.stream SenderLine.send (fun l => { l with time := l.time + step }) l 0 packets

end SenderLine

end VoiceLink
