import VoiceLink.Session.State
import VoiceLink.Settings.Convert

/-!
# The settings of the client

Three sections: the server, the audio and the timing. Every field has a default, and each is read on
its own, so an empty tree gives the defaults and a tree with one field changes that one.

The fields of a section are read in the order of their declaration, and the first that cannot be
read is reported. A section may also be a sequence; then its fields go by position.
-/

namespace VoiceLink

/-! ## Settings -/

/-- The identifier of this client. -/
inductive ClientId where
  /-- A fresh random identifier, drawn anew each time settings are loaded. -/
  | fresh
  | given (text : String)
  deriving DecidableEq, Repr

def ClientId.text (drawn : String) : ClientId → String
  | fresh => drawn
  | given text => text

/-- Where the server is and who asks. -/
structure ServerSettings where
  url : String := "ws://localhost:8989/xiaozhi/v1/"
  deviceId : String := "test-device-001"
  clientId : ClientId := .fresh
  /-- Sent along when connecting, if there is one. -/
  token : Option String := none
  deriving DecidableEq, Repr

/-- The audio formats, and what is kept of the server's audio. -/
structure AudioSettings where
  sampleRate : UInt32 := 16000
  channels : UInt16 := 1
  /-- In milliseconds. -/
  frameDuration : UInt32 := 60
  outputSampleRate : UInt32 := 24000
  outputChannels : UInt16 := 1
  outputDir : String := "recordings"
  dumpRawOpus : Bool := false
  listenMode : ListenMode := .manual
  deriving DecidableEq, Repr

/-- How long things may take. -/
structure TimingSettings where
  /-- Seconds without a frame after which a session ends. -/
  idleTimeout : UInt64 := 30
  /-- Milliseconds between the greeting and the first request. -/
  helloSettle : UInt64 := 1000
  /-- Seconds that an answer is waited for. -/
  responseTimeout : UInt64 := 30
  deriving DecidableEq, Repr

/-- All settings of the client. -/
structure ClientSettings where
  server : ServerSettings := {}
  audio : AudioSettings := {}
  timing : TimingSettings := {}
  deriving DecidableEq, Repr

/-! ## Reading the sections -/

namespace ServerSettings

def ofSection (s : SettingsSection) : Except SettingsFault ServerSettings := do
  let d : ServerSettings := {}
  let url ← s.field 0 "url" Setting.toText d.url
  let deviceId ← s.field 1 "device_id" Setting.toText d.deviceId
  let clientId ← s.field 2 "client_id" (fun v => return .given (← v.toText)) d.clientId
  let token ← s.field 3 "token" (Setting.toOption Setting.toText) d.token
  return { url, deviceId, clientId, token }

def ofSetting : Conversion ServerSettings := fun v => do
  ofSection (← SettingsSection.ofSetting "struct ServerConfig" v)

end ServerSettings

namespace AudioSettings

def ofSection (s : SettingsSection) : Except SettingsFault AudioSettings := do
  let d : AudioSettings := {}
  let sampleRate ← s.field 0 "sample_rate" Setting.toUInt32 d.sampleRate
  let channels ← s.field 1 "channels" Setting.toUInt16 d.channels
  let frameDuration ← s.field 2 "frame_duration_ms" Setting.toUInt32 d.frameDuration
  let outputSampleRate ← s.field 3 "output_sample_rate" Setting.toUInt32 d.outputSampleRate
  let outputChannels ← s.field 4 "output_channels" Setting.toUInt16 d.outputChannels
  let outputDir ← s.field 5 "output_dir" Setting.toText d.outputDir
  let dumpRawOpus ← s.field 6 "dump_raw_opus" Setting.toBool d.dumpRawOpus
  let listenMode ← s.field 7 "listen_mode" Setting.toListenMode d.listenMode
  return { sampleRate, channels, frameDuration, outputSampleRate, outputChannels, outputDir,
           dumpRawOpus, listenMode }

def ofSetting : Conversion AudioSettings := fun v => do
  ofSection (← SettingsSection.ofSetting "struct AudioConfig" v)

end AudioSettings

namespace TimingSettings

def ofSection (s : SettingsSection) : Except SettingsFault TimingSettings := do
  let d : TimingSettings := {}
  let idleTimeout ← s.field 0 "idle_timeout_secs" Setting.toUInt64 d.idleTimeout
  let helloSettle ← s.field 1 "hello_settle_ms" Setting.toUInt64 d.helloSettle
  let responseTimeout ← s.field 2 "response_timeout_secs" Setting.toUInt64 d.responseTimeout
  return { idleTimeout, helloSettle, responseTimeout }

def ofSetting : Conversion TimingSettings := fun v => do
  ofSection (← SettingsSection.ofSetting "struct SessionTimeouts" v)

end TimingSettings

namespace ClientSettings

/-- The settings in a merged tree. -/
def ofSetting : Conversion ClientSettings := fun v => do
  let s ← SettingsSection.ofSetting "struct Config" v
  let server ← s.field 0 "server" ServerSettings.ofSetting {}
  let audio ← s.field 1 "audio" AudioSettings.ofSetting {}
  let timing ← s.field 2 "session" TimingSettings.ofSetting {}
  return { server, audio, timing }

/-! ## For a session -/

/-- What a session is configured with. -/
def session (c : ClientSettings) : SessionConfig where
  deviceId := c.server.deviceId
  audioParams := .opus c.audio.sampleRate c.audio.channels c.audio.frameDuration
  outputSampleRate := c.audio.outputSampleRate
  outputChannels := c.audio.outputChannels
  outputDir := c.audio.outputDir
  dumpRawOpus := c.audio.dumpRawOpus
  idleTimeout := c.timing.idleTimeout.toNat * 1000
  listenMode := c.audio.listenMode

end ClientSettings

end VoiceLink
