import VoiceLink.Audio.Accumulator
import VoiceLink.Audio.Codec
import VoiceLink.Audio.Format
import VoiceLink.Audio.Packet
import VoiceLink.Audio.Pcm
import VoiceLink.Audio.Recording
import VoiceLink.CommandLine.Options
import VoiceLink.CommandLine.Run
import VoiceLink.Json.Fault
import VoiceLink.Json.Printer
import VoiceLink.Json.Reader
import VoiceLink.Json.Value
import VoiceLink.Main
import VoiceLink.Message.Audio
import VoiceLink.Message.Client
import VoiceLink.Message.Control
import VoiceLink.Message.Envelope
import VoiceLink.Message.Field
import VoiceLink.Proofs.Audio.Collected
import VoiceLink.Proofs.Audio.Decoding
import VoiceLink.Proofs.Audio.Duration
import VoiceLink.Proofs.Audio.Framing
import VoiceLink.Proofs.Audio.Hearing
import VoiceLink.Proofs.Audio.Layout
import VoiceLink.Proofs.Audio.Passage
import VoiceLink.Proofs.Audio.Recording
import VoiceLink.Proofs.Audio.Totals
import VoiceLink.Proofs.Audio.Truncation
import VoiceLink.Proofs.Basic
import VoiceLink.Proofs.CommandLine.Arguments
import VoiceLink.Proofs.CommandLine.Layering
import VoiceLink.Proofs.Json.Progress
import VoiceLink.Proofs.Json.RoundTrip
import VoiceLink.Proofs.Json.Steps
import VoiceLink.Proofs.Json.Tokens
import VoiceLink.Proofs.Message.Agreement
import VoiceLink.Proofs.Message.Audio
import VoiceLink.Proofs.Message.Client
import VoiceLink.Proofs.Message.Control
import VoiceLink.Proofs.Message.Envelope
import VoiceLink.Proofs.Message.Field
import VoiceLink.Proofs.Session.Accounting
import VoiceLink.Proofs.Session.Alignment
import VoiceLink.Proofs.Session.Attending
import VoiceLink.Proofs.Session.Bracketing
import VoiceLink.Proofs.Session.Calls
import VoiceLink.Proofs.Session.Cancelling
import VoiceLink.Proofs.Session.Conservation
import VoiceLink.Proofs.Session.Contents
import VoiceLink.Proofs.Session.Directory
import VoiceLink.Proofs.Session.Feeding
import VoiceLink.Proofs.Session.Files
import VoiceLink.Proofs.Session.Filing
import VoiceLink.Proofs.Session.Flushes
import VoiceLink.Proofs.Session.History
import VoiceLink.Proofs.Session.Lengths
import VoiceLink.Proofs.Session.Opening
import VoiceLink.Proofs.Session.Ordering
import VoiceLink.Proofs.Session.Outbound
import VoiceLink.Proofs.Session.Pacing
import VoiceLink.Proofs.Session.Refusals
import VoiceLink.Proofs.Session.Runs
import VoiceLink.Proofs.Session.Stages
import VoiceLink.Proofs.Session.Streaming
import VoiceLink.Proofs.Session.Timing
import VoiceLink.Proofs.Session.Turns
import VoiceLink.Proofs.Session.Waiting
import VoiceLink.Proofs.Settings.Field
import VoiceLink.Proofs.Settings.Finding
import VoiceLink.Proofs.Settings.Layers
import VoiceLink.Proofs.Settings.Loading
import VoiceLink.Proofs.Settings.Reading
import VoiceLink.Proofs.Storage.Beside
import VoiceLink.Proofs.Storage.Device
import VoiceLink.Proofs.Storage.Front
import VoiceLink.Proofs.Storage.Naming
import VoiceLink.Proofs.Storage.Saving
import VoiceLink.Proofs.Storage.Tree
import VoiceLink.Proofs.Transport.Pump
import VoiceLink.Proofs.Turn.Containers
import VoiceLink.Proofs.Turn.Latency
import VoiceLink.Proofs.Turn.Succession
import VoiceLink.Proofs.Wave.RoundTrip
import VoiceLink.Session.Loop
import VoiceLink.Session.Router
import VoiceLink.Session.Sender
import VoiceLink.Session.Session
import VoiceLink.Session.State
import VoiceLink.Settings.Client
import VoiceLink.Settings.Convert
import VoiceLink.Settings.Description
import VoiceLink.Settings.Ini
import VoiceLink.Settings.Json5
import VoiceLink.Settings.JsonDatum
import VoiceLink.Settings.Key
import VoiceLink.Settings.Merge
import VoiceLink.Settings.Ron
import VoiceLink.Settings.Source
import VoiceLink.Settings.Toml.Date
import VoiceLink.Settings.Toml.Document
import VoiceLink.Settings.Toml.Fault
import VoiceLink.Settings.Toml.Line
import VoiceLink.Settings.Toml.Token
import VoiceLink.Settings.Value
import VoiceLink.Settings.Yaml.Cursor
import VoiceLink.Settings.Yaml.Document
import VoiceLink.Settings.Yaml.Scalar
import VoiceLink.Settings.Yaml.Tag
import VoiceLink.Settings.Yaml.Token
import VoiceLink.Storage.Disk
import VoiceLink.Storage.OsError
import VoiceLink.Storage.Path
import VoiceLink.Storage.Save
import VoiceLink.Storage.Tree
import VoiceLink.Text.Duration
import VoiceLink.Text.Fixed
import VoiceLink.Text.Letter
import VoiceLink.Text.LowerCase
import VoiceLink.Text.Numeral
import VoiceLink.Text.Place
import VoiceLink.Text.Printable
import VoiceLink.Text.Quoted
import VoiceLink.Text.Real
import VoiceLink.Text.Shortest
import VoiceLink.Transport.Address
import VoiceLink.Transport.Channel
import VoiceLink.Transport.ConnectError
import VoiceLink.Transport.Handshake
import VoiceLink.Transport.Network
import VoiceLink.Transport.Pump
import VoiceLink.Turn.Container
import VoiceLink.Turn.Latency
import VoiceLink.Wave.Bytes
import VoiceLink.Wave.Error
import VoiceLink.Wave.Reader
import VoiceLink.Wave.Writer
