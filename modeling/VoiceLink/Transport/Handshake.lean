import VoiceLink.Message.Client
import VoiceLink.Settings.Client
import VoiceLink.Transport.Channel

/-!
# Connecting

A client introduces itself when it connects: its device, its own identifier, the version of the
protocol, and a token if it has one. All of these and the address are checked before the network is
asked.

What the network answers is not decided here. A `Network` is a function from where a connection
leads and what the client said of itself to a peer; everything before that call is the same on every
network.
-/

namespace VoiceLink

/-! ## Where a connection leads -/

structure Endpoint where
  host : String
  portNumber : Nat
  deriving DecidableEq, Repr

/-- The numbers that schemes stand for. -/
def Endpoint.schemePorts : List (String × Nat) := [("ws", 80), ("wss", 443)]

def Endpoint.ofAddress (a : Address) : Except ConnectError Endpoint :=
  match a.portNumber?.or (schemePorts.lookup a.scheme) with
  | some portNumber => .ok { host := a.host, portNumber }
  | none => .error .scheme

/-! ## How a client introduces itself -/

structure Handshake where
  target : String
  headers : List (String × String)
  deriving DecidableEq, Repr

namespace Handshake

/-- Whether a character may stand in a header: it is no control, but tabs are allowed. -/
def isHeaderChar (c : Char) : Bool := (32 ≤ c.toNat && c.toNat ≠ 127) || c = '\t'

/-- A header whose value is a text that may hold anything. -/
def header (name value : String) : Except ConnectError (String × String) :=
  if value.toList.all isHeaderChar then .ok (name, value) else .error .header

/-- The introduction of a client at an address; `drawn` is a fresh identifier, for a client that has
none of its own. -/
def ofSettings (s : ServerSettings) (a : Address) (drawn : String) :
    Except ConnectError Handshake := do
  let device ← header "device-id" s.deviceId
  let client ← header "client-id" (s.clientId.text drawn)
  let version := ("protocol-version", Numeral.text protocolVersion.toNat)
  let token ← match s.token with
    | some token => pure [← header "authorization" ("Bearer " ++ token)]
    | none => pure []
  return { target := a.target, headers := [device, client, version] ++ token }

end Handshake

/-! ## Dialling -/

/-- The other side of a connection: what it has been sent so far, and what it sends once it is
asked. -/
structure Peer where
  channel : Channel := {}
  replies : List InboundFrame := []

/-- What comes of dialling. -/
structure Network where
  dial : Endpoint → Handshake → Except NetworkError Peer

/-- The network of a machine that is on none. -/
def Network.offline : Network where
  dial e _ := .error (Host.whyOffline e.host)

/-- Connect to a server. -/
def Network.connect (n : Network) (s : ServerSettings) (drawn : String) :
    Except ConnectError Peer := do
  let address ← (Address.parse s.url).mapError (.address s.url)
  if address.authority.isEmpty then throw (.noHost s.url)
  let handshake ← Handshake.ofSettings s address drawn
  let endpoint ← Endpoint.ofAddress address
  (n.dial endpoint handshake).mapError .network

end VoiceLink
