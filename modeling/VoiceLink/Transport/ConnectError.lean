import VoiceLink.Transport.Network

/-!
# Why no connection is made

The errors stand in the order in which a client meets them: the address, what it says about itself,
the scheme, and the network in the end. Behind the address the same words stand twice in a message,
as an error is followed by a cause that says no more.
-/

namespace VoiceLink

inductive ConnectError where
  /-- The address given is none. -/
  | address (text : String) (fault : AddressFault)
  /-- The address given names no host. -/
  | noHost (text : String)
  /-- Who asks, or the token, cannot be sent along. -/
  | header
  /-- The address has no number behind its host, and its scheme stands for none. -/
  | scheme
  | network (error : NetworkError)
  deriving DecidableEq, Repr

namespace ConnectError

/-- An error followed by its cause, which says the same. -/
def withCause (kind cause : String) : String := kind ++ ": " ++ cause ++ ": " ++ cause

def message : ConnectError → String
  | address text fault =>
    "Invalid server URL: " ++ text ++ ": " ++ withCause "HTTP format error" fault.message
  | noHost text =>
    "Invalid server URL: " ++ text ++ ": " ++ withCause "URL error" "No host name in the URL"
  | header => "failed to parse header value"
  | scheme => "WebSocket connect failed: " ++ withCause "URL error" "URL scheme not supported"
  | network e => "WebSocket connect failed: " ++ withCause "IO error" e.message

end ConnectError

end VoiceLink
