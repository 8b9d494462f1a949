/-
# Tether.Id -- the identifiers of a session

Four kinds of opaque text that the server issues and the client echoes.  They are
separate types, so a credential can never be sent where an instance is meant.
The two names may be shown; the two credentials stay out of every message.
-/
import Tether.Text.Quoted

set_option autoImplicit false

namespace Tether

/-- Issued at page load; the same across reconnects. -/
structure SessionId where
  text : String
deriving DecidableEq, Inhabited

/-- A credential for one handshake, paired with a `SessionId`. -/
structure AccessToken where
  text : String
deriving DecidableEq, Inhabited

/-- Names one live instance of the session on the server, and keys reconnect requests. -/
structure InstanceId where
  text : String
deriving DecidableEq, Inhabited

/-- Rotates with every inbound frame; the next outbound frame must carry it. -/
structure ContinuationToken where
  text : String
deriving DecidableEq, Inhabited

def SessionId.isEmpty (id : SessionId) : Bool := id.text.isEmpty

def AccessToken.isEmpty (token : AccessToken) : Bool := token.text.isEmpty

def InstanceId.isEmpty (id : InstanceId) : Bool := id.text.isEmpty

def ContinuationToken.isEmpty (token : ContinuationToken) : Bool := token.text.isEmpty

def SessionId.shown (id : SessionId) : String := "SessionId(" ++ Text.quoted id.text ++ ")"

def InstanceId.shown (id : InstanceId) : String := "InstanceId(" ++ Text.quoted id.text ++ ")"

/-- An access token as a diagnostic shows it: nothing of its text. -/
def AccessToken.shown (_ : AccessToken) : String := "AccessToken(..)"

/-- A continuation token as a diagnostic shows it: nothing of its text. -/
def ContinuationToken.shown (_ : ContinuationToken) : String := "ContinuationToken(..)"

end Tether
