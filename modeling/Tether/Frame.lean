/-
# Tether.Frame -- the text frames of the session protocol

Every frame is a run of segments that end in, or are separated by, `&`.

    handshake   sid=<session>&tok=<access token>&
    its reply   <instance>&<token>
    task        sid=<session>&tok=<token>&tsk=<task>&<key>=<escaped value>&...
    inbound     <new token>&<remainder>
    reconnect   <session>&<access token>   or   refresh

The client writes the frames built here; `Tether.Frame.Reader` reads what the
server sends.  A `Fault` is what can be wrong with the latter.
-/
import Tether.Frame.Escape
import Tether.Id

set_option autoImplicit false

namespace Tether

/-- Fresh credentials from the reconnect endpoint, or the order to load afresh. -/
inductive ReconnectReply
  | credentials (session : SessionId) (token : AccessToken)
  | refresh
deriving DecidableEq

namespace Frame

/-- Sent by the server when a request carried a stale or unknown token. -/
def invalidRequest : String := "invalid_request"

def ping : String := "ping"

def pongTask : String := "pong"

/-- The reconnect reply that asks for a full reload. -/
def refresh : String := "refresh"

inductive Fault
  | empty
  | invalidRequest
  | missingDelimiter (frame : String)
  | tooFewSegments (expected actual : Nat)
deriving DecidableEq

def Fault.message : Fault → String
  | .empty => "empty frame"
  | .invalidRequest => "server rejected the request as invalid"
  | .missingDelimiter frame => "missing delimiter in frame " ++ Text.quoted frame
  | .tooFewSegments expected actual =>
      "expected at least " ++ toString expected ++ " segments, got " ++ toString actual

/-- One segment of a client frame.  The value is written as given. -/
def segment (key value : String) : String := key ++ "=" ++ value ++ "&"

/-- The first frame on a freshly opened transport. -/
def handshake (session : SessionId) (token : AccessToken) : String :=
  segment "sid" session.text ++ segment "tok" token.text

/-- A task frame.  Keys are written as given, values are escaped. -/
def outbound (session : SessionId) (token : ContinuationToken) (task : String)
    (fields : List (String × String)) : String :=
  segment "sid" session.text ++ segment "tok" token.text ++ segment "tsk" task ++
    String.join (fields.map fun field => segment field.1 (escape field.2))

/-- The answer to a keep-alive, under the token that came with it. -/
def pong (session : SessionId) (token : ContinuationToken) : String :=
  outbound session token pongTask []

end Frame

end Tether
