/-
# Tether.Client -- everything needed to run a session against one server

Only the base URL has no default.  The endpoints follow from it; the options of each
transport follow from the endpoints and the deadlines.
-/
import Tether.Endpoints
import Tether.Stack

set_option autoImplicit false

namespace Tether

namespace ClientConfig.Default

def persistent : Bool := true

def connectTimeout : UInt64 := 10000

def maxMessageSize : UInt64 := 16777216

def pollTimeout : UInt64 := 45000

def sendTimeout : UInt64 := 7000

def reconnectTimeout : UInt64 := 7000

end ClientConfig.Default

open ClientConfig in
/-- All delays are in milliseconds. -/
structure ClientConfig (U : Type := Url) where
  /-- The endpoints are mounted under it. -/
  baseUrl : U
  session : SessionConfig := {}
  /-- Use the persistent transport when possible. -/
  persistent : Bool := Default.persistent
  /-- Deadline for the persistent transport to open. -/
  connectTimeout : UInt64 := Default.connectTimeout
  /-- Largest inbound message of the persistent transport, in bytes. -/
  maxMessageSize : UInt64 := Default.maxMessageSize
  /-- Deadline for one held poll. -/
  pollTimeout : UInt64 := Default.pollTimeout
  /-- Deadline for opening the polling transport and for each send. -/
  sendTimeout : UInt64 := Default.sendTimeout
  /-- Deadline for one reconnect request. -/
  reconnectTimeout : UInt64 := Default.reconnectTimeout
deriving DecidableEq

namespace ClientConfig

def endpoints (config : ClientConfig) : Except Endpoints.Fault Endpoints :=
  Endpoints.ofBase config.baseUrl

def webSocketOptions (config : ClientConfig) (endpoints : Endpoints) : WebSocket.Options where
  url := endpoints.webSocket.text
  connectTimeout := config.connectTimeout.toNat
  maxMessageSize := config.maxMessageSize.toNat

def longPollOptions (config : ClientConfig) (endpoints : Endpoints) : LongPoll.Options where
  sendUrl := endpoints.send.text
  pollUrl := endpoints.poll.text
  pollTimeout := config.pollTimeout.toNat
  sendTimeout := config.sendTimeout.toNat

def factory (config : ClientConfig) (endpoints : Endpoints) : Factory where
  webSocket := if config.persistent then some (config.webSocketOptions endpoints) else none
  longPoll := config.longPollOptions endpoints

/-- A session ready to run, with nothing sent yet. -/
def stack (config : ClientConfig) : Except Endpoints.Fault Stack := do
  let endpoints ← config.endpoints
  let factory := config.factory endpoints
  pure {
    setup := { config := config.session, persistent := factory.supportsPersistent }
    wiring :=
      { factory, reconnectUrl := endpoints.reconnect.text,
        reconnectTimeout := config.reconnectTimeout.toNat } }

end ClientConfig

end Tether
