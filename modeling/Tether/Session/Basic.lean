/-
# Tether.Session.Basic -- the tuning, phases, events and status of a session

    idle --> connecting --> handshaking --> ready
                 ^                            | close, error, or silence and a send
                 +------- reconnecting <------+
                                | budget passed, or a frame that breaks the protocol
                                v
                              failed
-/
import Tether.Frame
import Tether.Transport

set_option autoImplicit false

namespace Tether

/-- The tuning of a session.  All delays are in milliseconds. -/
structure SessionConfig where
  /-- Consecutive failures tolerated: reaching it forces polling, passing it is fatal. -/
  retryBudget : UInt32 := 3
  /-- Pause before each retry. -/
  retryDelay : UInt64 := 1500
  /-- Pause between resetting one transport and opening the next. -/
  settleDelay : UInt64 := 300
  /-- Inbound silence after which the connection counts as lost; the server pings every 30 s. -/
  silenceTimeout : UInt64 := 40000
deriving DecidableEq, Inhabited

inductive Phase
  /-- No session, or the server asked for a reload. -/
  | idle
  /-- A transport is being set up. -/
  | connecting
  /-- The handshake is sent and its reply awaited. -/
  | handshaking
  /-- Frames flow both ways. -/
  | ready
  /-- Waiting for a retry after a failure. -/
  | reconnecting
  /-- Given up. -/
  | failed
deriving DecidableEq, Inhabited

namespace Phase

def name : Phase → String
  | idle => "idle"
  | connecting => "connecting"
  | handshaking => "handshaking"
  | ready => "ready"
  | reconnecting => "reconnecting"
  | failed => "failed"

def shown : Phase → String
  | idle => "Idle"
  | connecting => "Connecting"
  | handshaking => "Handshaking"
  | ready => "Ready"
  | reconnecting => "Reconnecting"
  | failed => "Failed"

def all : List Phase := [idle, connecting, handshaking, ready, reconnecting, failed]

theorem mem_all (phase : Phase) : phase ∈ all := by cases phase <;> decide

end Phase

/-- What a session reports as gone wrong. -/
inductive SessionFault
  /-- The reply to the handshake was of no use.  The session retries. -/
  | handshake (fault : Frame.Fault)
  /-- A steady-state frame broke the protocol. -/
  | framing (data : String)
  /-- More failures in a row than the budget allows. -/
  | budgetExhausted (attempts : UInt32)
deriving DecidableEq

def SessionFault.message : SessionFault → String
  | .handshake fault => "handshake failed: " ++ fault.message
  | .framing data => "invalid data received from server: " ++ Text.quoted data
  | .budgetExhausted attempts =>
      "failed to establish a connection after " ++ toString attempts.toNat ++ " attempts"

/-- What the application is told. -/
inductive SessionEvent
  /-- The first handshake succeeded. -/
  | ready
  /-- A later handshake succeeded. -/
  | reconnected
  /-- A payload arrived. -/
  | message (payload : String)
  /-- The server asked for a full reload. -/
  | reloadRequested
  | fault (fault : SessionFault)
deriving DecidableEq

/-- The session at one point in time, as the application sees it. -/
structure Status where
  phase : Phase
  /-- Failures in a row since the last handshake that succeeded. -/
  failures : UInt32
  connectionLost : Bool
  /-- The flavour of the transport in use. -/
  transport : Option TransportKind
  /-- Whether every further transport is a polling one. -/
  fallback : Bool
  /-- From the last handshake that succeeded. -/
  instanceId : Option InstanceId
deriving DecidableEq

/-- The wording for a call on a session that has stopped. -/
def sessionClosed : String := "session closed"

end Tether
