/-
# Tether.Transport -- what a transport is to a session

A transport carries frames both ways over one channel.  It reports by events: open
once it can send, then messages, then at most one of the two terminal events.
-/
import Tether.Text.Quoted

set_option autoImplicit false

namespace Tether

inductive TransportKind
  /-- One long-lived connection, both ways. -/
  | persistent
  /-- Held poll requests paired with single send requests. -/
  | polling
deriving DecidableEq, Inhabited

namespace TransportKind

def name : TransportKind → String
  | persistent => "persistent"
  | polling => "polling"

def shown : TransportKind → String
  | persistent => "Persistent"
  | polling => "Polling"

def all : List TransportKind := [persistent, polling]

theorem mem_all (kind : TransportKind) : kind ∈ all := by cases kind <;> decide

theorem name_injective {a b : TransportKind} (same : a.name = b.name) : a = b := by
  cases a <;> cases b <;> first | rfl | exact absurd same (by decide)

end TransportKind

inductive TransportEvent
  /-- The channel takes frames from now on. -/
  | opened
  /-- A frame arrived, verbatim. -/
  | message (data : String)
  /-- The channel closed. -/
  | closed
  /-- The channel failed. -/
  | failed
deriving DecidableEq

namespace TransportEvent

/-- No event follows a terminal one. -/
def isTerminal : TransportEvent → Bool
  | closed | failed => true
  | opened | message _ => false

def shown : TransportEvent → String
  | opened => "Open"
  | message data => "Message(" ++ Text.quoted data ++ ")"
  | closed => "Close"
  | failed => "Error"

end TransportEvent

inductive SendFault
  /-- It has not opened yet. -/
  | notOpen
  /-- It closed, failed or was reset. -/
  | closed
deriving DecidableEq

def SendFault.message : SendFault → String
  | .notOpen => "transport is not open"
  | .closed => "transport is closed"

end Tether
