/-
# Tether.Carrier -- the two real transports behind one face

A factory builds a transport of the flavour that is asked for.  Without options for
the persistent one it builds polling transports only, whatever is asked.

* `create_kind` -- a factory that supports persistent transports builds what is asked.
* `kind_of_pollingOnly` -- one that does not builds polling transports.
-/
import Tether.LongPoll
import Tether.WebSocket

set_option autoImplicit false

namespace Tether

inductive Carrier
  | polling (transport : LongPoll)
  | persistent (transport : WebSocket)

namespace Carrier

def kind : Carrier → TransportKind
  | polling _ => .polling
  | persistent _ => .persistent

/-- Whether a frame that is handed over now is taken, and if not, why. -/
def refusal : Carrier → Option SendFault
  | polling t =>
      match t.send "" with
      | .ok _ => none
      | .error fault => some fault
  | persistent t =>
      match t.send "" with
      | .ok _ => none
      | .error fault => some fault

/-- The id that the server assigned, where the transport has one. -/
def uid : Carrier → Option String
  | polling t => t.uid
  | persistent _ => none

end Carrier

/-- Builds transports.  Without options for the persistent flavour there is none. -/
structure Factory where
  webSocket : Option WebSocket.Options
  longPoll : LongPoll.Options

namespace Factory

def supportsPersistent (factory : Factory) : Bool := factory.webSocket.isSome

/-- A transport of the flavour asked for, or the polling one in its place. -/
def create (factory : Factory) (kind : TransportKind) : Carrier :=
  match kind, factory.webSocket with
  | .persistent, some options => .persistent { options }
  | _, _ => .polling { options := factory.longPoll }

theorem create_kind (factory : Factory) (supported : factory.supportsPersistent = true)
    (kind : TransportKind) : (factory.create kind).kind = kind := by
  unfold supportsPersistent at supported
  obtain ⟨options, present⟩ := Option.isSome_iff_exists.1 supported
  cases kind <;> simp [create, present, Carrier.kind]

theorem kind_of_pollingOnly (factory : Factory) (alone : factory.webSocket = none)
    (kind : TransportKind) : (factory.create kind).kind = .polling := by
  cases kind <;> simp [create, alone, Carrier.kind]

end Factory

end Tether
