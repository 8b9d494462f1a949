/-
# Tether.WebSocket.Bench -- one persistent transport on a bench

The peer is told how to meet an attempt to connect and what to say afterwards.  The
host that the bench stands for may have no route to any peer; then every attempt
that is met at all is refused, and one that the peer would leave hanging still runs
into its deadline.  An attempt whose end is waited for ends at once, a frame that is
taken is written at once, and so is what the peer says read: of all the orders in
which the parties of a dialogue can move, a bench follows the plainest.
-/
import Tether.WebSocket.Dialogue

set_option autoImplicit false

namespace Tether.WebSocket

inductive Peer
  /-- It speaks the protocol. -/
  | accepts
  /-- Nobody listens. -/
  | refuses
  /-- It takes the connection and says nothing. -/
  | hangs
  /-- It answers the handshake with this text and closes. -/
  | answers (text : String)
deriving DecidableEq

structure Bench extends Dialogue where
  peer : Peer
  /-- Whether the host has a route to the peer. -/
  routed : Bool
  /-- Whether the transport was dropped. -/
  dropped : Bool := false

namespace Bench

def ofOptions (options : Options) (peer : Peer) (routed : Bool) : Bench :=
  { Dialogue.ofOptions options with peer, routed }

def run (b : Bench) (moves : List Dialogue.Move) : Bench :=
  { b with toDialogue := b.toDialogue.makeAll moves }

/-- How an attempt to connect that begins now comes to its end. -/
def meeting (b : Bench) : List Dialogue.Move :=
  match b.peer with
  | .hangs => [.wait (b.clock.now + b.transport.options.connectTimeout), .expire]
  | .accepts => if b.routed then [.connect] else [.refuse "no route to host"]
  | .refuses => [.refuse "connection refused"]
  | .answers text => [.refuse text]

def sendAll (b : Bench) : List String → Bench × List (Option SendFault)
  | [] => (b, [])
  | frame :: frames =>
      let (last, faults) := (b.run [.send frame, .flush]).sendAll frames
      (last, b.refusal frame :: faults)

inductive Command
  | kind
  /-- Open, and wait for the first event if this is the first time. -/
  | start
  /-- Open without waiting. -/
  | startOnly
  | send (frames : List String)
  | reset
  | drop
  | peer (incoming : Incoming)

inductive Answer
  | done
  | kind (kind : TransportKind)
  | sent (faults : List (Option SendFault))
  | noTransport
deriving DecidableEq

/-- A command to the transport, if it is still there. -/
def unlessDropped (b : Bench) (outcome : Bench × Answer) : Bench × Answer :=
  if b.dropped then (b, .noTransport) else outcome

def apply (b : Bench) : Command → Bench × Answer
  | .kind => b.unlessDropped (b, .kind .persistent)
  | .start =>
      let first := b.transport.phase = .fresh ∧ b.transport.dismissed = false
      b.unlessDropped (b.run (.start :: if first then b.meeting else []), .done)
  | .startOnly => b.unlessDropped (b.run [.start], .done)
  | .send frames =>
      let (after, faults) := b.sendAll frames
      b.unlessDropped (after, .sent faults)
  | .reset => b.unlessDropped (b.run [.reset, .leave], .done)
  | .drop => b.unlessDropped ({ b.run [.drop, .leave] with dropped := true }, .done)
  | .peer incoming => (b.run [.say incoming, .read], .done)

end Bench

end Tether.WebSocket
