/-
# Tether.WebSocket.Dialogue -- a persistent transport, its owner and its peer

Three parties move a dialogue, each when it likes: the owner, the task that holds the
connection, and the peer.  What the peer says travels on a wire and is read in order.
The task does one thing at a time, and where several can be done it does any of them:
it may go on writing and reading after it was dismissed, until it notices.  A write is
one move; while it lasts the task does nothing else, and what the others do meanwhile
might as well have come before it.

Time passes freely, except that it waits for an attempt to connect whose deadline has
come.  An attempt that ends at its very deadline has not run out of time.
-/
import Tether.Clock
import Tether.Transport.Sink
import Tether.WebSocket

set_option autoImplicit false

namespace Tether.WebSocket

inductive Heard
  | text (frame : String)
  | close
deriving DecidableEq

structure Dialogue where
  transport : WebSocket
  sink : Sink := {}
  /-- The deadline of the attempt to connect. -/
  clock : Clock Unit := {}
  /-- What the peer said and nobody has read yet, oldest first. -/
  wire : List Incoming := []
  events : List TransportEvent := []
  heard : List Heard := []

namespace Dialogue

def ofOptions (options : Options) : Dialogue := { transport := { options } }

def absorb (d : Dialogue) : Act → Dialogue
  | .connect _ limit => { d with clock := d.clock.set limit () }
  | .write frame => { d with heard := d.heard ++ [.text frame] }
  | .close => { d with heard := d.heard ++ [.close] }
  | .abandon => { d with clock := d.clock.cancel fun _ => true }
  | .emit event =>
      let (passed, sink) := d.sink.emit event
      { d with sink, events := if passed then d.events ++ [event] else d.events }
  | .detach => { d with sink := d.sink.detach }

def proceed (d : Dialogue) (step : WebSocket × List Act) : Dialogue :=
  step.2.foldl absorb { d with transport := step.1 }

inductive Move
  /-- The owner opens the transport. -/
  | start
  | send (frame : String)
  | reset
  /-- The owner drops the transport; there is no further call. -/
  | drop
  /-- The connection is made. -/
  | connect
  /-- The connection cannot be made. -/
  | refuse (text : String)
  /-- The attempt to connect runs out of time. -/
  | expire
  /-- The next frame is written. -/
  | flush
  /-- The next frame cannot be written. -/
  | choke
  /-- What comes next on the wire is read. -/
  | read
  /-- The connection breaks off, whatever is on the wire. -/
  | sever
  /-- The task notices that the transport was reset or dropped. -/
  | leave
  /-- The peer says something, if it is connected. -/
  | say (incoming : Incoming)
  /-- Time passes, up to a deadline at most. -/
  | wait (time : Nat)
deriving DecidableEq

/-- Some deadline of the attempt under way comes before `time`. -/
def isOverdue (d : Dialogue) (time : Nat) : Bool :=
  d.transport.phase == .connecting && d.clock.alarms.any fun alarm => alarm.1 < time

def make (d : Dialogue) : Move → Dialogue
  | .start => d.proceed d.transport.start
  | .send frame =>
      match d.transport.send frame with
      | .ok after => { d with transport := after }
      | .error _ => d
  | .reset | .drop => d.proceed d.transport.dismiss
  | .connect => d.proceed d.transport.connected
  | .refuse text => d.proceed (d.transport.refused (.socket text))
  | .expire =>
      match d.clock.next? d.clock.now with
      | some (_, clock) => { d with clock }.proceed (d.transport.refused .timedOut)
      | none => d
  | .flush => d.proceed d.transport.flush
  | .choke => d.proceed d.transport.choke
  | .read =>
      match d.transport.phase, d.wire with
      | .live, incoming :: rest => { d with wire := rest }.proceed (d.transport.receive incoming)
      | _, _ => d
  | .sever => d.proceed (d.transport.receive .broken)
  | .leave => d.proceed d.transport.leave
  | .say incoming =>
      if d.transport.phase = .live then { d with wire := d.wire ++ [incoming] } else d
  | .wait time => if d.isOverdue time then d else { d with clock := d.clock.moveTo time }

def makeAll (d : Dialogue) (moves : List Move) : Dialogue := moves.foldl make d

/-- Why a frame that is handed over now is not taken, if it is not. -/
def refusal (d : Dialogue) (frame : String) : Option SendFault :=
  match d.transport.send frame with
  | .ok _ => none
  | .error fault => some fault

end Dialogue

end Tether.WebSocket
