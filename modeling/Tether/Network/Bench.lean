/-
# Tether.Network.Bench -- one transport on a network of its own

A single transport is driven by hand over scripted requests, and its events are
collected.  After a batch of commands all that can run does.
-/
import Tether.Network

set_option autoImplicit false

namespace Tether.Network

structure Bench where
  network : Network
  /-- The events that passed the sink, oldest first. -/
  events : List TransportEvent := []

namespace Bench

def ofCarrier (carrier : Carrier) : Bench := { network := ({} : Network).addLine carrier }

def collect (b : Bench) : Bench where
  network := { b.network with arrivals := [] }
  events := b.events ++ b.network.arrivals.filterMap fun arrival =>
    match arrival with
    | .event _ event => some event
    | _ => none

/-- A bound on the ticks still to come. -/
def work (b : Bench) : Nat :=
  8 * (b.network.errands.length + b.network.clock.alarms.length + 1)

def runFor (limit : Nat) : Nat → Bench → Bench
  | 0, b => b
  | fuel + 1, b =>
      match b.network.tick limit with
      | none => b
      | some network => runFor limit fuel { b with network }.collect

def runUntil (limit : Nat) (b : Bench) : Bench := runFor limit b.work b.collect

inductive Command
  | start
  | send (frame : String)
  | reset
  | drop
  | uid
  | kind
  | detach
  | emit (event : TransportEvent)
  | answer (address : Http.Exchange.Address) (outcome : Http.Outcome)
  | advance (ms : Nat)

inductive Answer
  | done
  | sent (fault : Option SendFault)
  | uid (uid : Option String)
  | kind (kind : TransportKind)
  | accepted (passed : Bool)
  | answered (found : Bool)
  | noTransport
deriving DecidableEq

/-- Carry out a command on the transport, if it is still there. -/
def onCarrier (b : Bench) (go : Carrier → Bench × Answer) : Bench × Answer :=
  match b.network.carrier? 0 with
  | some carrier => go carrier
  | none => (b, .noTransport)

/-- Carry out one command without letting anything run, except that `advance` does. -/
def act (b : Bench) : Command → Bench × Answer
  | .start => b.onCarrier fun _ => ({ b with network := b.network.start 0 }, .done)
  | .send frame => b.onCarrier fun _ =>
      let (fault, network) := b.network.send 0 frame
      ({ b with network }, .sent fault)
  | .reset => b.onCarrier fun _ => ({ b with network := b.network.reset 0 }, .done)
  | .drop => b.onCarrier fun _ => ({ b with network := b.network.drop 0 }, .done)
  | .uid => b.onCarrier fun carrier => (b, .uid carrier.uid)
  | .kind => b.onCarrier fun carrier => (b, .kind carrier.kind)
  | .detach => ({ b with network := b.network.detach 0 }, .done)
  | .emit event =>
      let (passed, network) := b.network.emit 0 event
      ({ b with network }, .accepted passed)
  | .answer address outcome =>
      let (found, network) := b.network.answer address outcome
      ({ b with network }, .answered found)
  | .advance ms =>
      let time := b.network.clock.now + ms
      let late := b.runUntil time
      ({ late with network := { late.network with clock := late.network.clock.moveTo time } },
        .done)

def actAll (b : Bench) : List Command → Bench × List Answer
  | [] => (b, [])
  | command :: commands =>
      let (next, answer) := b.act command
      let (last, answers) := actAll next commands
      (last, answer :: answers)

/-- Carry out a batch of commands, then let everything run. -/
def play (b : Bench) (commands : List Command) : Bench × List Answer :=
  let (queued, answers) := b.actAll commands
  (queued.runUntil queued.network.clock.now, answers)

def requests (b : Bench) : List Http.Request := b.network.exchange.entries.map (·.request)

def detached (b : Bench) : Bool := (b.network.lines[0]?.map (·.sink.detached)).getD true

end Bench

end Tether.Network
