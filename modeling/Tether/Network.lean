/-
# Tether.Network -- transports and requests on one clock

The network holds every transport ever built, with its sink, the ledger of posted
requests with their deadlines, and the session's timers.  Things happen one at a
time: first the errands in the order they came up, then the alarms that are due.
What concerns the session, or whoever looks on, comes out as arrivals.

An answer that came in time is taken even at the deadline, because errands go
before alarms.  Requests that were given up leave the ledger as an errand too, so
that nothing vanishes in the middle of a batch.
-/
import Tether.Carrier
import Tether.Clock
import Tether.Http.Exchange
import Tether.Reconnect
import Tether.Session
import Tether.Transport.Sink

set_option autoImplicit false

namespace Tether

namespace Network

/-- Who waits for the answer to a request. -/
inductive Owner
  | job (line : Nat) (job : LongPoll.Job)
  | reconnect (attempt : Nat) (manual : Bool)
deriving DecidableEq

inductive Alarm
  /-- The deadline of a request. -/
  | deadline (request : Nat)
  /-- The deadline of an attempt to connect. -/
  | connect (line : Nat)
  | session (timer : SessionTimer) (ticket : Ticket)
deriving DecidableEq

inductive Errand
  | wake (line : Nat) (job : LongPoll.Job)
  /-- A request has its answer. -/
  | answered (request : Nat)
  /-- The requests of a transport are given up. -/
  | release (line : Nat)
deriving DecidableEq

/-- A transport, until it is dropped, and its sink. -/
structure Line where
  carrier : Option Carrier
  sink : Sink := {}

inductive Arrival
  | event (line : Nat) (event : TransportEvent)
  | resolved (attempt : Nat) (manual : Bool) (result : Except Reconnect.Fault ReconnectReply)
  | expired (timer : SessionTimer) (ticket : Ticket)

end Network

structure Network where
  clock : Clock Network.Alarm := {}
  exchange : Http.Exchange Network.Owner := {}
  errands : List Network.Errand := []
  lines : List Network.Line := []
  /-- What came out and was not fetched yet. -/
  arrivals : List Network.Arrival := []

namespace Network

/-! ## Acts of a transport -/

/-- Post a request and set its deadline. -/
def post (n : Network) (request : Http.Request) (owner : Owner) (limit : Nat) : Network :=
  { n with
    clock := n.clock.set limit (.deadline n.exchange.size)
    exchange := n.exchange.post request owner }

/-- Have a transport's sink take an event.  Answers whether it passed. -/
def emit (n : Network) (line : Nat) (event : TransportEvent) : Bool × Network :=
  match n.lines[line]? with
  | none => (false, n)
  | some entry =>
      let (passed, sink) := entry.sink.emit event
      (passed,
        { n with
          lines := n.lines.set line { entry with sink }
          arrivals := if passed then n.arrivals ++ [.event line event] else n.arrivals })

def detach (n : Network) (line : Nat) : Network :=
  { n with lines := n.lines.modify line fun entry => { entry with sink := entry.sink.detach } }

def setCarrier (n : Network) (line : Nat) (carrier : Option Carrier) : Network :=
  { n with lines := n.lines.modify line fun entry => { entry with carrier } }

def pollingAct (line : Nat) (n : Network) : LongPoll.Act → Network
  | .post job request limit => n.post request (.job line job) limit
  | .wake job => { n with errands := n.errands ++ [.wake line job] }
  | .emit event => (n.emit line event).2
  | .detach => n.detach line
  | .release => { n with errands := n.errands ++ [.release line] }

/-- Carry out an act of the persistent transport `line`.  No peer can be reached here, so an
attempt to connect ends at its deadline. -/
def persistentAct (line : Nat) (n : Network) : WebSocket.Act → Network
  | .connect _ limit => { n with clock := n.clock.set limit (.connect line) }
  | .write _ => n
  | .close | .abandon => { n with clock := n.clock.cancel (· == .connect line) }
  | .emit event => (n.emit line event).2
  | .detach => n.detach line

def advancePolling (n : Network) (line : Nat) (step : LongPoll × List LongPoll.Act) : Network :=
  step.2.foldl (pollingAct line) (n.setCarrier line (some (.polling step.1)))

def advancePersistent (n : Network) (line : Nat) (step : WebSocket × List WebSocket.Act) :
    Network :=
  step.2.foldl (persistentAct line) (n.setCarrier line (some (.persistent step.1)))

def carrier? (n : Network) (line : Nat) : Option Carrier := n.lines[line]?.bind (·.carrier)

/-- Add a transport, not opened yet. -/
def addLine (n : Network) (carrier : Carrier) : Network :=
  { n with lines := n.lines ++ [{ carrier := some carrier }] }

def start (n : Network) (line : Nat) : Network :=
  match n.carrier? line with
  | some (.polling t) => n.advancePolling line t.start
  | some (.persistent t) => n.advancePersistent line t.start
  | none => n

def reset (n : Network) (line : Nat) : Network :=
  match n.carrier? line with
  | some (.polling t) => n.advancePolling line t.reset
  | some (.persistent t) => n.advancePersistent line t.reset
  | none => n

/-- Drop a transport: it is reset and gone. -/
def drop (n : Network) (line : Nat) : Network := (n.reset line).setCarrier line none

/-- Hand a frame to a transport; the fault if it does not take it. -/
def send (n : Network) (line : Nat) (frame : String) : Option SendFault × Network :=
  match n.carrier? line with
  | some (.polling t) =>
      match t.send frame with
      | .ok step => (none, n.advancePolling line step)
      | .error fault => (some fault, n)
  | some (.persistent t) =>
      match t.send frame with
      | .ok after => (none, n.advancePersistent line after.flush)
      | .error fault => (some fault, n)
  | none => (some .closed, n)

def accepting (n : Network) (line : Nat) : Bool :=
  ((n.carrier? line).map fun carrier => carrier.refusal.isNone).getD false

/-! ## Requests -/

/-- Answer a request in flight; false if there is none that is meant. -/
def answer (n : Network) (address : Http.Exchange.Address) (outcome : Http.Outcome) :
    Bool × Network :=
  match n.exchange.find? address with
  | none => (false, n)
  | some number =>
      (true,
        { n with
          exchange := n.exchange.settle number (.answered outcome)
          errands := n.errands ++ [.answered number] })

def deliver (n : Network) (owner : Owner) (outcome : Http.Outcome) : Network :=
  match owner with
  | .job line job =>
      match n.carrier? line with
      | some (.polling t) => n.advancePolling line (t.answer job outcome)
      | _ => n
  | .reconnect attempt manual =>
      { n with arrivals := n.arrivals ++ [.resolved attempt manual (Reconnect.read outcome)] }

/-- The request ended: it leaves the ledger, its deadline is void, its owner is told. -/
def finish (n : Network) (number : Nat) (owner : Owner) (outcome : Http.Outcome) : Network :=
  let closed : Network :=
    { n with
      exchange := n.exchange.settle number .closed
      clock := n.clock.cancel (· == .deadline number) }
  closed.deliver owner outcome

/-- Give up the request of a reconnect attempt. -/
def abandon (n : Network) (attempt : Nat) : Network :=
  { n with
    exchange := n.exchange.giveUp fun owner =>
      match owner with
      | .reconnect other _ => other == attempt
      | .job _ _ => false }

/-! ## One thing at a time -/

def runErrand (n : Network) : Errand → Network
  | .wake line job =>
      match n.carrier? line with
      | some (.polling t) => n.advancePolling line (t.wake job)
      | _ => n
  | .answered number =>
      match n.exchange.entries[number]? with
      | some { owner, standing := .answered outcome, .. } => n.finish number owner outcome
      | _ => n
  | .release line =>
      { n with
        exchange := n.exchange.giveUp fun owner =>
          match owner with
          | .job other _ => other == line
          | .reconnect _ _ => false }

def ring (n : Network) : Alarm → Network
  | .deadline number =>
      match n.exchange.entries[number]? with
      | some { owner, standing := .waiting, .. } => n.finish number owner .timedOut
      | _ => n
  | .connect line =>
      match n.carrier? line with
      | some (.persistent t) => n.advancePersistent line (t.refused .timedOut)
      | _ => n
  | .session timer ticket => { n with arrivals := n.arrivals ++ [.expired timer ticket] }

/-- The next errand, or the next alarm due by `limit`. -/
def tick (limit : Nat) (n : Network) : Option Network :=
  match n.errands with
  | errand :: rest => some ({ n with errands := rest }.runErrand errand)
  | [] =>
      match n.clock.next? limit with
      | some (alarm, clock) => some ({ n with clock }.ring alarm)
      | none => none

end Network

end Tether
