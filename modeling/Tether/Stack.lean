/-
# Tether.Stack -- a session over the real transports

The session machine, the standard factory, the polling transport and the reconnect
client, put together over scripted requests on a virtual clock.  The session
handles what has come out of the network before the network goes on.
-/
import Tether.Network

set_option autoImplicit false

namespace Tether

/-- Where a session's transports and requests go. -/
structure Wiring where
  factory : Factory
  reconnectUrl : String
  reconnectTimeout : Nat := 7000

structure Stack where
  setup : Setup
  wiring : Wiring
  session : Session := {}
  network : Network := {}
  /-- The inputs that wait for the session, oldest first. -/
  inbox : List Input := []
  calls : Nat := 0
  answers : List (Nat × Bool) := []
  events : List SessionEvent := []
  shown : List Feedback := []

namespace Stack

def absorb (s : Stack) : Effect → Stack
  | .open link =>
      { s with
        network := (s.network.addLine (s.wiring.factory.create link.kind)).start link.number }
  | .sent number frame => { s with network := (s.network.send number frame).2 }
  | .refused _ _ => s
  | .retire number => { s with network := s.network.reset number }
  | .start timer ticket delay =>
      { s with
        network :=
          { s.network with clock := s.network.clock.set delay (.session timer ticket) } }
  | .stop timer ticket =>
      { s with
        network :=
          { s.network with clock := s.network.clock.cancel (· == .session timer ticket) } }
  | .request attempt manual instanceId =>
      { s with
        network := s.network.post (Reconnect.request s.wiring.reconnectUrl instanceId)
          (.reconnect attempt manual) s.wiring.reconnectTimeout }
  | .abandon attempt => { s with network := s.network.abandon attempt }
  | .event event => { s with events := s.events ++ [event] }
  | .show feedback => { s with shown := s.shown ++ [feedback] }
  | .answer call sent => { s with answers := s.answers ++ [(call, sent)] }

def accepting (s : Stack) : Bool :=
  (s.session.active.map fun link => s.network.accepting link.number).getD false

def handle (s : Stack) (input : Input) : Stack :=
  let (session, effects) := s.session.step s.setup s.accepting input
  effects.foldl absorb { s with session }

/-- What comes out of the network, as the session takes it in. -/
def inputOf : Network.Arrival → Input
  | .event line event => .transport line event
  | .resolved attempt manual result => .resolved attempt manual result.toOption
  | .expired timer ticket => .expired timer ticket

def collect (s : Stack) : Stack :=
  { s with
    inbox := s.inbox ++ s.network.arrivals.map inputOf
    network := { s.network with arrivals := [] } }

/-- One thing that can run by `limit`, if there is any. -/
def tick (limit : Nat) (s : Stack) : Option Stack :=
  match s.inbox with
  | input :: rest => some ({ s with inbox := rest }.handle input).collect
  | [] =>
      match s.network.tick limit with
      | some network => some { s with network }.collect
      | none => none

/-- A bound on the ticks still to come: between two answers from outside there are at most as
many failures as the budget allows, and each costs a few ticks. -/
def work (s : Stack) : Nat :=
  16 * (s.inbox.length + s.network.errands.length + s.network.clock.alarms.length + 1) *
    (s.setup.config.retryBudget.toNat + 2)

def runFor (limit : Nat) : Nat → Stack → Stack
  | 0, s => s
  | fuel + 1, s =>
      match s.tick limit with
      | none => s
      | some after => runFor limit fuel after

/-- Run until nothing more can by `limit`. -/
def runUntil (limit : Nat) (s : Stack) : Stack := runFor limit s.work s

def calm (s : Stack) : Stack := s.runUntil s.network.clock.now

inductive Command
  | init (session : SessionId) (token : AccessToken) (forceFallback : Bool)
  | send (task : String) (fields : List (String × String))
  | reconnect
  | close
  | answer (address : Http.Exchange.Address) (outcome : Http.Outcome)
  | advance (ms : Nat)
  /-- Stop the session on the spot; all it owns is dropped. -/
  | abort

inductive Answer
  | ok
  | stopped
  /-- The outcome of a send; none while it is not known. -/
  | sent (outcome : Option Bool)
  | answered (found : Bool)
  | done
deriving DecidableEq

/-- Hand an application call to the session. -/
def submit (s : Stack) (input : Input) : Stack × Answer :=
  if s.session.running then ({ s with inbox := s.inbox ++ [input] }, .ok) else (s, .stopped)

def dropLines (s : Stack) : Stack :=
  { s with network := (List.range s.network.lines.length).foldl Network.drop s.network }

/-- Carry out one command, then let everything run. -/
def play (s : Stack) : Command → Stack × Answer
  | .init session token forceFallback =>
      (s.submit (.init session token forceFallback)).map calm id
  | .reconnect => (s.submit .reconnect).map calm id
  | .close => (s.submit .close).map calm id
  | .send task fields =>
      if s.session.running then
        let queued : Stack :=
          { s with calls := s.calls + 1, inbox := s.inbox ++ [.send s.calls task fields] }
        let after := queued.calm
        (after, .sent ((after.answers.find? fun answer => answer.1 == s.calls).map (·.2)))
      else (s, .sent (some false))
  | .answer address outcome =>
      let (found, network) := s.network.answer address outcome
      ({ s with network }.calm, .answered found)
  | .advance ms =>
      let time := s.network.clock.now + ms
      let late := s.runUntil time
      ({ late with network := { late.network with clock := late.network.clock.moveTo time } },
        .done)
  | .abort =>
      ({ s.dropLines with inbox := [], session := { s.session with running := false } }.calm,
        .done)

def requests (s : Stack) : List Http.Request := s.network.exchange.entries.map (·.request)

end Stack

end Tether
