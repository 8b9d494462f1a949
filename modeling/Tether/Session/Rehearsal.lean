/-
# Tether.Session.Rehearsal -- a session among hand-driven transports

The session runs on a virtual clock against transports whose events are fired by
hand and a reconnect endpoint whose answers are prepared or given later.  After a
batch of commands everything that can run does run: first the inputs that wait, in
the order they came, then the reconnect requests that were answered, then the
timers that are due.

* `tick` -- one such thing; `none` when all is calm.
* `work` -- bounds the number of ticks still to come: every tick takes more off it
  than it puts back.
-/
import Tether.Clock
import Tether.Session
import Tether.Transport.Sink

set_option autoImplicit false

namespace Tether

/-- A transport driven by hand.  It takes frames from the first time it is opened until it
closes, fails or is reset. -/
structure Puppet where
  kind : TransportKind
  opens : Nat := 0
  resets : Nat := 0
  opened : Bool := false
  closed : Bool := false
  sink : Sink := {}
deriving Inhabited

namespace Puppet

def accepting (puppet : Puppet) : Bool := puppet.opened && !puppet.closed

def reset (puppet : Puppet) : Puppet :=
  { puppet with resets := puppet.resets + 1, closed := true, sink := puppet.sink.detach }

end Puppet

structure Asked where
  attempt : Nat
  manual : Bool
  /-- Whether its answer is still to be given. -/
  waiting : Bool
  /-- Whether the session still wants the answer. -/
  alive : Bool

/-- All that a rehearsal shows, oldest first. -/
structure Record where
  events : List SessionEvent := []
  shown : List Feedback := []
  asked : List InstanceId := []
  sent : List (Nat × String) := []

structure Rehearsal where
  setup : Setup
  session : Session := {}
  clock : Clock (SessionTimer × Ticket) := {}
  /-- The inputs that wait for the session, oldest first. -/
  inbox : List Input := []
  /-- The results that wait to enter the inbox once it is empty. -/
  results : List Input := []
  puppets : List Puppet := []
  requests : List Asked := []
  /-- Answers prepared for requests to come. -/
  prepared : List (Option ReconnectReply) := []
  calls : Nat := 0
  answers : List (Nat × Bool) := []
  /-- Whether the application still reads events. -/
  listening : Bool := true
  record : Record := {}

namespace Rehearsal

/-! ## Letting things run -/

def updatePuppet (r : Rehearsal) (number : Nat) (change : Puppet → Puppet) : Rehearsal :=
  { r with puppets := r.puppets.modify number change }

def absorb (r : Rehearsal) : Effect → Rehearsal
  | .open link => { r with puppets := r.puppets ++ [{ kind := link.kind, opens := 1 }] }
  | .sent number frame =>
      { r with record := { r.record with sent := r.record.sent ++ [(number, frame)] } }
  | .refused _ _ => r
  | .retire number => r.updatePuppet number Puppet.reset
  | .start timer ticket delay => { r with clock := r.clock.set delay (timer, ticket) }
  | .stop timer ticket => { r with clock := r.clock.cancel fun tag => tag == (timer, ticket) }
  | .request attempt manual instanceId =>
      let asked := { r.record with asked := r.record.asked ++ [instanceId] }
      match r.prepared with
      | reply :: rest =>
          { r with
            record := asked
            prepared := rest
            requests := r.requests ++ [⟨attempt, manual, false, true⟩]
            results := r.results ++ [.resolved attempt manual reply] }
      | [] =>
          { r with record := asked, requests := r.requests ++ [⟨attempt, manual, true, true⟩] }
  | .abandon attempt =>
      { r with
        requests := r.requests.map fun asked =>
          if asked.attempt = attempt then { asked with alive := false } else asked }
  | .event event =>
      if r.listening then
        { r with record := { r.record with events := r.record.events ++ [event] } }
      else r
  | .show feedback =>
      { r with record := { r.record with shown := r.record.shown ++ [feedback] } }
  | .answer call sent => { r with answers := r.answers ++ [(call, sent)] }

def accepting (r : Rehearsal) : Bool :=
  match r.session.active with
  | none => false
  | some link => (r.puppets[link.number]?.map Puppet.accepting).getD false

def handle (r : Rehearsal) (input : Input) : Rehearsal :=
  let (session, effects) := r.session.step r.setup r.accepting input
  effects.foldl absorb { r with session }

/-- One thing that can run by `limit`, if there is any. -/
def tick (limit : Nat) (r : Rehearsal) : Option Rehearsal :=
  match r.inbox with
  | input :: rest => some ({ r with inbox := rest }.handle input)
  | [] =>
      match r.results with
      | result :: rest => some { r with results := rest, inbox := [result] }
      | [] =>
          match r.clock.next? limit with
          | some ((timer, ticket), clock) =>
              some { r with clock, inbox := [.expired timer ticket] }
          | none => none

/-- A bound on the ticks still to come. -/
def work (r : Rehearsal) : Nat :=
  6 * (r.inbox.length + r.results.length + r.clock.alarms.length + r.prepared.length)

def runFor (limit : Nat) : Nat → Rehearsal → Rehearsal
  | 0, r => r
  | fuel + 1, r =>
      match r.tick limit with
      | none => r
      | some after => runFor limit fuel after

def runUntil (limit : Nat) (r : Rehearsal) : Rehearsal := runFor limit r.work r

def calm (r : Rehearsal) : Rehearsal := r.runUntil r.clock.now

/-! ## Commands -/

inductive Command
  | init (session : SessionId) (token : AccessToken) (forceFallback : Bool)
  | send (task : String) (fields : List (String × String))
  | reconnect
  | close
  /-- The transport (by default the last) does as told. -/
  | opened (transport : Option Nat)
  | message (transport : Option Nat) (data : String)
  | down (transport : Option Nat)
  | breakDown (transport : Option Nat)
  /-- An event past the sink's flag. -/
  | force (transport : Option Nat) (event : TransportEvent)
  /-- Prepare an answer for a request to come. -/
  | prepare (reply : Option ReconnectReply)
  /-- Answer a request that waits. -/
  | resolve (number : Nat) (reply : Option ReconnectReply)
  | dropEvents
  | advance (ms : Nat)

inductive Answer
  | ok
  | stopped
  /-- The outcome of a send; none while it is not known. -/
  | sent (outcome : Option Bool)
  | accepted (passed : Bool)
  | noTransport
  | resolved (wanted : Bool)
  | noRequest
  | done
deriving DecidableEq

def submit (r : Rehearsal) (input : Input) : Rehearsal × Answer :=
  if r.session.running then ({ r with inbox := r.inbox ++ [input] }, .ok) else (r, .stopped)

/-- The number of the transport that is meant. -/
def target (r : Rehearsal) (transport : Option Nat) : Nat :=
  transport.getD (r.puppets.length - 1)

/-- Change a transport and have it report `event`. -/
def fire (r : Rehearsal) (transport : Option Nat) (change : Puppet → Puppet)
    (event : TransportEvent) : Rehearsal × Answer :=
  let number := r.target transport
  match r.puppets[number]? with
  | none => (r, .noTransport)
  | some puppet =>
      let (passed, sink) := puppet.sink.emit event
      let arrives := passed && r.session.running
      let moved := r.updatePuppet number fun p => { change p with sink }
      ({ moved with
          inbox := if arrives then r.inbox ++ [.transport number event] else r.inbox },
        .accepted arrives)

/-- Carry out one command without letting anything run, except that `advance` does.  A send is
answered by the number of its call. -/
def act (r : Rehearsal) : Command → Rehearsal × (Answer ⊕ Nat)
  | .init session token forceFallback =>
      (r.submit (.init session token forceFallback)).map id .inl
  | .reconnect => (r.submit .reconnect).map id .inl
  | .close => (r.submit .close).map id .inl
  | .send task fields =>
      if r.session.running then
        ({ r with calls := r.calls + 1, inbox := r.inbox ++ [.send r.calls task fields] },
          .inr r.calls)
      else (r, .inl (.sent (some false)))
  | .opened transport =>
      (r.fire transport (fun p => { p with opened := true }) .opened).map id .inl
  | .message transport data => (r.fire transport id (.message data)).map id .inl
  | .down transport =>
      (r.fire transport (fun p => { p with closed := true }) .closed).map id .inl
  | .breakDown transport =>
      (r.fire transport (fun p => { p with closed := true }) .failed).map id .inl
  | .force transport event =>
      let number := r.target transport
      if number < r.puppets.length then
        if r.session.running then
          ({ r with inbox := r.inbox ++ [.transport number event] }, .inl (.accepted true))
        else (r, .inl (.accepted false))
      else (r, .inl .noTransport)
  | .prepare reply => ({ r with prepared := r.prepared ++ [reply] }, .inl .done)
  | .resolve number reply =>
      match r.requests[number]? with
      | some asked =>
          if asked.waiting then
            let told := { r with requests := r.requests.set number { asked with waiting := false } }
            if asked.alive then
              ({ told with
                  results := r.results ++ [.resolved asked.attempt asked.manual reply] },
                .inl (.resolved true))
            else (told, .inl (.resolved false))
          else (r, .inl .noRequest)
      | none => (r, .inl .noRequest)
  | .dropEvents => ({ r with listening := false }, .inl .done)
  | .advance ms =>
      let time := r.clock.now + ms
      let late := r.runUntil time
      ({ late with clock := late.clock.moveTo time }, .inl .done)

def actAll (r : Rehearsal) : List Command → Rehearsal × List (Answer ⊕ Nat)
  | [] => (r, [])
  | command :: commands =>
      let (next, answer) := r.act command
      let (last, answers) := actAll next commands
      (last, answer :: answers)

def outcome (r : Rehearsal) (call : Nat) : Option Bool :=
  (r.answers.find? fun answer => answer.1 == call).map (·.2)

/-- Carry out a batch of commands, then let everything run. -/
def play (r : Rehearsal) (commands : List Command) : Rehearsal × List Answer :=
  let (queued, answers) := r.actAll commands
  let after := queued.calm
  (after, answers.map fun answer =>
    match answer with
    | .inl answer => answer
    | .inr call => .sent (after.outcome call))

/-! ## What can be seen -/

/-- What is new in `after`, frames grouped by transport. -/
def news (before after : Rehearsal) : Record where
  events := after.record.events.drop before.record.events.length
  shown := after.record.shown.drop before.record.shown.length
  asked := after.record.asked.drop before.record.asked.length
  sent :=
    let sent := after.record.sent.drop before.record.sent.length
    (List.range after.puppets.length).flatMap fun number =>
      sent.filter fun frame => frame.1 == number

end Rehearsal

end Tether
