/-
# Tether.Health.Watch -- a health monitor on a running clock

The monitor's expiries arrive as numbers, one for each frame that started a watch;
they take effect only when they are handed to the monitor, late or twice if need be.
-/
import Tether.Clock
import Tether.Health

set_option autoImplicit false

namespace Tether.Health

/-- The monitor, the tickets of its watches in order, the running timer as the number of
its watch, and the expiries that have arrived. -/
structure Watch where
  budget : Nat
  clock : Clock Nat := {}
  monitor : HealthMonitor := {}
  issued : List Ticket := []
  inbox : List Nat := []

namespace Watch

inductive Command
  | frame
  | disarm
  /-- Hand over the expiry of the given watch. -/
  | expire (number : Nat)
  | advance (ms : Nat)

inductive Answer
  | told (verdict : Bool)
  | done
  | noTicket
deriving DecidableEq

/-- The clock once the pending timer, if any, is stopped. -/
def stop (watch : Watch) : Clock Nat :=
  if watch.monitor.timer.pending then
    watch.clock.cancel fun number => number == watch.issued.length - 1
  else watch.clock

def elapse (watch : Watch) (limit : Nat) : Watch :=
  let (numbers, clock) := watch.clock.drain limit
  { watch with clock, inbox := watch.inbox ++ numbers }

def act (watch : Watch) : Command → Watch × Answer
  | .frame =>
      let (was, monitor) := watch.monitor.frameReceived
      ({ watch with
          clock := watch.stop.set watch.budget watch.issued.length
          monitor
          issued := watch.issued ++ [monitor.timer.ticket] },
        .told was)
  | .disarm => ({ watch with clock := watch.stop, monitor := watch.monitor.disarm }, .done)
  | .expire number =>
      match watch.issued[number]? with
      | none => (watch, .noTicket)
      | some ticket =>
          let (claimed, monitor) := watch.monitor.expire ticket
          ({ watch with monitor }, .told claimed)
  | .advance ms =>
      let time := watch.clock.now + ms
      let late := watch.elapse time
      ({ late with clock := late.clock.moveTo time }, .done)

/-- Carry out one command, and let the timers of no delay run out. -/
def apply (watch : Watch) (command : Command) : Watch × Answer :=
  let (after, answer) := watch.act command
  (after.elapse after.clock.now, answer)

def collect (watch : Watch) : List Nat × Watch := (watch.inbox, { watch with inbox := [] })

end Watch

end Tether.Health
