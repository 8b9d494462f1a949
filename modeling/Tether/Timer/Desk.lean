/-
# Tether.Timer.Desk -- several timer slots that share one inbox

Each slot numbers its settings from zero.  A timer that runs out puts its slot and
number into the inbox; what becomes of it there is up to `take`.  A ticket is its
generation alone, so a ticket of one slot may be claimed at another.
-/
import Tether.Clock
import Tether.Timer

set_option autoImplicit false

namespace Tether.Timer

/-- A slot with the tickets of its settings, in order. -/
structure Ledger where
  slot : TimerSlot := {}
  issued : List Ticket := []
deriving Inhabited

/-- The slots, the running timers as slot and number of the setting, and the inbox. -/
structure Desk where
  clock : Clock (Nat × Nat) := {}
  slots : List Ledger
  inbox : List (Nat × Nat) := []
  listening : Bool := true

namespace Desk

def ofSize (n : Nat) : Desk := { slots := List.replicate n {} }

inductive Command
  | schedule (slot delay : Nat)
  | cancel (slot : Nat)
  /-- Hand the slot the ticket of the given setting of the slot `owner`. -/
  | take (slot number owner : Nat)
  | advance (ms : Nat)
  | dropReceiver

inductive Answer
  | scheduled (number : Nat)
  | taken (claimed : Bool)
  | done
  | noTicket
  | noSlot
deriving DecidableEq

/-- Stop the timer that a setting or cancellation of the slot takes back. -/
def stop (desk : Desk) (slot : Nat) (ledger : Ledger) : Clock (Nat × Nat) :=
  if ledger.slot.pending then
    desk.clock.cancel fun tag => tag == (slot, ledger.issued.length - 1)
  else desk.clock

def expire (desk : Desk) (limit : Nat) : Desk :=
  let (tags, clock) := desk.clock.drain limit
  { desk with clock, inbox := if desk.listening then desk.inbox ++ tags else desk.inbox }

def act (desk : Desk) : Command → Desk × Answer
  | .schedule slot delay =>
      match desk.slots[slot]? with
      | none => (desk, .noSlot)
      | some ledger =>
          let number := ledger.issued.length
          let after := ledger.slot.schedule
          ({ desk with
              clock := (desk.stop slot ledger).set delay (slot, number)
              slots := desk.slots.set slot
                { slot := after, issued := ledger.issued ++ [after.ticket] } },
            .scheduled number)
  | .cancel slot =>
      match desk.slots[slot]? with
      | none => (desk, .noSlot)
      | some ledger =>
          ({ desk with
              clock := desk.stop slot ledger
              slots := desk.slots.set slot { ledger with slot := ledger.slot.cancel } },
            .done)
  | .take slot number owner =>
      match desk.slots[slot]?, (desk.slots[owner]?).bind (·.issued[number]?) with
      | some ledger, some ticket =>
          let (claimed, after) := ledger.slot.take ticket
          ({ desk with slots := desk.slots.set slot { ledger with slot := after } }, .taken claimed)
      | none, _ => (desk, .noSlot)
      | _, none => (desk, .noTicket)
  | .advance ms =>
      let time := desk.clock.now + ms
      let late := desk.expire time
      ({ late with clock := late.clock.moveTo time }, .done)
  | .dropReceiver => ({ desk with listening := false }, .done)

/-- Carry out one command, and let the timers of no delay run out. -/
def apply (desk : Desk) (command : Command) : Desk × Answer :=
  let (after, answer) := desk.act command
  (after.expire after.clock.now, answer)

def collect (desk : Desk) : List (Nat × Nat) × Desk := (desk.inbox, { desk with inbox := [] })

def pendingFlags (desk : Desk) : List Bool := desk.slots.map (·.slot.pending)

end Desk

end Tether.Timer
