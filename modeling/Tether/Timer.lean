/-
# Tether.Timer -- slots for at most one pending timer

Setting a timer in a slot replaces the one before.  An expiry may already be on its
way when its timer is replaced or cancelled, so each setting has a ticket, and the
slot claims only the expiry of its pending setting, once.

* `take_schedule` -- the ticket of a setting is claimed while that setting is pending.
* `take_cancel` -- nothing is claimed from a cancelled slot.
* `take_take` -- no expiry is claimed twice.
* `take_stale` -- a ticket of an earlier generation is never claimed.
-/
set_option autoImplicit false

namespace Tether

/-- Identifies one setting of a slot. -/
structure Ticket where
  generation : Nat
deriving DecidableEq, Inhabited

/-- Every setting and every cancellation starts a new generation. -/
structure TimerSlot where
  generation : Nat := 0
  pending : Bool := false
deriving DecidableEq, Inhabited

namespace TimerSlot

def ticket (slot : TimerSlot) : Ticket := ⟨slot.generation⟩

/-- The ticket whose timer has to be stopped when the slot is set or cancelled. -/
def revoked (slot : TimerSlot) : Option Ticket := if slot.pending then some slot.ticket else none

/-- The slot after a timer is set; `ticket` of the result is the ticket of that setting. -/
def schedule (slot : TimerSlot) : TimerSlot := { generation := slot.generation + 1, pending := true }

def cancel (slot : TimerSlot) : TimerSlot := { generation := slot.generation + 1, pending := false }

/-- Whether the expiry with `ticket` is the pending timer's, which the slot then forgets. -/
def take (slot : TimerSlot) (ticket : Ticket) : Bool × TimerSlot :=
  if ticket = slot.ticket ∧ slot.pending = true then (true, { slot with pending := false })
  else (false, slot)

theorem take_schedule (slot : TimerSlot) :
    slot.schedule.take slot.schedule.ticket = (true, { slot.schedule with pending := false }) := by
  simp [take, schedule]

theorem take_cancel (slot : TimerSlot) (ticket : Ticket) :
    slot.cancel.take ticket = (false, slot.cancel) := by
  simp [take, cancel]

theorem take_take (slot : TimerSlot) (ticket : Ticket) :
    ((slot.take ticket).2.take ticket).1 = false := by
  unfold take
  split
  · simp
  · simp [*]

theorem take_stale {slot : TimerSlot} {ticket : Ticket}
    (older : ticket.generation < slot.generation) : slot.take ticket = (false, slot) := by
  have : ticket ≠ slot.ticket := by
    intro same
    rw [same] at older
    exact Nat.lt_irrefl _ older
  simp [take, this]

end TimerSlot

end Tether
