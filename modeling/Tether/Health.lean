/-
# Tether.Health -- watching for silence

Every frame that counts restarts a silence timer.  When it runs out, the connection
is lost until the next such frame.  Disarming stops the watch and keeps the verdict.

* `expire_lost` -- only a claimed expiry marks the connection lost.
* `lost_frame`, `lost_disarm` -- a frame clears the mark, disarming leaves it.
-/
import Tether.Timer

set_option autoImplicit false

namespace Tether

structure HealthMonitor where
  timer : TimerSlot := {}
  lost : Bool := false
deriving DecidableEq, Inhabited

namespace HealthMonitor

/-- A frame counted: whether the connection had been lost, and the monitor watching anew. -/
def frameReceived (monitor : HealthMonitor) : Bool × HealthMonitor :=
  (monitor.lost, { timer := monitor.timer.schedule, lost := false })

/-- A silence timer ran out: whether that marks the connection lost.  Stale ones do not. -/
def expire (monitor : HealthMonitor) (ticket : Ticket) : Bool × HealthMonitor :=
  let (claimed, timer) := monitor.timer.take ticket
  (claimed, if claimed then { timer, lost := true } else monitor)

def disarm (monitor : HealthMonitor) : HealthMonitor :=
  { monitor with timer := monitor.timer.cancel }

theorem expire_lost (monitor : HealthMonitor) (ticket : Ticket) :
    (monitor.expire ticket).2.lost = ((monitor.expire ticket).1 || monitor.lost) := by
  unfold expire
  cases h : (monitor.timer.take ticket).1 <;> simp [h]

@[simp] theorem lost_frame (monitor : HealthMonitor) : monitor.frameReceived.2.lost = false := rfl

@[simp] theorem lost_disarm (monitor : HealthMonitor) : monitor.disarm.lost = monitor.lost := rfl

end HealthMonitor

end Tether
