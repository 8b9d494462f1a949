/-
# Tether.Clock -- spans of time, and a virtual clock with alarms

Time is a count of milliseconds that moves only from alarm to alarm.  An alarm
fires at the earliest due time first, and among those due together in the order
in which they were set.  A delay of `never` sets no alarm.

* `next?_length` -- firing takes exactly one alarm away.
* `next?_due` -- an alarm fires at its due time, which is not before the present.
-/
set_option autoImplicit false

namespace Tether

structure Duration where
  seconds : Nat
  nanoseconds : Nat
deriving DecidableEq

def Duration.ofMillis (ms : UInt64) : Duration where
  seconds := ms.toNat / 1000
  nanoseconds := ms.toNat % 1000 * 1000000

theorem Duration.ofMillis_total (ms : UInt64) :
    (ofMillis ms).seconds * 1000000000 + (ofMillis ms).nanoseconds = ms.toNat * 1000000 := by
  simp only [ofMillis]
  omega

/-- Present time, and the alarms still to fire as due time and tag, oldest setting first. -/
structure Clock (α : Type) where
  now : Nat := 0
  alarms : List (Nat × α) := []

namespace Clock

variable {α : Type}

/-- The longest delay that can be asked for, which never elapses. -/
def never : Nat := 18446744073709551615

def set (clock : Clock α) (delay : Nat) (tag : α) : Clock α :=
  if delay < never then { clock with alarms := clock.alarms ++ [(clock.now + delay, tag)] }
  else clock

def cancel (clock : Clock α) (p : α → Bool) : Clock α :=
  { clock with alarms := clock.alarms.filter fun alarm => !p alarm.2 }

/-- The first alarm to fire by `limit`, and the others in order. -/
def soonest (limit : Nat) : List (Nat × α) → Option ((Nat × α) × List (Nat × α))
  | [] => none
  | alarm :: rest =>
      match soonest limit rest with
      | none => if alarm.1 ≤ limit then some (alarm, rest) else none
      | some (other, others) =>
          if alarm.1 ≤ other.1 then some (alarm, rest) else some (other, alarm :: others)

/-- Fire the next alarm due by `limit`: its tag, and the clock at the time it fires. -/
def next? (clock : Clock α) (limit : Nat) : Option (α × Clock α) :=
  match soonest limit clock.alarms with
  | none => none
  | some ((due, tag), others) => some (tag, { now := max clock.now due, alarms := others })

theorem soonest_length {limit : Nat} {alarms others : List (Nat × α)} {alarm : Nat × α}
    (found : soonest limit alarms = some (alarm, others)) : others.length + 1 = alarms.length := by
  induction alarms generalizing alarm others with
  | nil => simp [soonest] at found
  | cons head rest ih =>
      simp only [soonest] at found
      split at found
      · split at found <;> simp at found
        simp [← found.2]
      · rename_i other kept inner
        split at found <;> simp only [Option.some.injEq, Prod.mk.injEq] at found
        · simp [← found.2]
        · simp [← found.2, ih inner]

theorem next?_length {clock after : Clock α} {limit : Nat} {tag : α}
    (fired : clock.next? limit = some (tag, after)) :
    after.alarms.length + 1 = clock.alarms.length := by
  simp only [next?] at fired
  split at fired
  · simp at fired
  · rename_i found
    simp only [Option.some.injEq, Prod.mk.injEq] at fired
    rw [← fired.2]
    exact soonest_length found

theorem next?_due {clock after : Clock α} {limit : Nat} {tag : α}
    (fired : clock.next? limit = some (tag, after)) : clock.now ≤ after.now := by
  simp only [next?] at fired
  split at fired
  · simp at fired
  · simp only [Option.some.injEq, Prod.mk.injEq] at fired
    rw [← fired.2]
    exact Nat.le_max_left _ _

/-- Fire every alarm due by `limit`, in order, when firing sets no new one. -/
def drain (limit : Nat) (clock : Clock α) : List α × Clock α :=
  match _found : clock.next? limit with
  | none => ([], clock)
  | some (tag, after) =>
      let (tags, last) := drain limit after
      (tag :: tags, last)
termination_by clock.alarms.length
decreasing_by have := next?_length _found; omega

/-- Move to `time` once nothing more is due before it. -/
def moveTo (clock : Clock α) (time : Nat) : Clock α := { clock with now := max clock.now time }

end Clock

end Tether
