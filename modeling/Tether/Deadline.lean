/-
# Tether.Deadline -- work under a time limit

The work is looked at before the limit, so work that is done at the very deadline
has completed.

* `run_elapsed_le` -- no more time passes than the limit allows.
* `run_completed_iff` -- the work completes exactly when it needs no more than the limit.
-/
set_option autoImplicit false

namespace Tether.Deadline

/-- How limited work ended, and the time that took. -/
structure Ending where
  completed : Bool
  elapsed : Nat
deriving DecidableEq

/-- Work that takes `work` (`none`: it never ends) under `limit`. -/
def run (work : Option Nat) (limit : Nat) : Ending :=
  match work with
  | some time => if time ≤ limit then ⟨true, time⟩ else ⟨false, limit⟩
  | none => ⟨false, limit⟩

def timedOut : String := "Operation timed out"

theorem run_elapsed_le (work : Option Nat) (limit : Nat) : (run work limit).elapsed ≤ limit := by
  unfold run
  split
  · split <;> simp [*]
  · exact Nat.le_refl _

theorem run_completed_iff (work : Option Nat) (limit : Nat) :
    (run work limit).completed = true ↔ ∃ time, work = some time ∧ time ≤ limit := by
  unfold run
  split
  · rename_i time
    by_cases within : time ≤ limit <;> simp [within]
  · simp

end Tether.Deadline
