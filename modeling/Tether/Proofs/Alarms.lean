/-
# Tether.Proofs.Alarms -- the alarms of a clock

* `mem_set`, `mem_cancel` -- which alarms there are after one is set, and after some are cancelled.
* `soonest_some` -- the alarm that fires is due, and none is due before it.
* `soonest_none` -- where none fires, none is due.
* `next?_split`, `next?_some`, `mem_after` -- what is left on the clock when one fires.
* `rings` -- the alarms that fire until nothing more is due, each with the time at which it does.
* `set_relabel`, `cancel_relabel`, `next?_relabel`, `drain_relabel` -- a clock goes the same way
  whatever its tags are called.
-/
import Tether.Clock

set_option autoImplicit false

namespace Tether.Clock

section Alarms

variable {α : Type} (clock : Clock α) {alarm : Nat × α}

theorem set_now (delay : Nat) (tag : α) : (clock.set delay tag).now = clock.now := by
  unfold set
  split <;> rfl

theorem mem_set {delay : Nat} {tag : α} :
    alarm ∈ (clock.set delay tag).alarms ↔
      alarm ∈ clock.alarms ∨ delay < never ∧ alarm = (clock.now + delay, tag) := by
  unfold set
  split
  · rename_i finite
    simp [finite]
  · rename_i endless
    simp [endless]

theorem mem_cancel {p : α → Bool} :
    alarm ∈ (clock.cancel p).alarms ↔ alarm ∈ clock.alarms ∧ p alarm.2 = false := by
  simp [cancel]

end Alarms

section Soonest

variable {α : Type} {limit : Nat} {alarms : List (Nat × α)}

theorem soonest_none (found : soonest limit alarms = none) :
    ∀ alarm ∈ alarms, limit < alarm.1 := by
  induction alarms with
  | nil => exact nofun
  | cons head rest ih =>
      unfold soonest at found
      split at found
      · rename_i none
        split at found
        · cases found
        · rename_i later
          intro alarm member
          rcases List.mem_cons.1 member with rfl | inside
          · exact Nat.lt_of_not_le later
          · exact ih none alarm inside
      · split at found <;> cases found

/-- The alarm that fires first is due, none is due before it, and the others stay in order. -/
theorem soonest_some {alarm : Nat × α} {others : List (Nat × α)}
    (found : soonest limit alarms = some (alarm, others)) :
    alarm.1 ≤ limit ∧ (∀ other ∈ alarms, alarm.1 ≤ other.1) ∧
      ∃ first rest, alarms = first ++ alarm :: rest ∧ others = first ++ rest := by
  induction alarms generalizing alarm others with
  | nil => cases found
  | cons head rest ih =>
      unfold soonest at found
      split at found
      · rename_i none
        split at found
        · rename_i due
          cases found
          refine ⟨due, ?_, [], rest, rfl, rfl⟩
          intro other member
          rcases List.mem_cons.1 member with rfl | inside
          · exact Nat.le_refl _
          · exact Nat.le_of_lt (Nat.lt_of_le_of_lt due (soonest_none none other inside))
        · cases found
      · rename_i next kept inner
        obtain ⟨due, least, first, last, split, left⟩ := ih inner
        split at found
        · rename_i sooner
          cases found
          refine ⟨Nat.le_trans sooner due, ?_, [], rest, rfl, rfl⟩
          intro other member
          rcases List.mem_cons.1 member with rfl | inside
          · exact Nat.le_refl _
          · exact Nat.le_trans sooner (least other inside)
        · rename_i later
          cases found
          refine ⟨due, ?_, head :: first, last, by rw [split]; rfl, by rw [left]; rfl⟩
          intro other member
          rcases List.mem_cons.1 member with rfl | inside
          · exact Nat.le_of_lt (Nat.lt_of_not_le later)
          · exact least other inside

/-- The alarm that fires is taken out where it stands. -/
theorem next?_split {clock after : Clock α} {tag : α}
    (fires : clock.next? limit = some (tag, after)) :
    ∃ due first rest, clock.alarms = first ++ (due, tag) :: rest ∧
      after.alarms = first ++ rest ∧ after.now = max clock.now due ∧ due ≤ limit ∧
        ∀ other ∈ clock.alarms, due ≤ other.1 := by
  unfold next? at fires
  split at fires
  · cases fires
  · rename_i due other others found
    cases fires
    obtain ⟨reached, least, first, rest, split, left⟩ := soonest_some found
    exact ⟨due, first, rest, split, left, rfl, reached, least⟩

/-- When an alarm fires, the clock shows its due time, and the others are left. -/
theorem next?_some {clock after : Clock α} {tag : α}
    (fires : clock.next? limit = some (tag, after)) :
    ∃ due, due ≤ limit ∧ after.now = max clock.now due ∧
      (∀ other ∈ clock.alarms, due ≤ other.1) ∧
      ∀ other, other ∈ clock.alarms ↔ other = (due, tag) ∨ other ∈ after.alarms := by
  obtain ⟨due, first, rest, split, left, shown, reached, least⟩ := next?_split fires
  refine ⟨due, reached, shown, least, fun other => ?_⟩
  simp only [split, left, List.mem_append, List.mem_cons]
  exact or_left_comm

theorem next?_sublist {clock after : Clock α} {tag : α}
    (fires : clock.next? limit = some (tag, after)) : after.alarms.Sublist clock.alarms := by
  obtain ⟨due, first, rest, split, left, -⟩ := next?_split fires
  rw [split, left]
  exact (List.Sublist.refl first).append (List.sublist_cons_self _ rest)

/-- Where no two alarms have the same tag, those of other tags than the one that fires are left. -/
theorem mem_after {clock after : Clock α} {tag : α}
    (apart : (clock.alarms.map Prod.snd).Nodup) (fires : clock.next? limit = some (tag, after))
    {alarm : Nat × α} :
    alarm ∈ after.alarms ↔ alarm ∈ clock.alarms ∧ alarm.2 ≠ tag := by
  obtain ⟨due, first, rest, split, left, -⟩ := next?_split fires
  have gone : tag ∉ after.alarms.map Prod.snd := by
    rw [split, List.map_append, List.map_cons, List.perm_middle.nodup_iff, ← List.map_append,
      ← left] at apart
    exact (List.nodup_cons.1 apart).1
  constructor
  · intro inside
    refine ⟨(next?_sublist fires).subset inside, fun same => gone ?_⟩
    rw [← same]
    exact List.mem_map_of_mem inside
  · rintro ⟨inside, other⟩
    rw [split, List.mem_append, List.mem_cons] at inside
    rw [left, List.mem_append]
    rcases inside with before | rfl | behind
    · exact .inl before
    · exact absurd rfl other
    · exact .inr behind

theorem next?_none {clock : Clock α} (silent : clock.next? limit = none) :
    ∀ alarm ∈ clock.alarms, limit < alarm.1 := by
  unfold next? at silent
  split at silent
  · exact soonest_none ‹_›
  · cases silent

end Soonest

section Rings

variable {α : Type}

/-- The alarms that `drain` fires, in order, each with the time at which it does. -/
def rings (limit : Nat) (clock : Clock α) : List (Nat × α) :=
  match _found : clock.next? limit with
  | none => []
  | some (tag, after) => (after.now, tag) :: rings limit after
termination_by clock.alarms.length
decreasing_by have := next?_length _found; omega

theorem rings_none {limit : Nat} {clock : Clock α} (silent : clock.next? limit = none) :
    clock.rings limit = [] ∧ clock.drain limit = ([], clock) := by
  unfold rings drain
  constructor
  · split
    · rfl
    · rename_i fires
      cases silent.symm.trans fires
  · split
    · rfl
    · rename_i fires
      cases silent.symm.trans fires

theorem rings_some {limit : Nat} {clock after : Clock α} {tag : α}
    (fires : clock.next? limit = some (tag, after)) :
    clock.rings limit = (after.now, tag) :: after.rings limit ∧
      clock.drain limit = (tag :: (after.drain limit).1, (after.drain limit).2) := by
  conv in clock.rings limit => unfold rings
  conv in clock.drain limit => unfold drain
  constructor
  · split
    · rename_i silent
      cases silent.symm.trans fires
    · rename_i fires'
      cases fires.symm.trans fires'
      rfl
  · split
    · rename_i silent
      cases silent.symm.trans fires
    · rename_i fires'
      cases fires.symm.trans fires'
      rfl

/-- What `drain` gives is what rings. -/
theorem drain_fst (limit : Nat) (clock : Clock α) :
    (clock.drain limit).1 = (clock.rings limit).map Prod.snd := by
  generalize size : clock.alarms.length = n
  induction n using Nat.strongRecOn generalizing clock with
  | _ n ih =>
      cases next : clock.next? limit with
      | none => rw [(rings_none next).1, (rings_none next).2, List.map_nil]
      | some fired =>
          obtain ⟨tag, after⟩ := fired
          have shorter := next?_length next
          rw [(rings_some next).1, (rings_some next).2, List.map_cons,
            ih after.alarms.length (by omega) after rfl]

end Rings

section Relabel

variable {α β : Type} (name : α → β)

def relabel (clock : Clock α) : Clock β where
  now := clock.now
  alarms := clock.alarms.map (Prod.map id name)

theorem set_relabel (clock : Clock α) (delay : Nat) (tag : α) :
    (clock.set delay tag).relabel name = (clock.relabel name).set delay (name tag) := by
  unfold set
  split
  · simp [relabel]
  · rfl

theorem cancel_relabel (clock : Clock α) {p : α → Bool} {q : β → Bool}
    (same : ∀ tag, q (name tag) = p tag) :
    (clock.cancel p).relabel name = (clock.relabel name).cancel q := by
  simp [cancel, relabel, List.filter_map, Function.comp_def, same]

theorem soonest_relabel (limit : Nat) (alarms : List (Nat × α)) :
    soonest limit (alarms.map (Prod.map id name)) =
      (soonest limit alarms).map (Prod.map (Prod.map id name) (List.map (Prod.map id name))) := by
  induction alarms with
  | nil => rfl
  | cons head rest ih =>
      rw [List.map_cons]
      unfold soonest
      rw [ih]
      cases soonest limit rest with
      | none =>
          dsimp only [Option.map_none, Prod.map_fst, id_eq]
          split <;> rfl
      | some found =>
          dsimp only [Option.map_some, Prod.map_fst, id_eq]
          split <;> rfl

theorem next?_relabel (limit : Nat) (clock : Clock α) :
    (clock.relabel name).next? limit =
      (clock.next? limit).map (Prod.map name (relabel name)) := by
  unfold next?
  have alarms : (clock.relabel name).alarms = clock.alarms.map (Prod.map id name) := rfl
  rw [alarms, soonest_relabel]
  cases soonest limit clock.alarms <;> rfl

/-- The same alarms ring, at the same times. -/
theorem drain_relabel (limit : Nat) (clock : Clock α) :
    (clock.relabel name).rings limit = (clock.rings limit).map (Prod.map id name) ∧
      (clock.relabel name).drain limit =
        ((clock.drain limit).1.map name, (clock.drain limit).2.relabel name) := by
  generalize size : clock.alarms.length = n
  induction n using Nat.strongRecOn generalizing clock with
  | _ n ih =>
      have renamed := next?_relabel name limit clock
      cases next : clock.next? limit with
      | none =>
          rw [next] at renamed
          rw [(rings_none renamed).1, (rings_none renamed).2, (rings_none next).1,
            (rings_none next).2]
          exact ⟨rfl, rfl⟩
      | some fired =>
          obtain ⟨tag, after⟩ := fired
          have shorter := next?_length next
          rw [next] at renamed
          obtain ⟨rings, drain⟩ := ih after.alarms.length (by omega) after rfl
          rw [(rings_some renamed).1, (rings_some renamed).2, (rings_some next).1,
            (rings_some next).2, rings, drain]
          exact ⟨rfl, rfl⟩

end Relabel

end Tether.Clock
