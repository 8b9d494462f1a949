/-
# Tether.Proofs.Json.Declared -- declared records, read and written

By the laws of the calls an object gives a record if every known name in it has a value of its key,
once only: the record has the values that are there and the defaults of what is not, in whatever
order the names stand and whatever stands among them.  What is written of a record is such an object,
with every name there.

* `Describes` -- the objects that give a record some of its values.
* `visits_given` -- in such an object these values are found, and no others.
* `takes_overlay` -- so it is taken for the defaults with these values in their places.
* `kept` -- a record is taken from what is written of it.
-/
import Mathlib.Data.List.Nodup
import Tether.Proofs.Json.Laws

set_option autoImplicit false

namespace Tether.Json.Declared

open JsonKit (Visits)

section Slots

variable {Codec : Type → Type} {α : Type} {declared : Declared Codec α} (slots : declared.Slots)

theorem put_self (key : declared.Key) (value : declared.Value key) :
    put slots key value key = some value := by
  simp [put]

theorem put_other {key other : declared.Key} (apart : key ≠ other) (value : declared.Value key) :
    put slots key value other = slots other := by
  simp [put, apart]

end Slots

/-- The entries of an object that gives `given`, where `Spelled key value text` tells how a value is
written: all that is given and once only, in any order and with any other names among it. -/
structure Describes {Codec : Type → Type} {α : Type} (declared : Declared Codec α)
    (Spelled : (key : declared.Key) → declared.Value key → List Char → Prop)
    (given : declared.Slots) (entries : List Entry) : Prop where
  known : ∀ entry ∈ entries, ∀ key, declared.name key = entry.name →
    ∃ value, given key = some value ∧ Spelled key value entry.value
  unknown : ∀ entry ∈ entries, (∀ key, declared.name key ≠ entry.name) → IsValue entry.value
  once : ∀ key, (entries.map Entry.name).count (declared.name key) ≤ 1
  all : ∀ key, given key ≠ none → declared.name key ∈ entries.map Entry.name

section Gathered

variable {Codec : Type → Type} {α : Type} {declared : Declared Codec α}

/-- `slots` with what is given for the names of `entries`. -/
def gathered (given slots : declared.Slots) (entries : List Entry) : declared.Slots :=
  fun key => if declared.name key ∈ entries.map Entry.name then given key else slots key

variable {given slots : declared.Slots} {entries : List Entry} {text : List Char}

theorem gathered_known {key : declared.Key} {value : declared.Value key}
    (gone : declared.name key ∉ entries.map Entry.name) (here : given key = some value) :
    gathered given (put slots key value) entries =
      gathered given slots (⟨declared.name key, text⟩ :: entries) := by
  funext other
  by_cases same : key = other
  · subst same
    simp [gathered, gone, put_self, here]
  · have apart : declared.name other ≠ declared.name key := fun alike =>
      same (declared.name_injective alike).symm
    simp [gathered, put_other _ same, apart]

theorem gathered_unknown {name : String} (other : ∀ key, declared.name key ≠ name) :
    gathered given slots entries = gathered given slots (⟨name, text⟩ :: entries) := by
  funext key
  simp [gathered, other key]

end Gathered

section Visits

variable {U F : Type} {kit : JsonKit U} {urls : UrlKit U F} {takes : kit.Taking} {α : Type}
  {declared : Declared kit.Codec α} {given : declared.Slots} {entries : List Entry}

theorem visits_from {slots : declared.Slots}
    (known : ∀ entry ∈ entries, ∀ key, declared.name key = entry.name →
      ∃ value, given key = some value ∧ takes _ (declared.codec key) entry.value value)
    (unknown : ∀ entry ∈ entries, (∀ key, declared.name key ≠ entry.name) → IsValue entry.value)
    (once : ∀ key, (entries.map Entry.name).count (declared.name key) ≤ 1)
    (fresh : ∀ key, declared.name key ∈ entries.map Entry.name → slots key = none) :
    Visits takes declared slots entries (gathered given slots entries) := by
  induction entries generalizing slots with
  | nil => exact .done
  | cons entry entries ih =>
      obtain ⟨name, text⟩ := entry
      have known' := fun entry member => known entry (List.mem_cons_of_mem _ member)
      have unknown' := fun entry member => unknown entry (List.mem_cons_of_mem _ member)
      have once' : ∀ key, (entries.map Entry.name).count (declared.name key) ≤ 1 := fun key =>
        Nat.le_trans (List.Sublist.count_le _ (List.sublist_cons_self _ _)) (once key)
      by_cases named : ∃ key, declared.name key = name
      · obtain ⟨key, rfl⟩ := named
        obtain ⟨value, here, taken⟩ := known _ List.mem_cons_self key rfl
        have gone : declared.name key ∉ entries.map Entry.name := by
          intro again
          have twice := once key
          rw [List.map_cons, List.count_cons_self] at twice
          have some_ := List.count_pos_iff.2 again
          omega
        rw [← gathered_known gone here]
        refine .known (fresh key List.mem_cons_self) taken (ih known' unknown' once' ?_)
        intro other member
        have apart : key ≠ other := fun same => gone (same ▸ member)
        rw [put_other _ apart]
        exact fresh other (List.mem_cons_of_mem _ member)
      · have other : ∀ key, declared.name key ≠ name := fun key same => named ⟨key, same⟩
        rw [← gathered_unknown other]
        refine .unknown other (unknown _ List.mem_cons_self other) (ih known' unknown' once' ?_)
        exact fun key member => fresh key (List.mem_cons_of_mem _ member)

/-- **What is given is found, and nothing else.** -/
theorem visits_given {Spelled : (key : declared.Key) → declared.Value key → List Char → Prop}
    (describes : Describes declared Spelled given entries)
    (taken : ∀ {key value text}, Spelled key value text → takes _ (declared.codec key) text value) :
    Visits takes declared (fun _ => none) entries given := by
  have visits : Visits takes declared (fun _ => none) entries
      (gathered given (fun _ => none) entries) := by
    refine visits_from (fun entry member key same => ?_) describes.unknown describes.once
      fun _ _ => rfl
    obtain ⟨value, here, said⟩ := describes.known entry member key same
    exact ⟨value, here, taken said⟩
  have whole : gathered given (fun _ => none) entries = given := by
    funext key
    unfold gathered
    split
    · rfl
    · rename_i missing
      cases here : given key with
      | none => rfl
      | some value => exact absurd (describes.all key (by simp [here])) missing
  rwa [whole] at visits

/-- **An object is taken for the defaults with what it gives in their places.** -/
theorem takes_overlay (lawful : kit.Lawful urls takes)
    {Spelled : (key : declared.Key) → declared.Value key → List Char → Prop}
    (describes : Describes declared Spelled given entries)
    (taken : ∀ {key value text}, Spelled key value text → takes _ (declared.codec key) text value)
    (base : α) (defaults : ∀ key, given key = none →
      value? (fun _ => none : declared.Slots) key = some (declared.part base key))
    {cs : List Char} (object : IsObject entries cs) :
    takes _ (kit.record declared) cs (overlay given base) := by
  refine lawful.takes_record object (visits_given describes taken) fun key => ?_
  cases here : given key with
  | some value => simp [value?, here]
  | none =>
      have default := defaults key here
      simp only [value?, here] at default ⊢
      simpa using default

end Visits

section Written

variable {U F : Type} {kit : JsonKit U} {urls : UrlKit U F} {takes : kit.Taking} {α : Type}
  (declared : Declared kit.Codec α) (a : α)

/-- The entries of what is written of a record. -/
def written : List Entry :=
  declared.keys.map fun key =>
    ⟨declared.name key, (kit.write (declared.codec key) (declared.part a key)).toList⟩

theorem names_written : (declared.written a).map Entry.name = declared.keys.map declared.name := by
  rw [written, List.map_map]
  rfl

variable {declared a}

/-- What is written of a record gives all of it. -/
theorem describes_written
    (parts : ∀ key, kit.Kept takes (declared.codec key) (declared.part a key)) :
    Describes declared (fun key value text => takes _ (declared.codec key) text value)
      (fun key => some (declared.part a key)) (declared.written a) where
  known := by
    intro entry member key same
    obtain ⟨other, -, rfl⟩ := List.mem_map.1 member
    obtain rfl := declared.name_injective same
    exact ⟨_, rfl, parts key⟩
  unknown := by
    intro entry member other
    obtain ⟨key, -, rfl⟩ := List.mem_map.1 member
    exact absurd rfl (other key)
  once := by
    intro key
    have nodup : (declared.keys.map declared.name).Nodup :=
      declared.nodup.map fun _ _ same => declared.name_injective same
    rw [names_written]
    exact List.nodup_iff_count_le_one.1 nodup _
  all := by
    intro key _
    rw [names_written]
    exact List.mem_map_of_mem (declared.complete key)

/-- **A record is taken from what is written of it**, if every part of it is. -/
theorem kept (lawful : kit.Lawful urls takes)
    (parts : ∀ key, kit.Kept takes (declared.codec key) (declared.part a key)) :
    kit.Kept takes (kit.record declared) a := by
  have taken := takes_overlay lawful (describes_written parts) id a
    (fun _ missing => (Option.some_ne_none _ missing).elim) (lawful.write_record declared a)
  have whole : overlay (fun key => some (declared.part a key)) a = a := declared.make_part a
  rwa [whole] at taken

end Written

end Tether.Json.Declared
