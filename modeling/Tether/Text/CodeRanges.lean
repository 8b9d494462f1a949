/-
# Tether.Text.CodeRanges -- sets of code points as sorted ranges

A Unicode property is a set of code points, written as its maximal ranges in
ascending order.  The property tables of `Tether.Text` are values of this type,
and membership is the only question asked of them.

* `holds_cons`, `holds_nil` -- membership range by range.
* `holds_iff` -- a code point is in the set exactly when some range spans it.
-/
set_option autoImplicit false

namespace Tether.Text

/-- Inclusive ranges of code points, ascending and disjoint. -/
abbrev CodeRanges := List (Nat × Nat)

namespace CodeRanges

def holds : CodeRanges → Nat → Bool
  | [], _ => false
  | (first, last) :: rest, n => (first ≤ n && n ≤ last) || holds rest n

@[simp] theorem holds_nil (n : Nat) : holds [] n = false := rfl

@[simp] theorem holds_cons (first last : Nat) (rest : CodeRanges) (n : Nat) :
    holds ((first, last) :: rest) n = ((first ≤ n && n ≤ last) || holds rest n) := rfl

theorem holds_iff (ranges : CodeRanges) (n : Nat) :
    holds ranges n = true ↔ ∃ r ∈ ranges, r.1 ≤ n ∧ n ≤ r.2 := by
  induction ranges with
  | nil => simp
  | cons r rest ih =>
      obtain ⟨first, last⟩ := r
      simp [ih]

end CodeRanges

end Tether.Text
