/-
# Tether.Url.Domain.Label -- what the parts of a name may look like

A label does not begin with a mark.  A joiner stands where it changes something: after a
virama, or, the one that keeps letters apart, between two that would join.  If any label
of a name is written to the left, each of its labels shows which way it is written: by
its first and last characters, and by holding no letters of the other way.

* `isWellFormed_of_ascii` -- a label of ASCII characters has neither marks nor joiners.
-/
import Tether.Text.CombiningClass
import Tether.Text.Direction
import Tether.Text.Joining
import Tether.Url.Domain.Forms

set_option autoImplicit false

namespace Tether.Url.Domain

open Text (Direction)

/-! ## Joiners -/

def meets (joins : Char → Bool) (cs : List Char) : Bool :=
  (cs.dropWhile fun c => Text.isTransparent c && !joins c).head?.any joins

/-- Whether the joiners of a text are in place, where `before`, nearest first, stands before it. -/
def joinersFit (before : List Char) : List Char → Bool
  | [] => true
  | c :: rest =>
      (!isJoiner c || before.head?.any Text.isVirama ||
        (c.toNat = 0x200C && meets Text.joinsNext before && meets Text.joinsPrevious rest)) &&
        joinersFit (c :: before) rest

/-- Whether `label` may stand in a name, whatever else does. -/
def isWellFormed (label : List Char) : Bool :=
  !label.head?.any Text.isMark && joinersFit [] label

/-! ## Direction -/

/-- Whether a name that holds `c` has labels written to the left. -/
def turns (c : Char) : Bool :=
  match Direction.of c with
  | .left | .arabic => true
  | _ => false

def directions (label : List Char) : List Direction :=
  ((label.map Direction.of).reverse.dropWhile (· = .mark)).reverse

/-- Whether a label of these directions shows that it is written to the right. -/
def runsRight (label : List Direction) : Bool :=
  label.head? == some .right && label.all (fun d => d != .left && d != .arabic) &&
    label.getLast?.any (fun d => d == .right || d == .european)

/-- Whether a label of these directions shows that it is written to the left; its digits
are of one kind. -/
def runsLeft (label : List Direction) : Bool :=
  label.head? == some .left && label.all (· != .right) &&
    label.getLast?.any (fun d => d == .left || d == .european || d == .arabic) &&
    !(label.contains .european && label.contains .arabic)

/-- Whether `label` may stand in a name that has labels written to the left. -/
def isDirected (label : List Char) : Bool :=
  label.isEmpty || runsRight (directions label) || runsLeft (directions label)

/-! ## ASCII -/

theorem not_isMark_of_ascii {c : Char} (ascii : c.toNat < 0x80) : Text.isMark c = false := by
  have beyond : ∀ r ∈ Text.spacing, 0x80 ≤ r.1 := by decide +kernel
  have free : Text.spacing.holds c.toNat = false := by
    rw [Bool.eq_false_iff, ne_eq, Text.CodeRanges.holds_iff]
    rintro ⟨r, member, first, _⟩
    have := beyond r member
    omega
  have small : ¬0x300 ≤ c.toNat := by omega
  simp [Text.isMark, Text.isNonspacing, small, free]

theorem joinersFit_of_ascii (before : List Char) {cs : List Char}
    (ascii : ∀ c ∈ cs, c.toNat < 0x80) : joinersFit before cs = true := by
  induction cs generalizing before with
  | nil => rfl
  | cons c cs ih =>
      have here := ascii c (by simp)
      have plain : isJoiner c = false := by
        simp only [isJoiner, Bool.or_eq_false_iff, decide_eq_false_iff_not]
        omega
      simp [joinersFit, plain, ih (c :: before) fun d member => ascii d (by simp [member])]

theorem isWellFormed_of_ascii {label : List Char} (ascii : ∀ c ∈ label, c.toNat < 0x80) :
    isWellFormed label = true := by
  have unmarked : label.head?.any Text.isMark = false := by
    cases label with
    | nil => rfl
    | cons c label => exact not_isMark_of_ascii (ascii c (by simp))
  simp [isWellFormed, unmarked, joinersFit_of_ascii [] ascii]

end Tether.Url.Domain
