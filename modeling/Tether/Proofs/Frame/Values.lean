/-
# Tether.Proofs.Frame.Values -- what escaping writes

`unescape` is lenient: it takes whatever follows an escape mark, and a last escape mark stands for
itself.  So many texts are read as one value, but only one of them is written for it.  Which one
cannot be told character by character, since an escape mark may be what another one takes along;
`Written` reads from the left.

* `escapeChars_unescapeChars_iff` -- the written texts are those that reading and writing again keeps.
* `Written.sealed` -- a written text ends at the delimiter after it.
* `escape_inverse` -- writing and reading undo each other between all values and the written texts.
-/
import Tether.Proofs.Frame.Pieces

set_option autoImplicit false

namespace Tether.Frame

/-- Read from the left, each escape mark takes a special character along, and no other delimiter
occurs. -/
inductive Written : List Char → Prop
  | nil : Written []
  | plain {c : Char} {cs : List Char} (plain : isSpecial c = false) (rest : Written cs) :
      Written (c :: cs)
  | escaped {c : Char} {cs : List Char} (special : isSpecial c = true) (rest : Written cs) :
      Written (escapeMark :: c :: cs)

theorem written_escapeChars (value : List Char) : Written (escapeChars value) := by
  induction value with
  | nil => exact .nil
  | cons c cs ih =>
      simp only [escapeChars]
      split
      · rename_i special
        exact .escaped special ih
      · rename_i plain
        exact .plain (Bool.eq_false_iff.2 plain) ih

theorem Written.escapeChars_unescapeChars {cs : List Char} (written : Written cs) :
    escapeChars (unescapeChars cs) = cs := by
  induction written with
  | nil => rfl
  | @plain c cs plain _ ih =>
      have unmarked : c ≠ escapeMark := by
        intro same
        rw [same] at plain
        exact absurd plain (by decide)
      rw [unescapeChars_cons unmarked, escapeChars, plain, if_neg Bool.false_ne_true, ih]
  | @escaped c cs special _ ih =>
      show escapeChars (c :: unescapeChars cs) = escapeMark :: c :: cs
      rw [escapeChars, if_pos special, ih]

theorem escapeChars_unescapeChars_iff {cs : List Char} :
    escapeChars (unescapeChars cs) = cs ↔ Written cs := by
  constructor
  · intro kept
    rw [← kept]
    exact written_escapeChars (unescapeChars cs)
  · exact Written.escapeChars_unescapeChars

instance (cs : List Char) : Decidable (Written cs) :=
  decidable_of_iff _ escapeChars_unescapeChars_iff

/-- Being written is more than being sealed: an escape mark takes nothing plain along. -/
theorem Written.sealed {cs : List Char} (written : Written cs) : Sealed cs := by
  induction written with
  | nil => exact .nil
  | plain plain _ ih => exact .plain plain ih
  | escaped _ _ ih => exact .escaped _ ih

theorem escape_unescape_iff {written : String} :
    escape (unescape written) = written ↔ Written written.toList := by
  rw [← escapeChars_unescapeChars_iff, ← String.toList_inj]
  simp [escape, unescape]

/-- **Writing and reading values undo each other**: every value is read back as it was; the texts
that are written for some value are the `Written` ones, and these alone are written again as they
were.  Two values after one another are written as the first and then the second. -/
theorem escape_inverse :
    (∀ value : String, unescape (escape value) = value) ∧
      (∀ written : String, (∃ value, escape value = written) ↔ Written written.toList) ∧
      (∀ written : String, escape (unescape written) = written ↔ Written written.toList) ∧
      ∀ front back : String, escape (front ++ back) = escape front ++ escape back := by
  refine ⟨unescape_escape, fun written => ?_, fun written => escape_unescape_iff, ?_⟩
  · constructor
    · rintro ⟨value, rfl⟩
      rw [escape, String.toList_ofList]
      exact written_escapeChars value.toList
    · intro whole
      exact ⟨unescape written, escape_unescape_iff.2 whole⟩
  · intro front back
    simp [escape, escapeChars_append]

/-- Where the marks stand in pairs, the delimiter after them is bare. -/
example : Written r"\\\&".toList ∧ ¬Written r"\\&".toList ∧ ¬Written r"\a".toList ∧
    ¬Written r"a\".toList := by decide

end Tether.Frame
