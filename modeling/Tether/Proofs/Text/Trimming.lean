/-
# Tether.Proofs.Text.Trimming -- what trimming takes away

* `exists_padding` -- a text is its trimming with blanks around it.
* `tight_trim` -- no blank is left at either end.
* `trim_padded` -- blanks around a text do not change its trimming.
* `trim_eq_iff` -- so the trimming is the one text without blank ends that padding makes the text.
-/
import Mathlib.Data.List.TakeWhile
import Tether.Text.Segments

set_option autoImplicit false

namespace Tether.Text

def Blank (cs : List Char) : Prop := ∀ c ∈ cs, isBlank c = true

theorem Blank.reverse {cs : List Char} (blank : Blank cs) : Blank cs.reverse := by
  intro c there
  exact blank c (List.mem_reverse.1 there)

theorem blank_takeWhile (cs : List Char) : Blank (cs.takeWhile isBlank) := by
  intro c there
  exact List.mem_takeWhile_imp there

theorem trimEnd_padding (cs : List Char) : ∃ back, Blank back ∧ cs = trimEnd cs ++ back := by
  refine ⟨(cs.reverse.takeWhile isBlank).reverse, (blank_takeWhile _).reverse, ?_⟩
  rw [trimEnd, ← List.reverse_append, List.takeWhile_append_dropWhile, List.reverse_reverse]

theorem exists_padding (cs : List Char) :
    ∃ front back : List Char, Blank front ∧ Blank back ∧ cs = front ++ trim cs ++ back := by
  obtain ⟨back, blank, joined⟩ := trimEnd_padding (cs.dropWhile isBlank)
  refine ⟨cs.takeWhile isBlank, back, blank_takeWhile cs, blank, ?_⟩
  rw [List.append_assoc, trim, ← joined, List.takeWhile_append_dropWhile]

/-- No blank stands at either end of `cs`. -/
structure Tight (cs : List Char) : Prop where
  head : ∀ c, cs.head? = some c → isBlank c = false
  last : ∀ c, cs.getLast? = some c → isBlank c = false

theorem tight_trim (cs : List Char) : Tight (trim cs) := by
  constructor
  · intro c head
    have first := List.head?_dropWhile_not isBlank cs
    obtain ⟨back, -, joined⟩ := trimEnd_padding (cs.dropWhile isBlank)
    have kept : (cs.dropWhile isBlank).head? = some c := by
      rw [joined, List.head?_append]
      show (trim cs).head?.or _ = some c
      rw [head, Option.some_or]
    rw [kept] at first
    exact first
  · intro c last
    have first := List.head?_dropWhile_not isBlank (cs.dropWhile isBlank).reverse
    rw [trim, trimEnd, List.getLast?_reverse] at last
    rw [last] at first
    exact first

theorem dropWhile_of_head {cs : List Char} (head : ∀ c, cs.head? = some c → isBlank c = false) :
    cs.dropWhile isBlank = cs := by
  cases cs with
  | nil => rfl
  | cons c cs => exact List.dropWhile_cons_of_neg (Bool.eq_false_iff.1 (head c rfl))

theorem Tight.trim {cs : List Char} (tight : Tight cs) : trim cs = cs := by
  have reversed : cs.reverse.dropWhile isBlank = cs.reverse := by
    apply dropWhile_of_head
    intro c first
    rw [List.head?_reverse] at first
    exact tight.last c first
  unfold Text.trim
  rw [dropWhile_of_head tight.head, trimEnd, reversed, List.reverse_reverse]

theorem trimEnd_append {back : List Char} (blank : Blank back) (cs : List Char) :
    trimEnd (cs ++ back) = trimEnd cs := by
  unfold trimEnd
  rw [List.reverse_append, List.dropWhile_append_of_pos blank.reverse]

theorem trim_padded {front back : List Char} (before : Blank front) (after : Blank back)
    (cs : List Char) : trim (front ++ cs ++ back) = trim cs := by
  unfold trim
  rw [List.append_assoc, List.dropWhile_append_of_pos before, List.dropWhile_append]
  split
  · rename_i none_
    -- all of it is blank, so nothing is left on either side
    have nothing : back.dropWhile isBlank = [] := List.dropWhile_eq_nil_iff.2 after
    rw [nothing, List.isEmpty_iff.1 none_]
  · exact trimEnd_append after _

theorem trim_eq_iff {cs rest : List Char} : trim cs = rest ↔
    Tight rest ∧ ∃ front back, Blank front ∧ Blank back ∧ cs = front ++ rest ++ back := by
  constructor
  · rintro rfl
    exact ⟨tight_trim cs, exists_padding cs⟩
  · rintro ⟨tight, front, back, before, after, rfl⟩
    rw [trim_padded before after, tight.trim]

end Tether.Text
