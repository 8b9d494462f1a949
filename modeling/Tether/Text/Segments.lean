/-
# Tether.Text.Segments -- cutting a text at a delimiter, and trimming it

`cutFirst` cuts at the first delimiter, `segments` at every one.  Neither knows of
any escape: a delimiter always cuts.

* `cutFirst_append` -- a piece free of the delimiter is what stands before the cut.
* `cutFirst_eq_some` -- the two sides of a cut, joined again, are the text.
* `cutFirst_eq_none` -- no cut exactly when there is no delimiter.
* `segments_of_cut`, `segments_of_not_mem` -- the first segment is the part before the first cut.
* `segments_eq_splitOn` -- the segments are the library's `List.splitOn`.
* `trim_of_ends` -- a text whose ends are not blank is its own trimming.
-/
import Tether.Text.CodeRanges

set_option autoImplicit false

namespace Tether.Text

def cutFirst (d : Char) : List Char → Option (List Char × List Char)
  | [] => none
  | c :: cs =>
      if c = d then some ([], cs)
      else (cutFirst d cs).map fun parts => (c :: parts.1, parts.2)

/-- The parts of `cs` between its `d`s; one part when there is none. -/
def segments (d : Char) : List Char → List (List Char)
  | [] => [[]]
  | c :: cs =>
      if c = d then [] :: segments d cs
      else
        match segments d cs with
        | [] => [[c]]
        | part :: parts => (c :: part) :: parts

theorem cutFirst_append {d : Char} {front : List Char} (free : d ∉ front) (back : List Char) :
    cutFirst d (front ++ d :: back) = some (front, back) := by
  induction front with
  | nil => simp [cutFirst]
  | cons c cs ih =>
      simp only [List.mem_cons, not_or] at free
      simp [cutFirst, Ne.symm free.1, ih free.2]

theorem cutFirst_eq_some {d : Char} {cs front back : List Char}
    (cut : cutFirst d cs = some (front, back)) : cs = front ++ d :: back ∧ d ∉ front := by
  induction cs generalizing front with
  | nil => simp [cutFirst] at cut
  | cons c cs ih =>
      simp only [cutFirst] at cut
      split at cut
      · rename_i same
        simp only [Option.some.injEq, Prod.mk.injEq] at cut
        obtain ⟨rfl, rfl⟩ := cut
        simp [same]
      · rename_i other
        simp only [Option.map_eq_some_iff, Prod.mk.injEq] at cut
        obtain ⟨parts, inner, rfl, rfl⟩ := cut
        obtain ⟨rejoined, free⟩ := ih inner
        refine ⟨by rw [rejoined]; rfl, ?_⟩
        simp [free, Ne.symm other]

theorem cutFirst_eq_none {d : Char} {cs : List Char} : cutFirst d cs = none ↔ d ∉ cs := by
  induction cs with
  | nil => simp [cutFirst]
  | cons c cs ih =>
      by_cases same : c = d
      · simp [cutFirst, same]
      · simp [cutFirst, same, ih, Ne.symm same]

theorem segments_ne_nil (d : Char) (cs : List Char) : segments d cs ≠ [] := by
  cases cs with
  | nil => simp [segments]
  | cons c cs =>
      simp only [segments]
      split
      · simp
      · split <;> simp

theorem segments_of_cut {d : Char} {cs front back : List Char}
    (cut : cutFirst d cs = some (front, back)) : segments d cs = front :: segments d back := by
  induction cs generalizing front with
  | nil => simp [cutFirst] at cut
  | cons c cs ih =>
      simp only [cutFirst] at cut
      split at cut
      · rename_i same
        simp only [Option.some.injEq, Prod.mk.injEq] at cut
        obtain ⟨rfl, rfl⟩ := cut
        simp [segments, same]
      · rename_i other
        simp only [Option.map_eq_some_iff, Prod.mk.injEq] at cut
        obtain ⟨parts, inner, rfl, rfl⟩ := cut
        simp [segments, other, ih inner]

theorem segments_of_not_mem {d : Char} {cs : List Char} (free : d ∉ cs) : segments d cs = [cs] := by
  induction cs with
  | nil => rfl
  | cons c cs ih =>
      simp only [List.mem_cons, not_or] at free
      simp [segments, Ne.symm free.1, ih free.2]

theorem segments_eq_splitOn (d : Char) (cs : List Char) : segments d cs = cs.splitOn d := by
  induction cs with
  | nil => exact (List.splitOn_nil d).symm
  | cons c cs ih =>
      rw [List.splitOn_cons_eq_if_modifyHead, ← ih, segments]
      simp only [beq_iff_eq]
      split
      · rfl
      · cases falls : segments d cs with
        | nil => exact absurd falls (segments_ne_nil d cs)
        | cons part parts => rfl

/-! ## Trimming -/

/-- The code points with White_Space. -/
def blanks : CodeRanges :=
  [(0x9, 0xD), (0x20, 0x20), (0x85, 0x85), (0xA0, 0xA0), (0x1680, 0x1680), (0x2000, 0x200A),
   (0x2028, 0x2029), (0x202F, 0x202F), (0x205F, 0x205F), (0x3000, 0x3000)]

def isBlank (c : Char) : Bool := blanks.holds c.toNat

def trimEnd (cs : List Char) : List Char := (cs.reverse.dropWhile isBlank).reverse

def trim (cs : List Char) : List Char := trimEnd (cs.dropWhile isBlank)

theorem trim_of_ends {c d : Char} {cs : List Char} (front : isBlank c = false)
    (back : isBlank d = false) : trim (c :: cs ++ [d]) = c :: cs ++ [d] := by
  simp [trim, trimEnd, front, back]

end Tether.Text
