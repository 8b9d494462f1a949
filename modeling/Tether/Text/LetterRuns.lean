/-
# Tether.Text.LetterRuns -- what consecutive characters stand for

A table from characters to letters or words, written as the stretches of code points
that are in it: the first code point and, in order, what it and those after it stand for.
-/
import Tether.Text.Segments

set_option autoImplicit false

namespace Tether.Text

/-- First code points, ascending, each with a text for it and those after it. -/
abbrev LetterRuns := List (Nat × String)

namespace LetterRuns

/-- The last run that begins at `n` or before. -/
def near? (runs : LetterRuns) (n : Nat) : Option (Nat × String) :=
  (runs.takeWhile (·.1 ≤ n)).getLast?

/-- The letter for `n`, where a run has one letter for each code point. -/
def letter? (runs : LetterRuns) (n : Nat) : Option Char := do
  let (first, letters) ← runs.near? n
  letters.toList[n - first]?

/-- The word for `n`, where a run has one word for each code point, parted by spaces. -/
def word? (runs : LetterRuns) (n : Nat) : Option (List Char) := do
  let (first, words) ← runs.near? n
  (segments ' ' words.toList)[n - first]?

end LetterRuns

end Tether.Text
