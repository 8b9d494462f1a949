/-
# Tether.Text.Normal -- one spelling for each text

A text is taken apart into letters and marks, the marks on a letter are put in the order
of their classes, and then every letter takes up the marks that it has a composite with,
unless a mark that stays apart stands in between.  What comes out is the same for all
spellings of a text: Normalization Form C.

* `order_of_starters` -- characters that stand by themselves keep their order.
-/
import Tether.Text.Canonical
import Tether.Text.CombiningClass

set_option autoImplicit false

namespace Tether.Text

/-! ## Hangul

A syllable is a leading consonant, a vowel and perhaps a trailing consonant; the
syllables are in the order of these. -/

namespace Hangul

def firstSyllable : Nat := 0xAC00
def firstLeading : Nat := 0x1100
def firstVowel : Nat := 0x1161

def noTrailing : Nat := 0x11A7

def isSyllable (n : Nat) : Bool := firstSyllable ≤ n && n < firstSyllable + 19 * 21 * 28

def parts (n : Nat) : List Nat :=
  let index := n - firstSyllable
  let front := [firstLeading + index / (21 * 28), firstVowel + index / 28 % 21]
  if index % 28 = 0 then front else front ++ [noTrailing + index % 28]

/-- The syllable of a leading consonant and a vowel, or of a syllable without a trailing
consonant and one. -/
def join? (a b : Nat) : Option Nat :=
  if firstLeading ≤ a && a < firstLeading + 19 && firstVowel ≤ b && b < firstVowel + 21 then
    some (firstSyllable + ((a - firstLeading) * 21 + (b - firstVowel)) * 28)
  else if isSyllable a && (a - firstSyllable) % 28 = 0 && noTrailing < b && b < noTrailing + 28 then
    some (a + (b - noTrailing))
  else none

end Hangul

/-! ## Taking apart -/

/-- The preferred spelling of `c` where it is not `c` itself. -/
def preferred (c : Char) : List Char :=
  match aliases.letter? c.toNat with
  | some letter => [letter]
  | none =>
      match expansions.find? (·.1 = c.toNat) with
      | some (_, points) => points.map Char.ofNat
      | none => [c]

/-- `c` taken apart by `table`, before `rest`. -/
def divide (c : Char) (rest : List Char) : List Composite → List Char
  | [] => c :: rest
  | k :: table =>
      if k.whole = c.toNat then divide (Char.ofNat k.first) (Char.ofNat k.second :: rest) table
      else divide c rest table

def decompose (c : Char) : List Char :=
  if Hangul.isSyllable c.toNat then (Hangul.parts c.toNat).map Char.ofNat
  else (preferred c).flatMap fun c => divide c [] composites

/-! ## Order -/

/-- Put `c` after `before`, nearest first, but in front of the marks of greater class. -/
def place (c : Char) : List Char → List Char
  | [] => [c]
  | mark :: before =>
      if 0 < combiningClass c && combiningClass c < combiningClass mark then
        mark :: place c before
      else c :: mark :: before

def order (cs : List Char) : List Char := (cs.foldl (fun before c => place c before) []).reverse

theorem order_of_starters {cs : List Char} (starters : ∀ c ∈ cs, combiningClass c = 0) :
    order cs = cs := by
  suffices all : ∀ before, cs.foldl (fun before c => place c before) before = cs.reverse ++ before by
    simp [order, all]
  induction cs with
  | nil => simp
  | cons c cs ih =>
      intro before
      have here : place c before = c :: before := by
        cases before <;> simp [place, starters c (by simp)]
      rw [List.foldl_cons, here, ih fun d member => starters d (by simp [member])]
      simp

/-! ## Putting together -/

def composite? (a b : Char) : Option Char :=
  match Hangul.join? a.toNat b.toNat with
  | some syllable => some (Char.ofNat syllable)
  | none =>
      (composites.find? fun k => k.first = a.toNat && k.second = b.toNat).map (Char.ofNat ·.whole)

/-- Put a text together that begins with `letter` and the marks that stay apart from it,
nearest first. -/
def composeFrom (letter : Char) (apart : List Char) : List Char → List Char
  | [] => letter :: apart.reverse
  | c :: rest =>
      let parted := apart.head?.any fun mark => combiningClass c ≤ combiningClass mark
      match if parted then none else composite? letter c with
      | some whole => composeFrom whole apart rest
      | none =>
          if combiningClass c = 0 then letter :: apart.reverse ++ composeFrom c [] rest
          else composeFrom letter (c :: apart) rest

def compose : List Char → List Char
  | [] => []
  | c :: rest => if combiningClass c = 0 then composeFrom c [] rest else c :: compose rest

/-- `cs` in Normalization Form C. -/
def normal (cs : List Char) : List Char := compose (order (cs.flatMap decompose))

end Tether.Text
