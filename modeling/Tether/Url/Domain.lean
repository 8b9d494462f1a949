/-
# Tether.Url.Domain -- host names in ASCII

A name is a row of labels between dots.  Every character of it is replaced by the form in
which a name holds it, and the outcome is spelled in one way.  A label beyond ASCII is
written as `xn--` and its Punycode; one that already begins with `xn--` must be the
Punycode of a label that needed it.  So all spellings of a name have the same ASCII form.

* `isASCII_of_ascii?` -- what comes out is ASCII.
-/
import Tether.Text.Normal
import Tether.Text.Segments
import Tether.Url.Domain.Label
import Tether.Url.Punycode

set_option autoImplicit false

namespace Tether.Url.Domain

/-- Characters that no name holds: controls, the space, and those with a meaning in a URL. -/
def isForbidden (c : Char) : Bool :=
  c.toNat ≤ 0x20 || c.toNat = 0x7F ||
    ['%', '#', '/', ':', '<', '>', '?', '@', '[', '\\', ']', '^', '|'].contains c

def isASCII (cs : List Char) : Bool := cs.all (·.toNat < 0x80)

/-- `cs` as a name spells it. -/
def spelled? (cs : List Char) : Option (List Char) :=
  (cs.mapM form?).map fun forms => Text.normal forms.flatten

/-- Announces the Punycode of a label. -/
def mark : List Char := ['x', 'n', '-', '-']

def longest : Nat := 1000

/-- A label: what it says, and how it is written in ASCII. -/
structure Label where
  text : List Char
  ascii : List Char
deriving DecidableEq

/-- The label that says `text`, which is spelled as in a name. -/
def Label.ofText? (text : List Char) : Option Label :=
  if isASCII text then some { text, ascii := text }
  else
    let ascii := mark ++ Punycode.encode text
    if isWellFormed text && text.length ≤ longest && isASCII ascii then some { text, ascii }
    else none

def Label.ofCode? (code : List Char) : Option Label := do
  let text ← Punycode.decode code
  let label ← Label.ofText? text
  if spelled? text = some text && label.ascii = mark ++ code then some label else none

/-- The label that `cs` is, spelled as in a name. -/
def Label.read? (cs : List Char) : Option Label :=
  if mark.isPrefixOf cs then Label.ofCode? (cs.drop mark.length) else Label.ofText? cs

def joined : List (List Char) → List Char
  | [] => []
  | [label] => label
  | label :: labels => label ++ '.' :: joined labels

/-- Whether the labels agree on the way they are written. -/
def areDirected (labels : List Label) : Bool :=
  !(labels.any fun label => label.text.any turns) || labels.all fun label => isDirected label.text

/-- The ASCII form of a name in any spelling. -/
def ascii? (cs : List Char) : Option (List Char) := do
  let name ← spelled? cs
  let labels ← (Text.segments '.' name).mapM Label.read?
  let ascii := joined (labels.map Label.ascii)
  if areDirected labels && !ascii.any isForbidden then some ascii else none

theorem isASCII_of_ofText? {text : List Char} {label : Label}
    (read : Label.ofText? text = some label) : isASCII label.ascii = true := by
  simp only [Label.ofText?] at read
  split at read
  · rename_i plain
    cases read
    exact plain
  · split at read
    · rename_i all
      simp only [Bool.and_eq_true] at all
      cases read
      exact all.2
    · cases read

theorem isASCII_of_read? {cs : List Char} {label : Label} (read : Label.read? cs = some label) :
    isASCII label.ascii = true := by
  unfold Label.read? at read
  split at read
  · simp only [Label.ofCode?, Option.bind_eq_bind, Option.bind_eq_some_iff] at read
    obtain ⟨_, _, _, text, kept⟩ := read
    split at kept
    · cases kept
      exact isASCII_of_ofText? text
    · cases kept
  · exact isASCII_of_ofText? read

theorem isASCII_joined {labels : List (List Char)} (plain : ∀ label ∈ labels, isASCII label = true) :
    isASCII (joined labels) = true := by
  induction labels with
  | nil => rfl
  | cons label labels ih =>
      have here := plain label (by simp)
      have rest := ih fun l member => plain l (by simp [member])
      cases labels with
      | nil => exact here
      | cons next labels =>
          simp only [joined, isASCII, List.all_append, List.all_cons, Bool.and_eq_true] at here rest ⊢
          exact ⟨here, by simp, rest⟩

theorem mem_of_mapM {α β : Type} {f : α → Option β} {xs : List α} {ys : List β}
    (all : xs.mapM f = some ys) {y : β} (member : y ∈ ys) : ∃ x, f x = some y := by
  induction xs generalizing ys with
  | nil =>
      simp at all
      subst all
      simp at member
  | cons x xs ih =>
      simp only [List.mapM_cons, Option.bind_eq_bind, Option.bind_eq_some_iff,
        Option.pure_def, Option.some.injEq] at all
      obtain ⟨z, first, zs, others, rfl⟩ := all
      rcases List.mem_cons.1 member with rfl | later
      · exact ⟨x, first⟩
      · exact ih others later

theorem isASCII_of_ascii? {cs name : List Char} (read : ascii? cs = some name) :
    isASCII name = true := by
  simp only [ascii?, Option.bind_eq_bind, Option.bind_eq_some_iff] at read
  obtain ⟨_, _, labels, all, kept⟩ := read
  split at kept
  · cases kept
    refine isASCII_joined fun ascii member => ?_
    obtain ⟨label, here, rfl⟩ := List.mem_map.1 member
    obtain ⟨_, from_⟩ := mem_of_mapM all here
    exact isASCII_of_read? from_
  · cases kept

end Tether.Url.Domain
