/-
# Tether.Text.Lowercase -- full lowercase of a text

Each character is replaced by its lowercase form, with the two exceptions of the
Unicode default algorithm: U+0130 becomes two characters, and a capital sigma at
the end of a word becomes the final form U+03C2.  A sigma ends a word when, past
characters that case ignores, a cased character stands before it and none stands
after it.
-/
import Tether.Text.CaseTables

set_option autoImplicit false

namespace Tether.Text

def isCased (c : Char) : Bool := cased.holds c.toNat

def isCaseIgnorable (c : Char) : Bool := caseIgnorable.holds c.toNat

/-- Whether the first character that case does not ignore is a cased one. -/
def startsCased (cs : List Char) : Bool :=
  match cs.dropWhile isCaseIgnorable with
  | c :: _ => isCased c
  | [] => false

/-- The lowercase form of `c` when its neighbours do not matter. -/
def lowerChar (c : Char) : List Char :=
  if c.toNat < 0x80 then [c.toLower]
  else if c.toNat = 0x130 then [Char.ofNat 0x69, Char.ofNat 0x307]
  else
    match lowercaseRuns.find? (·.covers c.toNat) with
    | some run => [Char.ofNat (c.toNat + run.shift).toNat]
    | none => [c]

/-- Lowercase the rest of a text whose characters before it were `before`, nearest first. -/
def lowerFrom (before : List Char) : List Char → List Char
  | [] => []
  | c :: rest =>
      (if c.toNat = 0x3A3 then
        [Char.ofNat (if startsCased before && !startsCased rest then 0x3C2 else 0x3C3)]
      else lowerChar c) ++ lowerFrom (c :: before) rest

def lowercase (s : String) : String := String.ofList (lowerFrom [] s.toList)

end Tether.Text
