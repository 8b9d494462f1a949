/-
# Tether.Url.Punycode -- any text in letters, digits and hyphens

The ASCII characters of a text come first, then a hyphen if there were any, then one
number for every other character, in the order of code points.  A number says how far
to move from the last insertion, counting first places and then code points; its
digits are in base 36, least significant first, and end at a digit below a threshold
that follows the size of the numbers so far.

* `threshold_pos`, `threshold_le` -- every threshold is a digit other than 0 and below 27,
  so each further digit makes a number smaller and writing one ends.
-/
set_option autoImplicit false

namespace Tether.Url.Punycode

/-- The first code point that is not ASCII. -/
def firstPoint : Nat := 0x80

def firstBias : Nat := 72

/-- The digit at place `place` (36, 72, …) that ends a number. -/
def threshold (place bias : Nat) : Nat := max 1 (min 26 (place - bias))

theorem threshold_pos (place bias : Nat) : 1 ≤ threshold place bias := by
  unfold threshold
  omega

theorem threshold_le (place bias : Nat) : threshold place bias ≤ 26 := by
  unfold threshold
  omega

/-- The bias for a number of size about `delta`. -/
def settle (delta bias : Nat) : Nat :=
  if 455 < delta then settle (delta / 35) (bias + 36) else bias + 36 * delta / (delta + 38)
termination_by delta
decreasing_by omega

/-- The bias after the number `delta` brought the text to `length` characters. -/
def adapt (delta length : Nat) (first : Bool) : Nat :=
  let damped := if first then delta / 700 else delta / 2
  settle (damped + damped / length) 0

/-- `a` to `z` are 0 to 25, `0` to `9` are 26 to 35. -/
def digitChar (d : Nat) : Char :=
  if d < 26 then Char.ofNat (0x61 + d) else Char.ofNat (0x30 + (d - 26))

def digit? (c : Char) : Option Nat :=
  if 'a' ≤ c ∧ c ≤ 'z' then some (c.toNat - 0x61)
  else if c.isDigit then some (c.toNat - 0x30 + 26)
  else none

/-! ## Writing -/

/-- The digits of `n` from `place` on. -/
def number (bias place n : Nat) : List Char :=
  let t := threshold place bias
  if n < t then [digitChar n]
  else digitChar (t + (n - t) % (36 - t)) :: number bias (place + 36) ((n - t) / (36 - t))
termination_by n
decreasing_by
  have low := threshold_pos place bias
  exact Nat.lt_of_le_of_lt (Nat.div_le_self _ _) (by omega)

/-- A text half written: its first `length` characters in the order of code points are done. -/
structure Writer where
  delta : Nat := 0
  bias : Nat := firstBias
  length : Nat
  first : Bool := true
  written : List Char

/-- Pass one character of the text while the code point `point` is being placed. -/
def Writer.pass (point : Nat) (w : Writer) (c : Char) : Writer :=
  if c.toNat < point then { w with delta := w.delta + 1 }
  else if c.toNat = point then
    { delta := 0, bias := adapt w.delta (w.length + 1) w.first, length := w.length + 1,
      first := false, written := w.written ++ number w.bias 36 w.delta }
  else w

/-- Place every code point of `points`, which ascend, from `from_` on. -/
def Writer.place (cs : List Char) (w : Writer) (from_ : Nat) : List Nat → Writer
  | [] => w
  | point :: points =>
      let w := { w with delta := w.delta + (point - from_) * (w.length + 1) }
      let w := cs.foldl (Writer.pass point) w
      Writer.place cs { w with delta := w.delta + 1 } (point + 1) points

def encode (cs : List Char) : List Char :=
  let basic := cs.filter (·.toNat < firstPoint)
  let points := ((cs.filter (firstPoint ≤ ·.toNat)).map Char.toNat).mergeSort.eraseDups
  let start : Writer :=
    { length := basic.length, written := if basic.isEmpty then [] else basic ++ ['-'] }
  (start.place cs firstPoint points).written

/-! ## Reading -/

/-- A text half read.  `weight` and `place` are those of the next digit, `moved` the number
so far, from which the next character's code point and index follow. -/
structure Reader where
  point : Nat := firstPoint
  index : Nat := 0
  moved : Nat := 0
  bias : Nat := firstBias
  weight : Nat := 1
  place : Nat := 36
  first : Bool := true
  text : List Char

/-- Read one digit; one below the threshold ends the number and inserts its character. -/
def Reader.digit (r : Reader) (d : Nat) : Option Reader :=
  let t := threshold r.place r.bias
  let moved := r.moved + d * r.weight
  if d < t then
    let length := r.text.length + 1
    let at_ := r.index + moved
    let point := r.point + at_ / length
    let index := at_ % length
    if point.isValidChar then
      some { point, index := index + 1, bias := adapt moved length r.first, first := false,
             text := r.text.take index ++ Char.ofNat point :: r.text.drop index }
    else none
  else some { r with moved, weight := r.weight * (36 - t), place := r.place + 36 }

/-- The text that `basic` and the numbers `cs` stand for, if the last number is complete. -/
def Reader.run (r : Reader) : List Char → Option (List Char)
  | [] => if r.place = 36 then some r.text else none
  | c :: cs => do
      let d ← digit? c
      let next ← r.digit d
      next.run cs

def decode (cs : List Char) : Option (List Char) :=
  let numbers := (cs.reverse.takeWhile (· ≠ '-')).reverse
  let basic := (cs.take (cs.length - numbers.length)).dropLast
  let start : Reader := { text := basic }
  start.run numbers

end Tether.Url.Punycode
