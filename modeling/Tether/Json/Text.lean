/-
# Tether.Json.Text -- strings in JSON

A string is written with its quote, backslash and control characters escaped and all
else as it is.  It may be read with any character escaped; one beyond the basic plane
is then two units, a leading and a trailing surrogate.  A string that is only passed
over may hold surrogates that do not pair.

* `readTail_write` -- what is written is read back, whatever follows it.
* `skipTail_write` -- and is passed over exactly.
-/
import Tether.Json.Basic
import Tether.Text.FormEncoding

set_option autoImplicit false

namespace Tether.Json.Text

open Tether.Text (lowerHexDigit hexValue? hexValue?_lowerHexDigit)

/-! ## Writing -/

/-- The letter that stands for `c` after a backslash, if there is one. -/
def shortForm? : Char → Option Char
  | '"' => some '"'
  | '\\' => some '\\'
  | '\x08' => some 'b'
  | '\x0c' => some 'f'
  | '\n' => some 'n'
  | '\r' => some 'r'
  | '\t' => some 't'
  | _ => none

def writeChar (c : Char) : List Char :=
  match shortForm? c with
  | some letter => ['\\', letter]
  | none =>
      if c.toNat < 0x20 then
        ['\\', 'u', '0', '0', lowerHexDigit (c.toNat / 16), lowerHexDigit (c.toNat % 16)]
      else [c]

def writeBody (cs : List Char) : List Char := cs.flatMap writeChar

def write (cs : List Char) : List Char := '"' :: writeBody cs ++ ['"']

/-! ## Reading -/

def shortEscape? : Char → Option Char
  | '"' => some '"'
  | '\\' => some '\\'
  | '/' => some '/'
  | 'b' => some '\x08'
  | 'f' => some '\x0c'
  | 'n' => some '\n'
  | 'r' => some '\r'
  | 't' => some '\t'
  | _ => none

/-- The unit that the first four digits of `cs` name.  The text ends early when fewer than
four bytes are left. -/
def readUnit (cs : List Char) : Except Fault Nat :=
  let next := cs.take 4
  match next.mapM hexValue? with
  | some [a, b, c, d] => .ok (((a * 16 + b) * 16 + c) * 16 + d)
  | _ => if (next.flatMap String.utf8EncodeChar).length < 4 then .error .endsEarly
         else .error .malformed

def isLeading (unit : Nat) : Bool := 0xD800 ≤ unit && unit ≤ 0xDBFF

def isTrailing (unit : Nat) : Bool := 0xDC00 ≤ unit && unit ≤ 0xDFFF

/-- The trailing unit that must stand at the front of `cs`. -/
def readTrailing : List Char → Except Fault Nat
  | [] | ['\\'] => .error .endsEarly
  | '\\' :: 'u' :: digits => do
      let unit ← readUnit digits
      if isTrailing unit then pure unit else throw .malformed
  | _ => .error .malformed

def paired (leading trailing : Nat) : Char :=
  Char.ofNat (0x10000 + (leading - 0xD800) * 0x400 + (trailing - 0xDC00))

/-- `c` before what has been read after it. -/
def before (c : Char) (read : Except Fault (List Char × List Char)) :
    Except Fault (List Char × List Char) :=
  read.map fun tail => (c :: tail.1, tail.2)

/-- The text up to the closing quote. -/
def readTail : Reader (List Char)
  | [] | ['\\'] => .error .endsEarly
  | '"' :: rest => .ok ([], rest)
  | '\\' :: 'u' :: digits =>
      match readUnit digits with
      | .error fault => .error fault
      | .ok unit =>
          if isTrailing unit then .error .malformed
          else if isLeading unit then
            match readTrailing (digits.drop 4) with
            | .error fault => .error fault
            | .ok second => before (paired unit second) (readTail (digits.drop 10))
          else before (Char.ofNat unit) (readTail (digits.drop 4))
  | '\\' :: letter :: rest =>
      match shortEscape? letter with
      | some c => before c (readTail rest)
      | none => .error .malformed
  | c :: rest => if c.toNat < 0x20 then .error .malformed else before c (readTail rest)
termination_by cs => cs.length
decreasing_by all_goals simp <;> omega

def skipTail : List Char → Except Fault (List Char)
  | [] | ['\\'] => .error .endsEarly
  | '"' :: rest => .ok rest
  | '\\' :: 'u' :: digits =>
      match readUnit digits with
      | .error fault => .error fault
      | .ok _ => skipTail (digits.drop 4)
  | '\\' :: letter :: rest =>
      if (shortEscape? letter).isSome then skipTail rest else .error .malformed
  | c :: rest => if c.toNat < 0x20 then .error .malformed else skipTail rest
termination_by cs => cs.length
decreasing_by all_goals simp <;> omega

/-! ## Reading what was written -/

theorem readUnit_control {n : Nat} (small : n < 0x20) (rest : List Char) :
    readUnit ('0' :: '0' :: lowerHexDigit (n / 16) :: lowerHexDigit (n % 16) :: rest) = .ok n := by
  have zero : hexValue? '0' = some 0 := by decide
  have high := hexValue?_lowerHexDigit (n := n / 16) (by omega)
  have low := hexValue?_lowerHexDigit (n := n % 16) (by omega)
  have four : ['0', '0', lowerHexDigit (n / 16), lowerHexDigit (n % 16)].mapM hexValue? =
      some [0, 0, n / 16, n % 16] := by
    simp [zero, high, low]
  simp only [readUnit, List.take_succ_cons, List.take_zero, four]
  congr 1
  omega

theorem shortEscape?_of_shortForm? {c letter : Char} (short : shortForm? c = some letter) :
    shortEscape? letter = some c ∧ letter ≠ 'u' := by
  unfold shortForm? at short
  split at short <;> cases short <;> decide

theorem readTail_char (c : Char) (rest : List Char) :
    readTail (writeChar c ++ rest) = before c (readTail rest) := by
  unfold writeChar
  split
  · rename_i letter short
    obtain ⟨back, other⟩ := shortEscape?_of_shortForm? short
    simp only [List.cons_append, List.nil_append]
    rw [readTail]
    · simp [back]
    · simp [other]
  · rename_i plain
    split
    · rename_i small
      have unit := readUnit_control small rest
      have low : ¬ (isTrailing c.toNat = true) := by simp [isTrailing]; omega
      have high : ¬ (isLeading c.toNat = true) := by simp [isLeading]; omega
      simp only [List.cons_append, List.nil_append]
      rw [readTail, unit]
      simp [low, high]
    · rename_i large
      have quote : c ≠ '"' := fun same => by simp [same, shortForm?] at plain
      have backslash : c ≠ '\\' := fun same => by simp [same, shortForm?] at plain
      simp only [List.cons_append, List.nil_append]
      rw [readTail]
      · simp [large]
      all_goals simp_all

theorem readTail_write (cs rest : List Char) :
    readTail (writeBody cs ++ '"' :: rest) = .ok (cs, rest) := by
  induction cs with
  | nil => simp [writeBody, readTail]
  | cons c cs ih =>
      have more : writeBody (c :: cs) = writeChar c ++ writeBody cs := by simp [writeBody]
      rw [more, List.append_assoc, readTail_char, ih]
      rfl

theorem skipTail_char (c : Char) (rest : List Char) :
    skipTail (writeChar c ++ rest) = skipTail rest := by
  unfold writeChar
  split
  · rename_i letter short
    obtain ⟨back, other⟩ := shortEscape?_of_shortForm? short
    simp only [List.cons_append, List.nil_append]
    rw [skipTail]
    · simp [back]
    · simp [other]
  · rename_i plain
    split
    · rename_i small
      have unit := readUnit_control small rest
      simp only [List.cons_append, List.nil_append]
      rw [skipTail, unit]
      simp
    · rename_i large
      have quote : c ≠ '"' := fun same => by simp [same, shortForm?] at plain
      have backslash : c ≠ '\\' := fun same => by simp [same, shortForm?] at plain
      simp only [List.cons_append, List.nil_append]
      rw [skipTail]
      · simp [large]
      all_goals simp_all

theorem skipTail_write (cs rest : List Char) :
    skipTail (writeBody cs ++ '"' :: rest) = .ok rest := by
  induction cs with
  | nil => simp [writeBody, skipTail]
  | cons c cs ih =>
      have more : writeBody (c :: cs) = writeChar c ++ writeBody cs := by simp [writeBody]
      rw [more, List.append_assoc, skipTail_char, ih]

end Tether.Json.Text
