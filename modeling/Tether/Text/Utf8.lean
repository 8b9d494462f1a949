/-
# Tether.Text.Utf8 -- bytes to text, nothing refused

A well-formed sequence is its character.  Where the bytes are not well formed,
each maximal part that could still have begun a sequence becomes one U+FFFD, and
reading goes on with the byte after it.  So a truncated three-byte sequence is
one U+FFFD, while a byte that begins nothing is one by itself.

* `trailing_length_le` -- trailing bytes are only ever consumed from the front.
-/
set_option autoImplicit false

namespace Tether.Text.Utf8

/-- What a lead byte announces: its share of the code point, the number of trailing
bytes, and the range that the first of them must lie in.  Overlong forms, surrogates
and values past U+10FFFF are ruled out by that range. -/
structure Lead where
  bits : Nat
  trailing : Nat
  low : Nat
  high : Nat

/-- The lead bytes of two, three and four byte sequences. -/
def lead? (b : Nat) : Option Lead :=
  if 0xC2 ≤ b ∧ b ≤ 0xDF then some ⟨b - 0xC0, 1, 0x80, 0xBF⟩
  else if b = 0xE0 then some ⟨0, 2, 0xA0, 0xBF⟩
  else if b = 0xED then some ⟨0xD, 2, 0x80, 0x9F⟩
  else if 0xE1 ≤ b ∧ b ≤ 0xEF then some ⟨b - 0xE0, 2, 0x80, 0xBF⟩
  else if b = 0xF0 then some ⟨0, 3, 0x90, 0xBF⟩
  else if 0xF1 ≤ b ∧ b ≤ 0xF3 then some ⟨b - 0xF0, 3, 0x80, 0xBF⟩
  else if b = 0xF4 then some ⟨4, 3, 0x80, 0x8F⟩
  else none

/-- Read `n` trailing bytes after `acc`, the first within `[low, high]`.  Answers the
code point, or `none` at the first byte that does not fit, which is left unread. -/
def trailing (acc low high : Nat) : Nat → List UInt8 → Option Nat × List UInt8
  | 0, bytes => (some acc, bytes)
  | _ + 1, [] => (none, [])
  | n + 1, b :: bytes =>
      if low ≤ b.toNat ∧ b.toNat ≤ high then
        trailing (acc * 64 + b.toNat % 64) 0x80 0xBF n bytes
      else (none, b :: bytes)

theorem trailing_length_le (acc low high n : Nat) (bytes : List UInt8) :
    (trailing acc low high n bytes).2.length ≤ bytes.length := by
  induction n generalizing acc low high bytes with
  | zero => simp [trailing]
  | succ n ih =>
      cases bytes with
      | nil => simp [trailing]
      | cons b rest =>
          simp only [trailing]
          split
          · exact Nat.le_succ_of_le (ih _ _ _ rest)
          · simp

def replacement : Char := Char.ofNat 0xFFFD

def decode : List UInt8 → List Char
  | [] => []
  | b :: bytes =>
      if b.toNat < 0x80 then Char.ofNat b.toNat :: decode bytes
      else
        match lead? b.toNat with
        | none => replacement :: decode bytes
        | some lead =>
            let read := trailing lead.bits lead.low lead.high lead.trailing bytes
            (match read.1 with
              | some n => Char.ofNat n
              | none => replacement) :: decode read.2
termination_by bytes => bytes.length
decreasing_by
  · exact Nat.lt_succ_self _
  · exact Nat.lt_succ_self _
  · exact Nat.lt_succ_of_le (trailing_length_le _ _ _ _ _)

def encode (s : String) : List UInt8 := s.toList.flatMap String.utf8EncodeChar

def text (bytes : List UInt8) : String := String.ofList (decode bytes)

end Tether.Text.Utf8
