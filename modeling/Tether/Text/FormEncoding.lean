/-
# Tether.Text.FormEncoding -- hexadecimal digits, and form-urlencoded text

A text is written byte by byte in UTF-8: letters, digits and `* - . _` stand for
themselves, a space becomes `+`, every other byte a percent sign and two uppercase
hexadecimal digits.

* `hexValue?_lowerHexDigit` -- a written digit is read back.
-/
import Tether.Text.Utf8

set_option autoImplicit false

namespace Tether.Text

/-- The uppercase digit of `n`, below 16. -/
def upperHexDigit (n : Nat) : Char :=
  if n < 10 then Char.ofNat (0x30 + n) else Char.ofNat (0x41 + (n - 10))

def lowerHexDigit (n : Nat) : Char :=
  if n < 10 then Char.ofNat (0x30 + n) else Char.ofNat (0x61 + (n - 10))

def hexValue? (c : Char) : Option Nat :=
  if c.isDigit then some (c.toNat - 0x30)
  else if 'a' ≤ c ∧ c ≤ 'f' then some (c.toNat - 0x61 + 10)
  else if 'A' ≤ c ∧ c ≤ 'F' then some (c.toNat - 0x41 + 10)
  else none

theorem hexValue?_lowerHexDigit {n : Nat} (small : n < 16) :
    hexValue? (lowerHexDigit n) = some n := by
  have all : ∀ m ∈ List.range 16, hexValue? (lowerHexDigit m) = some m := by decide
  exact all n (List.mem_range.2 small)

def percentEncoded (b : UInt8) : List Char :=
  ['%', upperHexDigit (b.toNat / 16), upperHexDigit (b.toNat % 16)]

namespace FormEncoding

def isPlain (b : UInt8) : Bool :=
  let c := Char.ofNat b.toNat
  b.toNat < 0x80 && (c.isAlphanum || c == '*' || c == '-' || c == '.' || c == '_')

def encodeByte (b : UInt8) : List Char :=
  if isPlain b then [Char.ofNat b.toNat]
  else if b = 0x20 then ['+']
  else percentEncoded b

/-- `s` as a name or value of a form. -/
def encode (s : String) : String := String.ofList ((Utf8.encode s).flatMap encodeByte)

def pair (name value : String) : String := encode name ++ "=" ++ encode value

end FormEncoding

end Tether.Text
