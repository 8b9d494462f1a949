/-
# Tether.Url.Address -- numeric hosts

An IPv4 address may be written with fewer than four numbers, the last of which then
fills the bytes that are left; a number may be octal after `0` or hexadecimal after
`0x`.  An IPv6 address has eight pieces, of which one run of zeros may be left out
as `::`, and the last two of which may be written as an IPv4 address.

Both have one written form: four decimal numbers, and lowercase pieces with the
first of the longest runs of zeros, if longer than one, left out.
-/
import Tether.Text.Segments
import Tether.Url.Escaping

set_option autoImplicit false

namespace Tether.Url

/-- The value of `cs` in `base`, when every character is a digit of it. -/
def digits? (base : Nat) (cs : List Char) : Option Nat :=
  cs.foldlM (fun n c => do
    let d ← Text.hexValue? c
    if d < base then some (n * base + d) else none) 0

def allDigits (cs : List Char) : Bool := cs.all Char.isDigit

abbrev IPv4 := UInt32

namespace IPv4

/-- One number of an address: hexadecimal after `0x`, octal after a further `0`, and zero
when nothing follows these. -/
def number? : List Char → Option Nat
  | [] => none
  | '0' :: 'x' :: cs | '0' :: 'X' :: cs => digits? 16 cs
  | '0' :: c :: cs => digits? 8 (c :: cs)
  | cs => digits? 10 cs

/-- The dot-separated parts, less one empty part at the end. -/
def parts (cs : List Char) : List (List Char) :=
  let all := Text.segments '.' cs
  if all.getLast? = some [] then all.dropLast else all

/-- A host whose last part is a number is an address, or nothing. -/
def claimedBy (cs : List Char) : Bool :=
  match (parts cs).getLast? with
  | some part => (!part.isEmpty && allDigits part) || (number? part).isSome
  | none => false

/-- The value of `numbers`, the last filling what the ones before it leave. -/
def assemble : Nat → List Nat → Option Nat
  | _, [] => none
  | room, [n] => if n < 256 ^ room then some n else none
  | room, n :: rest => do
      let value ← assemble (room - 1) rest
      if n < 256 then some (n * 256 ^ (room - 1) + value) else none

def read? (cs : List Char) : Option IPv4 :=
  let all := parts cs
  if all.length ≤ 4 then do
    let numbers ← all.mapM number?
    (assemble 4 numbers).map UInt32.ofNat
  else none

def text (address : IPv4) : String :=
  let n := address.toNat
  s!"{n / 0x1000000}.{n / 0x10000 % 256}.{n / 0x100 % 256}.{n % 256}"

end IPv4

abbrev IPv6 := List UInt16

namespace IPv6

/-- One piece: one to four hexadecimal digits. -/
def piece? (cs : List Char) : Option UInt16 :=
  if cs.isEmpty || 4 < cs.length then none else (digits? 16 cs).map UInt16.ofNat

/-- A decimal number below 256 without leading zeros. -/
def byte? (cs : List Char) : Option Nat :=
  if cs.isEmpty || !allDigits cs || (cs.head? = some '0' && 1 < cs.length) then none
  else (digits? 10 cs).filter (· < 256)

/-- The two pieces written as an IPv4 address. -/
def tail? (cs : List Char) : Option (List UInt16) :=
  match (Text.segments '.' cs).mapM byte? with
  | some [a, b, c, d] => some [UInt16.ofNat (a * 256 + b), UInt16.ofNat (c * 256 + d)]
  | _ => none

/-- Pieces between colons, the last of which may be an IPv4 address. -/
def pieces? : List (List Char) → Option (List UInt16)
  | [] => some []
  | [last] => if last.contains '.' then tail? last else (piece? last).map ([·])
  | part :: parts => do
      let piece ← piece? part
      let pieces ← pieces? parts
      some (piece :: pieces)

/-- The pieces of a text that may be empty. -/
def run? (cs : List Char) : Option (List UInt16) :=
  if cs.isEmpty then some [] else pieces? (Text.segments ':' cs)

def cutGap : List Char → Option (List Char × List Char)
  | ':' :: ':' :: rest => some ([], rest)
  | c :: rest => (cutGap rest).map fun cut => (c :: cut.1, cut.2)
  | [] => none

def read? (cs : List Char) : Option IPv6 :=
  match cutGap cs with
  | none => (run? cs).filter (·.length = 8)
  | some (front, back) => do
      let before ← if front.contains '.' then none else run? front
      let after ← run? back
      if before.length + after.length < 8 then
        some (before ++ List.replicate (8 - before.length - after.length) 0 ++ after)
      else none

/-- The length of the run of zeros that `pieces` begin with. -/
def zeros (pieces : List UInt16) : Nat := (pieces.takeWhile (· = 0)).length

/-- Where the longest run of zeros begins, the first of several, and its length. -/
def longestZeros : List UInt16 → Nat × Nat
  | [] => (0, 0)
  | piece :: pieces =>
      let here := zeros (piece :: pieces)
      let later := longestZeros pieces
      if later.2 ≤ here then (0, here) else (later.1 + 1, later.2)

def joined (pieces : List UInt16) : String :=
  String.intercalate ":" (pieces.map fun piece => String.ofList (Nat.toDigits 16 piece.toNat))

def text (address : IPv6) : String :=
  let gap := longestZeros address
  if 2 ≤ gap.2 then
    joined (address.take gap.1) ++ "::" ++ joined (address.drop (gap.1 + gap.2))
  else joined address

end IPv6

end Tether.Url
