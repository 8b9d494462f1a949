/-
# Tether.Json.Number -- numbers in JSON

A number is kept as it is written: sign, whole digits, fraction, exponent.  Read for
its value it must also be finite as a double, which is the product of two: the digits
that fit 64 bits, and a power of ten.  Only passed over it need not be, but then a number
that breaks off is malformed rather than ending early.

* `scan_ofNat` -- a natural number is read back from its digits.
* `natural?_ofNat` -- and its value is the number.
-/
import Tether.Json.Basic

set_option autoImplicit false

namespace Tether.Json

structure Number where
  negative : Bool := false
  whole : List Char
  fraction : Option (List Char) := none
  /-- The sign, if any, and the digits. -/
  exponent : Option (Option Char × List Char) := none
deriving DecidableEq

namespace Number

def value (digits : List Char) : Nat :=
  digits.foldl (fun n c => n * 10 + (c.toNat - 0x30)) 0

def ofNat (n : Nat) : Number := { whole := Nat.toDigits 10 n }

def write (n : Number) : List Char :=
  (if n.negative then ['-'] else []) ++ n.whole ++
    (match n.fraction with | some digits => '.' :: digits | none => []) ++
    match n.exponent with
    | some (sign, digits) => 'e' :: sign.toList ++ digits
    | none => []

/-! ## Scanning -/

def scanDigits (cs : List Char) : Except Fault (List Char × List Char) :=
  match cs.takeWhile Char.isDigit with
  | [] => .error (unexpected cs)
  | digits => .ok (digits, cs.dropWhile Char.isDigit)

/-- The whole digits: a lone zero, or digits that do not begin with one. -/
def scanWhole : List Char → Except Fault (List Char × List Char)
  | '0' :: rest =>
      if (rest.head?.any Char.isDigit) then .error .malformed else .ok (['0'], rest)
  | cs => scanDigits cs

def scanFraction : List Char → Except Fault (Option (List Char) × List Char)
  | '.' :: rest => (scanDigits rest).map fun scanned => (some scanned.1, scanned.2)
  | cs => .ok (none, cs)

def scanSign : List Char → Option Char × List Char
  | '+' :: rest => (some '+', rest)
  | '-' :: rest => (some '-', rest)
  | cs => (none, cs)

def scanExponent : List Char → Except Fault (Option (Option Char × List Char) × List Char)
  | c :: rest =>
      if c == 'e' || c == 'E' then
        let (sign, digits) := scanSign rest
        (scanDigits digits).map fun scanned => (some (sign, scanned.1), scanned.2)
      else .ok (none, c :: rest)
  | [] => .ok (none, [])

/-- The number at the front of `cs`, whatever its size. -/
def scan (cs : List Char) : Except Fault (Number × List Char) := do
  let (negative, cs) := match cs with | '-' :: rest => (true, rest) | _ => (false, cs)
  let (whole, cs) ← scanWhole cs
  let (fraction, cs) ← scanFraction cs
  let (exponent, cs) ← scanExponent cs
  pure ({ negative, whole, fraction, exponent }, cs)

/-! ## Size -/

/-- `n` rounded to 53 binary digits, a tie to the even neighbour. -/
def rounded (n : Nat) : Nat :=
  let unit := Nat.pow 2 (n.log2 + 1 - 53)
  let below := n / unit
  let rest := 2 * (n % unit)
  (if unit < rest || (unit = rest && below % 2 = 1) then below + 1 else below) * unit

/-- Half a unit above the largest double: numbers from here on have none. -/
def limit : Nat := Nat.pow 2 1024 - Nat.pow 2 970

/-- `n` followed by the digits up to the first that would take it out of 64 bits; and the
digits from there on. -/
def gather (n : Nat) : List Char → Nat × List Char
  | [] => (n, [])
  | c :: digits =>
      let next := n * 10 + (c.toNat - 0x30)
      if next < UInt64.size then gather next digits else (n, c :: digits)

/-- The power of ten that the exponent stands for. -/
def scale (n : Number) : Int :=
  match n.exponent with
  | some (some '-', digits) => -(value digits : Int)
  | some (_, digits) => value digits
  | none => 0

/-- A factor of 64 bits and a power of ten.  Whole digits beyond the factor count as
places; digits of the fraction beyond it do not count. -/
def parts (n : Number) : Nat × Int :=
  let (whole, places) := gather 0 n.whole
  let fraction := n.fraction.getD []
  let (factor, beyond) := gather whole fraction
  (factor, places.length + n.scale - (fraction.length - beyond.length : Nat))

/-- Whether the double nearest to the factor, times the one nearest to the power of ten, is
too large for a double. -/
def overflows (n : Number) : Bool :=
  let (factor, power) := n.parts
  factor ≠ 0 && (308 < power || (0 ≤ power && limit ≤ rounded factor * rounded (Nat.pow 10 power.toNat)))

def read : Reader Number := fun cs => do
  let (n, rest) ← scan cs
  if n.overflows then throw Fault.malformed else pure (n, rest)

def skip (cs : List Char) : Except Fault (List Char) :=
  match scan cs with
  | .ok (_, rest) => .ok rest
  | .error _ => .error .malformed

/-- The value of a number that is written as a natural one. -/
def natural? (n : Number) : Option Nat :=
  if n.negative || n.fraction.isSome || n.exponent.isSome then none else some (value n.whole)

/-! ## Natural numbers -/

theorem isDigit_digitChar {d : Nat} (small : d < 10) : d.digitChar.isDigit = true := by
  have all : ∀ e ∈ List.range 10, e.digitChar.isDigit = true := by decide
  exact all d (List.mem_range.2 small)

theorem value_digitChar {d : Nat} (small : d < 10) : d.digitChar.toNat - 0x30 = d := by
  have all : ∀ e ∈ List.range 10, e.digitChar.toNat - 0x30 = e := by decide
  exact all d (List.mem_range.2 small)

theorem value_append (front : List Char) (c : Char) :
    value (front ++ [c]) = value front * 10 + (c.toNat - 0x30) := by
  simp [value]

theorem toDigits_step {n : Nat} (large : 10 ≤ n) :
    Nat.toDigits 10 n = Nat.toDigits 10 (n / 10) ++ [(n % 10).digitChar] :=
  Nat.toDigits_of_base_le (by decide) large

theorem toDigits_isDigit (n : Nat) : ∀ c ∈ Nat.toDigits 10 n, c.isDigit = true := by
  induction n using Nat.strongRecOn with
  | _ n ih =>
      by_cases large : 10 ≤ n
      · rw [toDigits_step large]
        intro c member
        rcases List.mem_append.1 member with early | last
        · exact ih _ (Nat.div_lt_self (by omega) (by decide)) c early
        · rw [List.mem_singleton.1 last]
          exact isDigit_digitChar (Nat.mod_lt _ (by decide))
      · rw [Nat.toDigits_of_lt_base (by omega)]
        intro c member
        rw [List.mem_singleton.1 member]
        exact isDigit_digitChar (by omega)

theorem value_toDigits (n : Nat) : value (Nat.toDigits 10 n) = n := by
  induction n using Nat.strongRecOn with
  | _ n ih =>
      by_cases large : 10 ≤ n
      · rw [toDigits_step large, value_append, ih _ (Nat.div_lt_self (by omega) (by decide)),
          value_digitChar (Nat.mod_lt _ (by decide))]
        omega
      · rw [Nat.toDigits_of_lt_base (by omega)]
        simp [value, value_digitChar (show n < 10 by omega)]

theorem natural?_ofNat (n : Nat) : (ofNat n).natural? = some n := by
  simp [natural?, ofNat, value_toDigits]

/-- Characters that no number goes on with. -/
def endsNumber (c : Char) : Bool := !c.isDigit && c != '.' && c != 'e' && c != 'E'

theorem takeWhile_digits {digits rest : List Char} (all : ∀ c ∈ digits, c.isDigit = true)
    (stop : ∀ c ∈ rest.head?, c.isDigit = false) :
    (digits ++ rest).takeWhile Char.isDigit = digits ∧
      (digits ++ rest).dropWhile Char.isDigit = rest := by
  induction digits with
  | nil =>
      cases rest with
      | nil => simp
      | cons c rest => simp [stop c (by simp)]
  | cons d digits ih =>
      obtain ⟨front, back⟩ := ih fun c member => all c (by simp [member])
      simp [all d (by simp), front, back]

theorem toDigits_head {n : Nat} (positive : 0 < n) :
    ∃ c digits, Nat.toDigits 10 n = c :: digits ∧ c ≠ '0' := by
  induction n using Nat.strongRecOn with
  | _ n ih =>
      by_cases large : 10 ≤ n
      · obtain ⟨c, digits, same, nonzero⟩ :=
          ih _ (Nat.div_lt_self positive (by decide)) (Nat.div_pos large (by decide))
        exact ⟨c, digits ++ [(n % 10).digitChar], by rw [toDigits_step large, same]; rfl, nonzero⟩
      · have all : ∀ e ∈ List.range 10, 0 < e → e.digitChar ≠ '0' := by decide
        refine ⟨n.digitChar, [], Nat.toDigits_of_lt_base (by omega), ?_⟩
        exact all n (List.mem_range.2 (by omega)) positive

theorem scan_ofNat (n : Nat) {rest : List Char} (stop : ∀ c ∈ rest.head?, endsNumber c = true) :
    scan ((ofNat n).whole ++ rest) = .ok (ofNat n, rest) := by
  have noDigit : ∀ c ∈ rest.head?, c.isDigit = false := fun c member => by
    have ends := stop c member
    simp only [endsNumber, Bool.and_eq_true, Bool.not_eq_true'] at ends
    exact ends.1.1.1
  have noFraction : scanFraction rest = .ok (none, rest) := by
    cases rest with
    | nil => rfl
    | cons c rest =>
        have ends := stop c (by simp)
        simp only [endsNumber, Bool.and_eq_true, bne_iff_ne] at ends
        unfold scanFraction
        split
        · rename_i same
          cases same
          exact absurd rfl ends.1.1.2
        · rfl
  have noExponent : scanExponent rest = .ok (none, rest) := by
    cases rest with
    | nil => rfl
    | cons c rest =>
        have ends := stop c (by simp)
        simp only [endsNumber, Bool.and_eq_true, bne_iff_ne] at ends
        simp [scanExponent, ends.1.2, ends.2]
  have whole : scanWhole ((ofNat n).whole ++ rest) = .ok ((ofNat n).whole, rest) := by
    rcases Nat.eq_zero_or_pos n with rfl | positive
    · have none_ : rest.head?.any Char.isDigit = false := by
        cases head : rest.head? with
        | none => rfl
        | some c => exact noDigit c head
      simp [ofNat, scanWhole, none_]
    · obtain ⟨c, digits, same, nonzero⟩ := toDigits_head positive
      obtain ⟨front, back⟩ := takeWhile_digits (toDigits_isDigit n) noDigit
      rw [same] at front back
      simp only [List.cons_append] at front back
      simp only [ofNat, same, List.cons_append]
      rw [scanWhole]
      · rw [scanDigits, front, back]
      · intro _ impossible
        exact absurd (List.cons.inj impossible).1 nonzero
  have positive : (match (ofNat n).whole ++ rest with
      | '-' :: rest => (true, rest)
      | _ => (false, (ofNat n).whole ++ rest)) = (false, (ofNat n).whole ++ rest) := by
    split
    · rename_i tail same
      exfalso
      have sign : '-' ∈ ((ofNat n).whole ++ rest).head? := by simp [same]
      cases digits : Nat.toDigits 10 n with
      | nil => exact absurd digits (Nat.toDigits_ne_nil)
      | cons c digits_ =>
          simp only [ofNat, digits, List.cons_append, List.head?_cons, Option.mem_def,
            Option.some.injEq] at sign
          have digit := toDigits_isDigit n c (by simp [digits])
          rw [sign] at digit
          exact absurd digit (by decide)
    · rfl
  unfold scan
  rw [positive]
  simp only [whole, noFraction, noExponent, bind, Except.bind, pure, Except.pure]
  rfl

end Number

end Tether.Json
