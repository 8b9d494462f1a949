/-
# Tether.Proofs.Json.Scalars -- texts, truth values and whole numbers that are read

A reader takes a text for a value wherever the text stands: behind blanks, and before whatever does
not go on with it.  A number is read for its value only if it is finite as a double, which every
number of 64 bits is.

* `Reads` -- a reader takes a text for a value.
* `reads_text`, `reads_bool`, `reads_natural` -- the readers of single values.
* `overflows_ofNat` -- a number of 64 bits is finite as a double.
-/
import Tether.Json.Scalar
import Tether.Proofs.Json.Grammar

set_option autoImplicit false

namespace Tether.Json

/-- `read` takes `text` for `value`, with blanks before it and whatever behind it. -/
def Reads {α : Type} (read : Reader α) (text : List Char) (value : α) : Prop :=
  ∀ before rest, Blanks before → Ends rest → read (before ++ (text ++ rest)) = .ok (value, rest)

/-- All of a text. -/
theorem Reads.all {α : Type} {read : Reader α} {text : String} {before cs after : List Char}
    {value : α} (reads : Reads read cs value) (spelled : text.toList = before ++ (cs ++ after))
    (front : Blanks before) (back : Blanks after) : readAll read text = .ok value := by
  have ends : Ends after := by
    have ends := ends_nil.after back
    rwa [List.append_nil] at ends
  have none : skipBlank after = [] := by
    have skipped := skipBlank_append back []
    rwa [List.append_nil] at skipped
  simp only [readAll, spelled, reads before after front ends, none, bind, Except.bind]
  rfl

/-- What is written compactly. -/
theorem Reads.compact {α : Type} {read : Reader α} {written : Value} {value : α}
    (reads : Reads read written.write value) : readAll read written.compact = .ok value :=
  reads.all (by simp [Value.compact] : written.compact.toList = [] ++ (written.write ++ []))
    blanks_nil blanks_nil

theorem reads_text {cs body : List Char} (spells : Text.Spells cs body) :
    Reads readText ('"' :: (body ++ ['"'])) (String.ofList cs) := by
  intro before rest blanks _
  have quote : isBlank '"' = false := by decide
  rw [readText, skipBlank_append blanks, List.cons_append, skipBlank_of_ink quote]
  show (Text.readTail (body ++ ['"'] ++ rest)).map _ = _
  rw [List.append_assoc, List.singleton_append, Text.readTail_spelled spells]
  rfl

def boolText : Bool → List Char
  | true => ['t', 'r', 'u', 'e']
  | false => ['f', 'a', 'l', 's', 'e']

theorem reads_bool (b : Bool) : Reads readBool (boolText b) b := by
  intro before rest blanks _
  rw [readBool, skipBlank_append blanks]
  cases b with
  | true =>
      show (expectWord ['r', 'u', 'e'] (['r', 'u', 'e'] ++ rest)).map _ = _
      rw [expectWord_append]
      rfl
  | false =>
      show (expectWord ['a', 'l', 's', 'e'] (['a', 'l', 's', 'e'] ++ rest)).map _ = _
      rw [expectWord_append]
      rfl

namespace Number

/-! ## Size -/

theorem value_grows (digits : List Char) (n : Nat) :
    n ≤ digits.foldl (fun n c => n * 10 + (c.toNat - 0x30)) n := by
  induction digits generalizing n with
  | nil => exact Nat.le_refl n
  | cons c digits ih => exact Nat.le_trans (by omega) (ih (n * 10 + (c.toNat - 0x30)))

/-- Digits that fit 64 bits are gathered to the last. -/
theorem gather_all (digits : List Char) (n : Nat)
    (fits : digits.foldl (fun n c => n * 10 + (c.toNat - 0x30)) n < UInt64.size) :
    gather n digits = (digits.foldl (fun n c => n * 10 + (c.toNat - 0x30)) n, []) := by
  induction digits generalizing n with
  | nil => rfl
  | cons c digits ih =>
      have here : n * 10 + (c.toNat - 0x30) < UInt64.size :=
        Nat.lt_of_le_of_lt (value_grows digits _) fits
      rw [gather, if_pos here]
      exact ih _ fits

theorem rounded_le (n : Nat) : rounded n ≤ 2 * n + 1 := by
  have unit : 2 ^ (n.log2 + 1 - 53) ≤ n + 1 := by
    by_cases zero : n = 0
    · subst zero
      decide
    · calc 2 ^ (n.log2 + 1 - 53) ≤ 2 ^ n.log2 := Nat.pow_le_pow_right (by decide) (by omega)
        _ ≤ n := Nat.log2_self_le zero
        _ ≤ n + 1 := Nat.le_succ n
  have above : (n / 2 ^ (n.log2 + 1 - 53) + 1) * 2 ^ (n.log2 + 1 - 53) ≤ 2 * n + 1 := by
    have below := Nat.div_mul_le_self n (2 ^ (n.log2 + 1 - 53))
    rw [Nat.add_mul, Nat.one_mul]
    omega
  refine Nat.le_trans (Nat.mul_le_mul_right _ ?_) above
  split
  · exact Nat.le_refl _
  · exact Nat.le_succ _

theorem parts_ofNat {n : Nat} (small : n < UInt64.size) : (ofNat n).parts = (n, 0) := by
  have gathered : gather 0 (Nat.toDigits 10 n) = (n, []) := by
    have same : (Nat.toDigits 10 n).foldl (fun n c => n * 10 + (c.toNat - 0x30)) 0 = n :=
      value_toDigits n
    rw [gather_all _ _ (by rwa [same]), same]
  simp [parts, ofNat, gathered, gather, scale]

/-- A number of 64 bits is finite as a double. -/
theorem overflows_ofNat {n : Nat} (small : n < UInt64.size) : (ofNat n).overflows = false := by
  have finite : ¬limit ≤ rounded n * rounded (Nat.pow 10 (0 : Int).toNat) := by
    have one : rounded (Nat.pow 10 (0 : Int).toNat) = 1 := by decide
    have large : 2 * UInt64.size + 1 ≤ limit := by decide +kernel
    have bound := rounded_le n
    rw [one]
    omega
  simp only [overflows, parts_ofNat small, finite]
  simp

end Number

def naturalText (n : Nat) : List Char := Nat.toDigits 10 n

theorem reads_natural {n bound : Nat} (small : n < bound) (fits : bound ≤ UInt64.size) :
    Reads (readNatural bound) (naturalText n) n := by
  intro before rest blanks ends
  have read : Number.read (naturalText n ++ rest) = .ok (Number.ofNat n, rest) := by
    have scanned : Number.scan (naturalText n ++ rest) = .ok (Number.ofNat n, rest) :=
      Number.scan_ofNat n ends
    rw [Number.read, scanned]
    simp only [bind, Except.bind, Number.overflows_ofNat (Nat.lt_of_lt_of_le small fits)]
    rfl
  obtain ⟨c, digits, begins⟩ : ∃ c digits, naturalText n = c :: digits :=
    List.exists_cons_of_ne_nil Nat.toDigits_ne_nil
  have digit : c.isDigit = true :=
    Number.toDigits_isDigit n c (by simp [show Nat.toDigits 10 n = c :: digits from begins])
  have ink : isBlank c = false := by
    refine Bool.eq_false_iff.2 fun blank => ?_
    simp only [isBlank, Bool.or_eq_true, beq_iff_eq] at blank
    rcases blank with ((rfl | rfl) | rfl) | rfl <;> cases digit
  rw [readNatural, skipBlank_append blanks]
  rw [begins] at read ⊢
  rw [List.cons_append, skipBlank_of_ink ink] at *
  simp only [digit, Bool.or_true, if_true, read, bind, Except.bind, Number.natural?_ofNat, small]
  rfl

theorem reads_uint32 (n : UInt32) : Reads readUInt32 (naturalText n.toNat) n := by
  intro before rest blanks ends
  rw [readUInt32, reads_natural n.toNat_lt (by decide) before rest blanks ends]
  simp [Except.map]

theorem reads_uint64 (n : UInt64) : Reads readUInt64 (naturalText n.toNat) n := by
  intro before rest blanks ends
  rw [readUInt64, reads_natural n.toNat_lt (by decide) before rest blanks ends]
  simp [Except.map]

end Tether.Json
