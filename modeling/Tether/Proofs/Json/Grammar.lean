/-
# Tether.Proofs.Json.Grammar -- the texts of JSON values, and how they are read

What a JSON text is, said without a reader: strings with any of their escapes, numbers in all their
parts, arrays and objects nested to any depth, and blanks wherever they may stand.  Each kind of
text is then shown to be read, or passed over, exactly, whatever stands behind it.  Only a number
needs something behind it that does not go on with it.

* `Spells` -- a string, by what stands between its quotes.
* `IsNumber` -- a number as it is written.
* `Grammar` -- a value, and the items that stand between brackets.
* `readTail_spelled`, `skipTail_body`, `scan_number` -- strings and numbers are read to their end.
* `skip_value` -- every value is passed over to its end.
-/
import Tether.Json.Skip
import Tether.Json.Value

set_option autoImplicit false

namespace Tether.Json

/-! ## Blanks -/

def Blanks (cs : List Char) : Prop := ∀ c ∈ cs, isBlank c = true

theorem blanks_nil : Blanks [] := fun _ none => (List.not_mem_nil none).elim

theorem skipBlank_append {blanks : List Char} (all : Blanks blanks) (cs : List Char) :
    skipBlank (blanks ++ cs) = skipBlank cs :=
  List.dropWhile_append_of_pos all

/-- What stands behind a value: nothing, or a character that no number goes on with. -/
def Ends (rest : List Char) : Prop := ∀ c ∈ rest.head?, Number.endsNumber c = true

theorem ends_nil : Ends [] := nofun

theorem ends_cons {c : Char} (ends : Number.endsNumber c = true) (rest : List Char) :
    Ends (c :: rest) := by
  intro d here
  obtain rfl := Option.some.inj here
  exact ends

theorem ends_blank {c : Char} (blank : isBlank c = true) : Number.endsNumber c = true := by
  simp only [isBlank, Bool.or_eq_true, beq_iff_eq] at blank
  rcases blank with ((rfl | rfl) | rfl) | rfl <;> decide

theorem Ends.after {blanks rest : List Char} (all : Blanks blanks) (ends : Ends rest) :
    Ends (blanks ++ rest) := by
  cases blanks with
  | nil => exact ends
  | cons c blanks => exact ends_cons (ends_blank (all c List.mem_cons_self)) _

/-! ## Strings -/

namespace Text

/-- `body` is the text `cs` as it stands between quotes. -/
inductive Spells : List Char → List Char → Prop
  | nil : Spells [] []
  | plain {c : Char} {cs body : List Char} (printed : ¬c.toNat < 0x20) (quote : c ≠ '"')
      (backslash : c ≠ '\\') (rest : Spells cs body) : Spells (c :: cs) (c :: body)
  | short {letter c : Char} {cs body : List Char} (escape : shortEscape? letter = some c)
      (rest : Spells cs body) : Spells (c :: cs) ('\\' :: letter :: body)
  | unit {a b c d : Char} {n : Nat} {cs body : List Char} (digits : readUnit [a, b, c, d] = .ok n)
      (leading : isLeading n = false) (trailing : isTrailing n = false) (rest : Spells cs body) :
      Spells (Char.ofNat n :: cs) ('\\' :: 'u' :: a :: b :: c :: d :: body)
  | pair {a b c d e f g h : Char} {n m : Nat} {cs body : List Char}
      (first : readUnit [a, b, c, d] = .ok n) (leading : isLeading n = true)
      (second : readUnit [e, f, g, h] = .ok m) (trailing : isTrailing m = true)
      (rest : Spells cs body) :
      Spells (paired n m :: cs)
        ('\\' :: 'u' :: a :: b :: c :: d :: '\\' :: 'u' :: e :: f :: g :: h :: body)

/-- What may stand between quotes, where surrogates need not pair. -/
inductive IsBody : List Char → Prop
  | nil : IsBody []
  | plain {c : Char} {body : List Char} (printed : ¬c.toNat < 0x20) (quote : c ≠ '"')
      (backslash : c ≠ '\\') (rest : IsBody body) : IsBody (c :: body)
  | short {letter : Char} {body : List Char} (escape : (shortEscape? letter).isSome = true)
      (rest : IsBody body) : IsBody ('\\' :: letter :: body)
  | unit {a b c d : Char} {n : Nat} {body : List Char} (digits : readUnit [a, b, c, d] = .ok n)
      (rest : IsBody body) : IsBody ('\\' :: 'u' :: a :: b :: c :: d :: body)

theorem readUnit_append {a b c d : Char} {n : Nat} (digits : readUnit [a, b, c, d] = .ok n)
    (rest : List Char) : readUnit (a :: b :: c :: d :: rest) = .ok n := digits

theorem other_than_unit {letter c : Char} (escape : shortEscape? letter = some c) :
    letter ≠ 'u' := by
  rintro rfl
  cases escape

/-- A string is read to its closing quote. -/
theorem readTail_spelled {cs body : List Char} (spells : Spells cs body) (rest : List Char) :
    readTail (body ++ '"' :: rest) = .ok (cs, rest) := by
  induction spells with
  | nil =>
      show readTail ('"' :: rest) = _
      rw [readTail]
  | @plain c cs body printed quote backslash _ ih =>
      rw [List.cons_append, readTail]
      · rw [if_neg printed, ih]
        rfl
      all_goals simp [quote, backslash]
  | @short letter c cs body escape _ ih =>
      have other := other_than_unit escape
      rw [List.cons_append, List.cons_append, readTail]
      · rw [escape]
        simp only [ih]
        rfl
      · simpa using other
  | unit digits leading trailing _ ih =>
      simp only [List.cons_append]
      rw [readTail, readUnit_append digits]
      simp only [leading, trailing, Bool.false_eq_true, if_false, List.drop_succ_cons,
        List.drop_zero, ih]
      rfl
  | @pair a b c d e f g h n m cs body first leading second trailing _ ih =>
      -- A leading unit is not a trailing one.
      have apart : isTrailing n = false := by
        simp only [isLeading, isTrailing, Bool.and_eq_true, decide_eq_true_eq,
          Bool.and_eq_false_iff, decide_eq_false_iff_not] at leading ⊢
        omega
      have next : readTrailing ('\\' :: 'u' :: e :: f :: g :: h :: (body ++ '"' :: rest)) = .ok m := by
        rw [readTrailing, readUnit_append second]
        simp only [bind, Except.bind, trailing, if_true]
        rfl
      simp only [List.cons_append]
      rw [readTail, readUnit_append first]
      simp only [leading, apart, Bool.false_eq_true, if_false, if_true, List.drop_succ_cons,
        List.drop_zero, next, ih]
      rfl

theorem Spells.append {cs body ds tail : List Char} (first : Spells cs body)
    (second : Spells ds tail) : Spells (cs ++ ds) (body ++ tail) := by
  induction first with
  | nil => exact second
  | plain printed quote backslash _ ih => exact .plain printed quote backslash ih
  | short escape _ ih => exact .short escape ih
  | unit digits leading trailing _ ih => exact .unit digits leading trailing ih
  | pair first leading second trailing _ ih => exact .pair first leading second trailing ih

theorem spells_char (c : Char) : Spells [c] (writeChar c) := by
  unfold writeChar
  split
  · rename_i letter short
    exact .short (shortEscape?_of_shortForm? short).1 .nil
  · rename_i plain
    split
    · rename_i small
      have unit := readUnit_control small []
      have same : Char.ofNat c.toNat = c := Char.ofNat_toNat c
      have leading : isLeading c.toNat = false := by simp [isLeading]; omega
      have trailing : isTrailing c.toNat = false := by simp [isTrailing]; omega
      have spells := Spells.unit unit leading trailing .nil
      rwa [same] at spells
    · rename_i large
      refine .plain large (fun same => ?_) (fun same => ?_) .nil
      · simp [same, shortForm?] at plain
      · simp [same, shortForm?] at plain

/-- A string is spelled as it is written. -/
theorem spells_write (cs : List Char) : Spells cs (writeBody cs) := by
  induction cs with
  | nil => exact .nil
  | cons c cs ih => exact (spells_char c).append ih

theorem skipTail_body {body : List Char} (isBody : IsBody body) (rest : List Char) :
    skipTail (body ++ '"' :: rest) = .ok rest := by
  induction isBody with
  | nil =>
      show skipTail ('"' :: rest) = _
      rw [skipTail]
  | plain printed quote backslash _ ih =>
      rw [List.cons_append, skipTail]
      · rw [if_neg printed, ih]
      all_goals simp [quote, backslash]
  | @short letter body escape _ ih =>
      obtain ⟨c, known⟩ := Option.isSome_iff_exists.1 escape
      have other := other_than_unit known
      rw [List.cons_append, List.cons_append, skipTail]
      · rw [if_pos escape, ih]
      · simpa using other
  | unit digits _ ih =>
      simp only [List.cons_append]
      rw [skipTail, readUnit_append digits]
      exact ih

end Text

/-! ## Numbers -/

namespace Number

def IsDigits (cs : List Char) : Prop := cs ≠ [] ∧ ∀ c ∈ cs, c.isDigit = true

inductive IsWhole : List Char → Prop
  | zero : IsWhole ['0']
  | digits {c : Char} {cs : List Char} (begins : c ≠ '0') (isDigits : IsDigits (c :: cs)) :
      IsWhole (c :: cs)

inductive IsFraction : List Char → Prop
  | none : IsFraction []
  | some {digits : List Char} (isDigits : IsDigits digits) : IsFraction ('.' :: digits)

inductive IsExponent : List Char → Prop
  | none : IsExponent []
  | some {mark : Char} {sign digits : List Char} (marks : mark = 'e' ∨ mark = 'E')
      (signs : sign = [] ∨ sign = ['+'] ∨ sign = ['-']) (isDigits : IsDigits digits) :
      IsExponent (mark :: (sign ++ digits))

inductive IsNumber : List Char → Prop
  | mk {sign whole fraction exponent : List Char} (signs : sign = [] ∨ sign = ['-'])
      (isWhole : IsWhole whole) (isFraction : IsFraction fraction)
      (isExponent : IsExponent exponent) : IsNumber (sign ++ (whole ++ (fraction ++ exponent)))

theorem IsWhole.begins {whole : List Char} (isWhole : IsWhole whole) :
    ∃ c cs, whole = c :: cs ∧ c.isDigit = true := by
  cases isWhole with
  | zero => exact ⟨_, _, rfl, rfl⟩
  | digits _ isDigits => exact ⟨_, _, rfl, isDigits.2 _ List.mem_cons_self⟩

def NoDigit (rest : List Char) : Prop := ∀ c ∈ rest.head?, c.isDigit = false

theorem noDigit_of_ends {rest : List Char} (ends : Ends rest) : NoDigit rest := by
  intro c here
  have stop := ends c here
  simp only [endsNumber, Bool.and_eq_true, Bool.not_eq_true'] at stop
  exact stop.1.1.1

theorem scanDigits_append {digits rest : List Char} (isDigits : IsDigits digits)
    (stop : NoDigit rest) : scanDigits (digits ++ rest) = .ok (digits, rest) := by
  obtain ⟨front, back⟩ := takeWhile_digits isDigits.2 stop
  unfold scanDigits
  rw [front, back]
  split
  · exact absurd rfl isDigits.1
  · rfl

theorem scanWhole_append {whole rest : List Char} (isWhole : IsWhole whole)
    (stop : NoDigit rest) : scanWhole (whole ++ rest) = .ok (whole, rest) := by
  cases isWhole with
  | zero =>
      have none : rest.head?.any Char.isDigit = false := by
        cases head : rest.head? with
        | none => rfl
        | some c => exact stop c head
      simp [scanWhole, none]
  | @digits c cs begins digits =>
      rw [List.cons_append, scanWhole]
      · exact scanDigits_append digits stop
      · intro _ same
        exact absurd (List.cons.inj same).1 begins

theorem scanFraction_append {fraction rest : List Char} (isFraction : IsFraction fraction)
    (stop : NoDigit rest) (dot : ∀ c ∈ rest.head?, c ≠ '.') :
    ∃ found, scanFraction (fraction ++ rest) = .ok (found, rest) := by
  cases isFraction with
  | none =>
      refine ⟨none, ?_⟩
      rw [List.nil_append]
      unfold scanFraction
      split
      · exact absurd rfl (dot '.' rfl)
      · rfl
  | @some digits isDigits =>
      refine ⟨some digits, ?_⟩
      rw [List.cons_append, scanFraction, scanDigits_append isDigits stop]
      rfl

theorem scanSign_append {sign digits rest : List Char}
    (signs : sign = [] ∨ sign = ['+'] ∨ sign = ['-']) (isDigits : IsDigits digits) :
    ∃ found, scanSign (sign ++ digits ++ rest) = (found, digits ++ rest) := by
  rcases signs with rfl | rfl | rfl
  · refine ⟨none, ?_⟩
    obtain ⟨c, more, rfl⟩ := List.exists_cons_of_ne_nil isDigits.1
    have digit := isDigits.2 c List.mem_cons_self
    have plus : c ≠ '+' := by
      rintro rfl
      cases digit
    have minus : c ≠ '-' := by
      rintro rfl
      cases digit
    simp only [List.nil_append, List.cons_append]
    unfold scanSign
    split
    · exact absurd (List.cons.inj ‹_›).1 plus
    · exact absurd (List.cons.inj ‹_›).1 minus
    · rfl
  · exact ⟨some '+', rfl⟩
  · exact ⟨some '-', rfl⟩

theorem scanExponent_append {exponent rest : List Char} (isExponent : IsExponent exponent)
    (ends : Ends rest) : ∃ found, scanExponent (exponent ++ rest) = .ok (found, rest) := by
  cases isExponent with
  | none =>
      refine ⟨none, ?_⟩
      cases rest with
      | nil => rfl
      | cons c rest =>
          have stop := ends c rfl
          simp only [endsNumber, Bool.and_eq_true, bne_iff_ne] at stop
          simp [scanExponent, stop.1.2, stop.2]
  | @some mark sign digits marks signs isDigits =>
      obtain ⟨found, signed⟩ := @scanSign_append sign digits rest signs isDigits
      refine ⟨some (found, digits), ?_⟩
      have marked : (mark == 'e' || mark == 'E') = true := by
        rcases marks with rfl | rfl <;> rfl
      rw [List.cons_append, scanExponent, if_pos marked, signed]
      simp only [scanDigits_append isDigits (noDigit_of_ends ends)]
      rfl

/-- A number is read to its end. -/
theorem scan_number {cs rest : List Char} (isNumber : IsNumber cs) (ends : Ends rest) :
    ∃ n, scan (cs ++ rest) = .ok (n, rest) := by
  obtain ⟨signs, isWhole, isFraction, isExponent⟩ := isNumber
  rename_i sign whole fraction exponent
  -- What follows the whole digits, and what follows the fraction.
  have afterFraction : NoDigit (exponent ++ rest) ∧ ∀ c ∈ (exponent ++ rest).head?, c ≠ '.' := by
    cases isExponent with
    | none =>
        refine ⟨noDigit_of_ends ends, fun c here dot => ?_⟩
        have stop := ends c here
        rw [dot] at stop
        cases stop
    | some marks _ _ =>
        constructor
        all_goals
          intro c here
          obtain rfl := Option.some.inj here
          rcases marks with rfl | rfl <;> decide
  have afterWhole : NoDigit (fraction ++ (exponent ++ rest)) := by
    cases isFraction with
    | none => exact afterFraction.1
    | some _ =>
        intro c here
        obtain rfl := Option.some.inj here
        decide
  have whole_ := scanWhole_append isWhole afterWhole
  obtain ⟨fraction_, fractioned⟩ := scanFraction_append isFraction afterFraction.1 afterFraction.2
  obtain ⟨exponent_, exponented⟩ := scanExponent_append isExponent ends
  rcases signs with rfl | rfl
  · refine ⟨⟨false, whole, fraction_, exponent_⟩, ?_⟩
    obtain ⟨c, more, rfl, digit⟩ := isWhole.begins
    have minus : c ≠ '-' := by
      rintro rfl
      cases digit
    rw [List.cons_append] at whole_
    simp [scan, minus, whole_, fractioned, exponented, bind, Except.bind, pure, Except.pure]
  · refine ⟨⟨true, whole, fraction_, exponent_⟩, ?_⟩
    simp [scan, whole_, fractioned, exponented, bind, Except.bind, pure, Except.pure]

end Number

/-! ## Values -/

def Bracket.opening : Bracket → Char
  | .array => '['
  | .object => '\x7b'

/-- What a text is part of. -/
inductive Part
  | value
  /-- An element of an array, or a member of an object, with blanks around it. -/
  | item (bracket : Bracket)
  /-- Items with commas between them. -/
  | items (bracket : Bracket)

inductive Grammar : Part → List Char → Prop
  | null : Grammar .value ['n', 'u', 'l', 'l']
  | yes : Grammar .value ['t', 'r', 'u', 'e']
  | no : Grammar .value ['f', 'a', 'l', 's', 'e']
  | number {cs : List Char} (isNumber : Number.IsNumber cs) : Grammar .value cs
  | text {body : List Char} (isBody : Text.IsBody body) : Grammar .value ('"' :: (body ++ ['"']))
  | empty (bracket : Bracket) {blanks : List Char} (all : Blanks blanks) :
      Grammar .value (bracket.opening :: (blanks ++ [bracket.close]))
  | full {bracket : Bracket} {items : List Char} (inside : Grammar (.items bracket) items) :
      Grammar .value (bracket.opening :: (items ++ [bracket.close]))
  | element {before value after : List Char} (front : Blanks before)
      (isValue : Grammar .value value) (back : Blanks after) :
      Grammar (.item .array) (before ++ (value ++ after))
  | member {before name colon gap value after : List Char} (front : Blanks before)
      (isBody : Text.IsBody name) (first : Blanks colon) (second : Blanks gap)
      (isValue : Grammar .value value) (back : Blanks after) :
      Grammar (.item .object)
        (before ++ '"' :: (name ++ '"' :: (colon ++ ':' :: (gap ++ (value ++ after)))))
  | last {bracket : Bracket} {item : List Char} (isItem : Grammar (.item bracket) item) :
      Grammar (.items bracket) item
  | more {bracket : Bracket} {item items : List Char} (isItem : Grammar (.item bracket) item)
      (rest : Grammar (.items bracket) items) : Grammar (.items bracket) (item ++ ',' :: items)

abbrev IsValue (cs : List Char) : Prop := Grammar .value cs

/-- What no part begins with, blanks aside. -/
theorem begins {part : Part} {cs : List Char} (grammar : Grammar part cs) :
    ∃ before c rest, Blanks before ∧ cs = before ++ c :: rest ∧ isBlank c = false ∧
      ∀ bracket : Bracket, c ≠ bracket.close := by
  induction grammar with
  | null | yes | no =>
      exact ⟨[], _, _, blanks_nil, rfl, by decide, fun bracket => by cases bracket <;> decide⟩
  | text _ =>
      exact ⟨[], _, _, blanks_nil, rfl, by decide, fun bracket => by cases bracket <;> decide⟩
  | empty bracket _ =>
      refine ⟨[], _, _, blanks_nil, rfl, ?_, fun other => ?_⟩
      · cases bracket <;> decide
      · cases bracket <;> cases other <;> decide
  | @full bracket =>
      refine ⟨[], _, _, blanks_nil, rfl, ?_, fun other => ?_⟩
      · cases bracket <;> decide
      · cases bracket <;> cases other <;> decide
  | number isNumber =>
      have inked : ∀ {c : Char}, c.isDigit = true ∨ c = '-' →
          isBlank c = false ∧ ∀ bracket : Bracket, c ≠ bracket.close := by
        intro c starts
        refine ⟨Bool.eq_false_iff.2 fun blank => ?_, fun bracket same => ?_⟩
        · simp only [isBlank, Bool.or_eq_true, beq_iff_eq] at blank
          rcases blank with ((rfl | rfl) | rfl) | rfl <;> revert starts <;> decide
        · rw [same] at starts
          revert starts
          cases bracket <;> decide
      obtain ⟨signs, isWhole, -, -⟩ := isNumber
      obtain ⟨c, more, rfl, digit⟩ := isWhole.begins
      rcases signs with rfl | rfl
      · obtain ⟨ink, other⟩ := inked (.inl digit)
        exact ⟨[], _, _, blanks_nil, rfl, ink, other⟩
      · obtain ⟨ink, other⟩ := inked (.inr rfl)
        exact ⟨[], _, _, blanks_nil, rfl, ink, other⟩
  | @element before value after front isValue back ih =>
      obtain ⟨before', c, rest, front', rfl, ink, other⟩ := ih
      refine ⟨before ++ before', c, rest ++ after, ?_, by simp, ink, other⟩
      exact fun d member => (List.mem_append.1 member).elim (front d) (front' d)
  | @member before _ _ _ _ _ front =>
      exact ⟨before, '"', _, front, rfl, by decide, fun bracket => by cases bracket <;> decide⟩
  | last _ ih => exact ih
  | @more _ item items _ _ first =>
      obtain ⟨before, c, rest, front, rfl, ink, other⟩ := first
      exact ⟨before, c, rest ++ ',' :: items, front, by simp, ink, other⟩

section Skipping

variable {before : List Char} {open_ : List Bracket}

theorem skipFrom_item_blanks (blanks : Blanks before) (fuel : Nat) (bracket : Bracket)
    (cs : List Char) : skipFrom fuel bracket.item open_ (before ++ cs) =
      skipFrom fuel bracket.item open_ cs := by
  cases fuel with
  | zero => rw [skipFrom, skipFrom]
  | succ fuel =>
      cases bracket with
      | array =>
          show skipFrom (fuel + 1) .value open_ _ = skipFrom (fuel + 1) .value open_ _
          rw [skipFrom, skipFrom, skipBlank_append blanks]
      | object =>
          show skipFrom (fuel + 1) .member open_ _ = skipFrom (fuel + 1) .member open_ _
          rw [skipFrom, skipFrom, skipName, skipName, expect, expect, skipBlank_append blanks]

theorem skipFrom_next_blanks (blanks : Blanks before) (fuel : Nat) (bracket : Bracket)
    (cs : List Char) : skipFrom fuel .next (bracket :: open_) (before ++ cs) =
      skipFrom fuel .next (bracket :: open_) cs := by
  cases fuel with
  | zero => rw [skipFrom, skipFrom]
  | succ fuel => rw [skipFrom, skipFrom, skipBlank_append blanks]

/-- With enough fuel for all of `cs`, passing over it comes to `result`. -/
def Comes (place : Place) (open_ : List Bracket) (cs : List Char)
    (result : Except Fault (List Char)) : Prop :=
  ∀ fuel, cs.length < fuel → skipFrom fuel place open_ cs = result

variable {rest : List Char} {result : Except Fault (List Char)} {bracket : Bracket}

/-- A value without brackets, and what comes behind it. -/
theorem comes_scalar {c : Char} {cs : List Char} (ink : isBlank c = false) (array : c ≠ '[')
    (object : c ≠ '\x7b') (scalar : skipScalar c cs = .ok rest) (shorter : rest.length ≤ cs.length)
    (after : Comes .next open_ rest result) : Comes .value open_ (c :: cs) result := by
  intro fuel enough
  cases fuel with
  | zero => exact absurd enough (Nat.not_lt_zero _)
  | succ fuel =>
      rw [List.length_cons] at enough
      rw [skipFrom, skipBlank_of_ink ink]
      simp only [scalar, bind, Except.bind]
      exact after fuel (by omega)

theorem comes_opening {cs : List Char}
    (inside : ∀ fuel, cs.length < fuel → skipFrom.skipFirst fuel bracket open_ cs = result) :
    Comes .value open_ (bracket.opening :: cs) result := by
  intro fuel enough
  cases fuel with
  | zero => exact absurd enough (Nat.not_lt_zero _)
  | succ fuel =>
      have ink : isBlank bracket.opening = false := by cases bracket <;> rfl
      rw [List.length_cons] at enough
      rw [skipFrom, skipBlank_of_ink ink]
      cases bracket <;> exact inside fuel (by omega)

theorem ink_close (bracket : Bracket) : isBlank bracket.close = false := by cases bracket <;> rfl

theorem comes_close (after : Comes .next open_ rest result) :
    Comes .next (bracket :: open_) (bracket.close :: rest) result := by
  intro fuel enough
  cases fuel with
  | zero => exact absurd enough (Nat.not_lt_zero _)
  | succ fuel =>
      have comma : bracket.close ≠ ',' := by cases bracket <;> decide
      rw [List.length_cons] at enough
      rw [skipFrom, skipBlank_of_ink (ink_close bracket)]
      simp only [comma, if_false, if_true]
      exact after fuel (by omega)

theorem comes_comma (after : Comes bracket.item (bracket :: open_) rest result) :
    Comes .next (bracket :: open_) (',' :: rest) result := by
  intro fuel enough
  cases fuel with
  | zero => exact absurd enough (Nat.not_lt_zero _)
  | succ fuel =>
      rw [List.length_cons] at enough
      rw [skipFrom, skipBlank_of_ink (by decide)]
      simp only [if_true]
      exact after fuel (by omega)

theorem comes_next_blanks {after : List Char} (blanks : Blanks after)
    (next : Comes .next (bracket :: open_) rest result) :
    Comes .next (bracket :: open_) (after ++ rest) result := by
  intro fuel enough
  rw [List.length_append] at enough
  rw [skipFrom_next_blanks blanks]
  exact next fuel (by omega)

theorem comes_value_blanks (blanks : Blanks before) (value : Comes .value open_ rest result) :
    Comes .value open_ (before ++ rest) result := by
  intro fuel enough
  rw [List.length_append] at enough
  exact (skipFrom_item_blanks blanks fuel .array rest).trans (value fuel (by omega))

/-- What passing over a part means, whatever comes behind it. -/
def Passes : Part → List Char → Prop
  | .value, cs => ∀ open_ rest result, Ends rest → Comes .next open_ rest result →
      Comes .value open_ (cs ++ rest) result
  | .item bracket, cs => ∀ open_ rest result, Ends rest →
      Comes .next (bracket :: open_) rest result →
        Comes bracket.item (bracket :: open_) (cs ++ rest) result
  | .items bracket, cs => ∀ open_ rest result, Comes .next open_ rest result →
      Comes bracket.item (bracket :: open_) (cs ++ bracket.close :: rest) result

theorem passes_word {c : Char} {word : List Char} (ink : isBlank c = false) (array : c ≠ '[')
    (object : c ≠ '\x7b') (known : ∀ rest, skipScalar c (word ++ rest) = .ok rest) :
    Passes .value (c :: word) := by
  intro open_ rest result _ after
  exact comes_scalar ink array object (known rest) (by simp) after

theorem passes_number {cs : List Char} (isNumber : Number.IsNumber cs) : Passes .value cs := by
  intro open_ rest result ends after
  obtain ⟨n, scanned⟩ := Number.scan_number isNumber ends
  -- The first character of a number tells it from every other value.
  have first : ∃ c more, cs = c :: more ∧ (c == '-' || c.isDigit) = true := by
    obtain ⟨signs, isWhole, -, -⟩ := isNumber
    obtain ⟨c, more, rfl, digit⟩ := isWhole.begins
    rcases signs with rfl | rfl
    · exact ⟨c, _, rfl, by rw [digit, Bool.or_true]⟩
    · exact ⟨'-', _, rfl, rfl⟩
  obtain ⟨c, more, rfl, starts⟩ := first
  have other : ∀ d : Char, (d == '-' || d.isDigit) = false → c ≠ d := by
    rintro d apart rfl
    rw [starts] at apart
    cases apart
  have ink : isBlank c = false := by
    refine Bool.eq_false_iff.2 fun blank => ?_
    simp only [isBlank, Bool.or_eq_true, beq_iff_eq] at blank
    rcases blank with ((rfl | rfl) | rfl) | rfl <;> cases starts
  have scalar : skipScalar c (more ++ rest) = .ok rest := by
    simp only [skipScalar, other 'n' rfl, other 't' rfl, other 'f' rfl, other '"' rfl, starts,
      beq_iff_eq, if_false, if_true]
    rw [Number.skip, ← List.cons_append, scanned]
  exact comes_scalar ink (other '[' rfl) (other '\x7b' rfl) scalar (by simp) after

theorem passes_text {body : List Char} (isBody : Text.IsBody body) :
    Passes .value ('"' :: (body ++ ['"'])) := by
  intro open_ rest result _ after
  have scalar : skipScalar '"' (body ++ ['"'] ++ rest) = .ok rest := by
    rw [List.append_assoc]
    exact Text.skipTail_body isBody rest
  exact comes_scalar rfl (by decide) (by decide) scalar (by simp; omega) after

/-- Brackets with nothing but blanks in them. -/
theorem passes_empty (bracket : Bracket) {blanks : List Char} (all : Blanks blanks) :
    Passes .value (bracket.opening :: (blanks ++ [bracket.close])) := by
  intro open_ rest result _ after
  rw [List.cons_append, List.append_assoc, List.singleton_append]
  refine comes_opening fun fuel enough => ?_
  rw [List.length_append] at enough
  rw [skipFrom.skipFirst, skipBlank_append all, skipBlank_of_ink (ink_close bracket)]
  simp only [if_true]
  exact after fuel (by simp at enough; omega)

theorem passes_full {items : List Char} (grammar : Grammar (.items bracket) items)
    (inside : Passes (.items bracket) items) :
    Passes .value (bracket.opening :: (items ++ [bracket.close])) := by
  intro open_ rest result _ after
  rw [List.cons_append, List.append_assoc]
  refine comes_opening fun fuel enough => ?_
  obtain ⟨before, c, more, blanks, rfl, ink, other⟩ := begins grammar
  have comes := inside open_ rest result after fuel enough
  rw [List.append_assoc, List.cons_append] at comes ⊢
  rw [skipFrom_item_blanks blanks] at comes
  rw [skipFrom.skipFirst, skipBlank_append blanks, skipBlank_of_ink ink]
  simp only [other bracket, if_false]
  exact comes

theorem passes_member {before name colon gap value after : List Char} (front : Blanks before)
    (isBody : Text.IsBody name) (first : Blanks colon) (second : Blanks gap)
    (passes : Passes .value value) (back : Blanks after) :
    Passes (.item .object)
      (before ++ '"' :: (name ++ '"' :: (colon ++ ':' :: (gap ++ (value ++ after))))) := by
  intro open_ rest result ends next
  have named : skipName (before ++ '"' :: (name ++ '"' :: (colon ++ ':' ::
      (gap ++ (value ++ (after ++ rest)))))) = .ok (gap ++ (value ++ (after ++ rest))) := by
    have quote : isBlank '"' = false := by decide
    have sign : isBlank ':' = false := by decide
    simp only [skipName, expect, skipBlank_append front, skipBlank_of_ink quote, if_true, bind,
      Except.bind, Text.skipTail_body isBody, skipBlank_append first, skipBlank_of_ink sign]
  intro fuel enough
  cases fuel with
  | zero => exact absurd enough (Nat.not_lt_zero _)
  | succ fuel =>
      show skipFrom (fuel + 1) .member _ _ = _
      simp only [List.append_assoc, List.cons_append] at enough ⊢
      simp only [List.length_append, List.length_cons] at enough
      rw [skipFrom, named]
      refine comes_value_blanks second (passes _ _ _ (ends.after back)
        (comes_next_blanks back next)) fuel ?_
      simp only [List.length_append]
      omega

/-- **Every part is passed over to its end.** -/
theorem passes_of_grammar {part : Part} {cs : List Char} (grammar : Grammar part cs) :
    Passes part cs := by
  induction grammar with
  | null => exact passes_word rfl (by decide) (by decide) fun rest => expectWord_append _ rest
  | yes => exact passes_word rfl (by decide) (by decide) fun rest => expectWord_append _ rest
  | no => exact passes_word rfl (by decide) (by decide) fun rest => expectWord_append _ rest
  | number isNumber => exact passes_number isNumber
  | text isBody => exact passes_text isBody
  | empty bracket all => exact passes_empty bracket all
  | full inside ih => exact passes_full inside ih
  | element front _ back ih =>
      intro open_ rest result ends next
      rw [List.append_assoc, List.append_assoc]
      exact comes_value_blanks front
        (ih _ _ _ (ends.after back) (comes_next_blanks back next))
  | member front isBody first second _ back ih =>
      exact passes_member front isBody first second ih back
  | @last bracket item _ ih =>
      intro open_ rest result after
      have stop : Number.endsNumber bracket.close = true := by cases bracket <;> rfl
      exact ih open_ _ _ (ends_cons stop _) (comes_close after)
  | more _ _ first others =>
      intro open_ rest result after
      rw [List.append_assoc]
      exact first open_ _ _ (ends_cons (by decide) _) (comes_comma (others open_ rest result after))

end Skipping

/-- **A value is passed over to its end, blanks before it included.** -/
theorem skip_value {before cs rest : List Char} (blanks : Blanks before) (isValue : IsValue cs)
    (ends : Ends rest) : skip (before ++ (cs ++ rest)) = .ok rest := by
  refine comes_value_blanks blanks (passes_of_grammar isValue [] rest (.ok rest) ends ?_) _
    (Nat.lt_succ_self _)
  intro fuel enough
  cases fuel with
  | zero => exact absurd enough (Nat.not_lt_zero _)
  | succ fuel => rw [skipFrom]

end Tether.Json
