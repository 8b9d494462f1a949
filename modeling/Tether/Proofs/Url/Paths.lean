/-
# Tether.Proofs.Url.Paths -- what a path holds once it is read

A strict path is cut at its slashes, its dots are followed and its characters escaped.  What is
left is plain: no segment has a slash, a dot's meaning or a character that would be escaped, so
reading the path again, or going on from it, leaves every segment as it is.

* `Plain` -- a segment that reading leaves alone.
* `step_escape` -- escaping makes no dots.
* `readPath_plain` -- reading leaves plain segments, and at least one.
* `pathOf_text` -- the text of a path is read as that path.
* `Below`, `goOn_below` -- a text that goes on from a path, and what it leaves of it.
-/
import Mathlib.Data.List.Basic
import Mathlib.Tactic.ByContra
import Mathlib.Tactic.Push
import Tether.Url.Edit

set_option autoImplicit false

namespace Tether.Url

/-! ## Escaping -/

/-- A character of an escaped path: one that stands for itself, or one of an escape. -/
theorem mem_escape {cs : List Char} {c : Char} (member : c ∈ escape .path cs) :
    c ∈ cs ∧ Part.path.escapes c = false ∨ c = '%' ∨ ∃ n < 16, c = Text.upperHexDigit n := by
  obtain ⟨d, among, written⟩ := List.mem_flatMap.1 member
  unfold escapeChar at written
  split at written
  · obtain ⟨byte, -, digit⟩ := List.mem_flatMap.1 written
    have bound := byte.toNat_lt
    simp only [Text.percentEncoded, List.mem_cons, List.not_mem_nil, or_false] at digit
    rcases digit with percent | high | low
    · exact .inr (.inl percent)
    · exact .inr (.inr ⟨byte.toNat / 16, by omega, high⟩)
    · exact .inr (.inr ⟨byte.toNat % 16, by omega, low⟩)
  · rename_i kept
    rw [List.mem_singleton] at written
    subst written
    exact .inl ⟨among, Bool.eq_false_iff.2 kept⟩

def isInner (c : Char) : Bool := !Part.path.escapes c && c != '/' && c != '\\'

theorem upperHexDigit_inner {n : Nat} (small : n < 16) : isInner (Text.upperHexDigit n) = true := by
  have all : ∀ m ∈ List.range 16, isInner (Text.upperHexDigit m) = true := by decide
  exact all n (List.mem_range.2 small)

/-- Escaping what has no slashes gives what may stand in a plain segment. -/
theorem escape_inner {cs : List Char} (free : ∀ c ∈ cs, c ≠ '/' ∧ c ≠ '\\') {c : Char}
    (member : c ∈ escape .path cs) : isInner c = true := by
  rcases mem_escape member with ⟨among, kept⟩ | rfl | ⟨n, small, rfl⟩
  · obtain ⟨slash, backslash⟩ := free c among
    simp [isInner, kept, slash, backslash]
  · decide
  · exact upperHexDigit_inner small

/-- The segments that mean a step up or none, letters in lowercase. -/
def dots : List (List Char) :=
  [['.'], ['%', '2', 'e'], ['.', '.'], ['.', '%', '2', 'e'], ['%', '2', 'e', '.'],
    ['%', '2', 'e', '%', '2', 'e']]

theorem mem_dots {segment : List Char} (meaning : Step.of segment ≠ .down) :
    segment.map Char.toLower ∈ dots := by
  unfold Step.of at meaning
  split at meaning
  all_goals first | exact absurd rfl meaning | simp [dots, *]

/-- In dots a percent sign begins an escaped dot. -/
theorem dots_percent {form : List Char} (member : form ∈ dots) {i : Nat}
    (percent : form[i]? = some '%') : form[i + 1]? = some '2' ∧ form[i + 2]? = some 'e' := by
  have all : ∀ form ∈ dots, ∀ i ∈ List.range 6, form[i]? = some '%' →
      form[i + 1]? = some '2' ∧ form[i + 2]? = some 'e' := by decide
  have short : ∀ form ∈ dots, form.length ≤ 6 := by decide
  have inside : i < form.length := (List.getElem?_eq_some_iff.1 percent).1
  exact all form member i (List.mem_range.2 (Nat.lt_of_lt_of_le inside (short form member))) percent

/-- The first byte of a character is that of a dot only for the dot. -/
theorem utf8_head (c : Char) :
    ∃ byte bytes, String.utf8EncodeChar c = byte :: bytes ∧ (byte.toNat = 0x2E → c = '.') := by
  have other : ∀ (n m : Nat), 0xC0 ≤ m → n + m < 256 → (UInt8.ofNat (n + m)).toNat = 0x2E →
      c = '.' := by
    intro n m large small same
    rw [UInt8.toNat_ofNat', Nat.mod_eq_of_lt small] at same
    omega
  unfold String.utf8EncodeChar
  simp only
  split
  · rename_i ascii
    refine ⟨_, _, rfl, fun same => ?_⟩
    rw [UInt8.toNat_ofNat', Nat.mod_eq_of_lt (by omega)] at same
    exact Char.ext (UInt32.toNat_inj.1 same)
  · split
    · exact ⟨_, _, rfl, other _ _ (by omega) (by omega)⟩
    · split
      · exact ⟨_, _, rfl, other _ _ (by omega) (by omega)⟩
      · exact ⟨_, _, rfl, other _ _ (by omega) (by omega)⟩

/-- **Escaping makes no dots.** -/
theorem step_escape {cs : List Char} (down : Step.of cs = .down) :
    Step.of (escape .path cs) = .down := by
  by_contra meaning
  by_cases plain : ∀ c ∈ cs, Part.path.escapes c = false
  · rw [escape_of_plain plain] at meaning
    exact meaning down
  · push Not at plain
    obtain ⟨c, member, escaped⟩ := plain
    obtain ⟨front, back, rfl⟩ := List.append_of_mem member
    obtain ⟨byte, bytes, spelled, dot⟩ := utf8_head c
    have written : escape .path (front ++ c :: back) =
        escape .path front ++ '%' :: Text.upperHexDigit (byte.toNat / 16) ::
          Text.upperHexDigit (byte.toNat % 16) ::
            (bytes.flatMap Text.percentEncoded ++ escape .path back) := by
      rw [escape_append]
      simp [escape, escapeChar, escaped, spelled, Text.percentEncoded]
    have form := mem_dots meaning
    rw [written, List.map_append] at form
    have percent : ((escape .path front).map Char.toLower ++
        ('%' :: Text.upperHexDigit (byte.toNat / 16) :: Text.upperHexDigit (byte.toNat % 16) ::
          (bytes.flatMap Text.percentEncoded ++ escape .path back)).map Char.toLower)[
            (escape .path front).length]? = some '%' := by simp
    have next := dots_percent form percent
    simp only [List.map_cons, List.getElem?_append_right, List.length_map, Nat.le_add_right,
      Nat.add_sub_cancel_left, List.getElem?_cons_succ, List.getElem?_cons_zero,
      Option.some.injEq] at next
    have bound := byte.toNat_lt
    have high : ∀ n ∈ List.range 16, (Text.upperHexDigit n).toLower = '2' → n = 2 := by decide
    have low : ∀ n ∈ List.range 16, (Text.upperHexDigit n).toLower = 'e' → n = 14 := by decide
    have two := high (byte.toNat / 16) (List.mem_range.2 (by omega)) next.1
    have fourteen := low (byte.toNat % 16) (List.mem_range.2 (by omega)) next.2
    have dotted : c = '.' := dot (by omega)
    rw [dotted] at escaped
    exact escaped (by decide)

/-! ## Plain segments -/

/-- A segment that reading leaves as it is. -/
structure Plain (segment : List Char) : Prop where
  inner : ∀ c ∈ segment, isInner c = true
  down : Step.of segment = .down

theorem plain_empty : Plain [] := ⟨fun _ none => (List.not_mem_nil none).elim, rfl⟩

theorem Plain.escaped {segment : List Char} (plain : Plain segment) :
    escape .path segment = segment := by
  refine escape_of_plain fun c member => ?_
  have inner := plain.inner c member
  simp only [isInner, Bool.and_eq_true, Bool.not_eq_true'] at inner
  exact inner.1.1

theorem Plain.free {segment : List Char} (plain : Plain segment) {c : Char} (member : c ∈ segment) :
    c ≠ '/' ∧ c ≠ '\\' := by
  have inner := plain.inner c member
  simp only [isInner, Bool.and_eq_true, bne_iff_ne] at inner
  exact ⟨inner.1.2, inner.2⟩

theorem Plain.unbroken {segment : List Char} (plain : Plain segment) {c : Char}
    (member : c ∈ segment) : isBreak c = false := by
  have inner := plain.inner c member
  simp only [isInner, Part.escapes, Bool.and_eq_true, Bool.not_eq_true', Bool.or_eq_false_iff,
    decide_eq_false_iff_not] at inner
  have printed : ¬c.toNat < 0x20 := inner.1.1.1.1
  by_contra broken
  have among : (c = '\t' ∨ c = '\n') ∨ c = '\r' := by
    simpa only [isBreak, Bool.not_eq_false, Bool.or_eq_true, beq_iff_eq] using broken
  rcases among with (rfl | rfl) | rfl <;> exact printed (by decide)

theorem plain_of_down {text : List Char} (free : ∀ c ∈ text, c ≠ '/' ∧ c ≠ '\\')
    (down : Step.of text = .down) : Plain (escape .path text) :=
  ⟨fun _ => escape_inner free, step_escape down⟩

/-! ## Reading -/

theorem mem_segments {d : Char} {cs part : List Char} (member : part ∈ Text.segments d cs) :
    ∀ c ∈ part, c ∈ cs ∧ c ≠ d := by
  induction cs generalizing part with
  | nil =>
      obtain rfl := List.mem_singleton.1 member
      exact fun c none => (List.not_mem_nil none).elim
  | cons e cs ih =>
      intro c inside
      simp only [Text.segments] at member
      split at member
      · rcases List.mem_cons.1 member with rfl | later
        · exact (List.not_mem_nil inside).elim
        · exact ⟨List.mem_cons_of_mem _ (ih later c inside).1, (ih later c inside).2⟩
      · rename_i other
        split at member
        · obtain rfl := List.mem_singleton.1 member
          obtain rfl := List.mem_singleton.1 inside
          exact ⟨List.mem_cons_self, other⟩
        · rename_i first parts falls
          rw [falls] at ih
          rcases List.mem_cons.1 member with rfl | later
          · rcases List.mem_cons.1 inside with rfl | behind
            · exact ⟨List.mem_cons_self, other⟩
            · obtain ⟨among, apart⟩ := ih List.mem_cons_self c behind
              exact ⟨List.mem_cons_of_mem _ among, apart⟩
          · obtain ⟨among, apart⟩ := ih (List.mem_cons_of_mem _ later) c inside
            exact ⟨List.mem_cons_of_mem _ among, apart⟩

theorem between_free {cs segment : List Char} (member : segment ∈ between .strict cs) :
    ∀ c ∈ segment, c ≠ '/' ∧ c ≠ '\\' := by
  intro c inside
  obtain ⟨among, slash⟩ := mem_segments member c inside
  refine ⟨slash, fun backslash => ?_⟩
  have slashed : c ∈ cs.map fun c => if Manner.strict.isSlash c then '/' else c := by
    split at among
    · rename_i front
      rw [front]
      exact List.mem_cons_of_mem _ among
    · exact among
  obtain ⟨d, -, same⟩ := List.mem_map.1 slashed
  split at same
  · exact slash same.symm
  · rename_i other
    rw [same, backslash] at other
    exact other rfl

theorem between_ne_nil (manner : Manner) (cs : List Char) : between manner cs ≠ [] :=
  Text.segments_ne_nil _ _

theorem shorten_subset (kept : List (List Char)) : shorten kept ⊆ kept := by
  unfold shorten
  split
  · exact List.Subset.refl _
  · split
    · exact List.Subset.refl _
    · exact List.subset_cons_self _ _

/-- Every step keeps the segments plain. -/
theorem follow_plain (course : Course) (kept : ∀ segment ∈ course.kept, Plain segment)
    {segments : List (List Char)} (free : ∀ segment ∈ segments, ∀ c ∈ segment, c ≠ '/' ∧ c ≠ '\\') :
    ∀ segment ∈ (course.follow .strict (segments.map (⟨·, none⟩))).kept, Plain segment := by
  induction segments generalizing course with
  | nil => exact kept
  | cons segment rest ih =>
      have later := fun s member => free s (List.mem_cons_of_mem _ member)
      -- Dots that end a path leave an empty segment behind.
      have stood : ∀ {others : List (List Char)}, others ⊆ course.kept →
          ∀ s ∈ (if (rest.map fun s => Segment.mk s none).isEmpty then [] :: others else others),
            Plain s := by
        intro others fewer s member
        split at member
        · rcases List.mem_cons.1 member with rfl | among
          · exact plain_empty
          · exact kept s (fewer among)
        · exact kept s (fewer member)
      simp only [List.map_cons, Course.follow]
      split
      · exact ih _ (stood (shorten_subset _)) later
      · exact ih _ (stood (List.Subset.refl _)) later
      · rename_i down
        refine ih _ (fun s member => ?_) later
        rcases List.mem_cons.1 member with rfl | among
        · exact plain_of_down (free segment List.mem_cons_self) down
        · exact kept s among

theorem follow_ne_nil (course : Course) {segments : List (List Char)} (some_ : segments ≠ []) :
    (course.follow .strict (segments.map (⟨·, none⟩))).kept ≠ [] := by
  induction segments generalizing course with
  | nil => exact absurd rfl some_
  | cons segment rest ih =>
      cases rest with
      | nil =>
          simp only [List.map_cons, List.map_nil, Course.follow]
          split <;> exact List.cons_ne_nil _ _
      | cons next rest =>
          rw [List.map_cons, Course.follow]
          split <;> exact ih _ (List.cons_ne_nil _ _)

structure PlainPath (path : List String) : Prop where
  some_ : path ≠ []
  plain : ∀ segment ∈ path, Plain segment.toList

/-- **Reading leaves plain segments.** -/
theorem readPath_plain (cs : List Char) : PlainPath (readPath .strict cs) where
  some_ := by
    have kept := follow_ne_nil {} (between_ne_nil .strict cs)
    simpa [readPath, Course.path] using kept
  plain := by
    intro segment member
    obtain ⟨text, among, rfl⟩ := List.mem_map.1 member
    rw [String.toList_ofList]
    have kept := follow_plain {} (fun _ none => (List.not_mem_nil none).elim)
      fun segment (inside : segment ∈ between .strict cs) => between_free inside
    exact kept text (List.mem_reverse.1 among)

/-! ## Reading again -/

theorem toList_pathText (path : List String) :
    (pathText path).toList = (path.map fun segment => '/' :: segment.toList).flatten := by
  induction path with
  | nil => rfl
  | cons segment rest ih =>
      have text : pathText (segment :: rest) = "/" ++ segment ++ pathText rest := by
        simp [pathText, String.join_cons]
      rw [text, String.toList_append, String.toList_append, ih]
      rfl

theorem mem_pathText {path : List String} {c : Char}
    (member : c ∈ (pathText path).toList) : c = '/' ∨ ∃ segment ∈ path, c ∈ segment.toList := by
  rw [toList_pathText] at member
  obtain ⟨part, among, inside⟩ := List.mem_flatten.1 member
  obtain ⟨segment, here, rfl⟩ := List.mem_map.1 among
  rcases List.mem_cons.1 inside with slash | within
  · exact .inl slash
  · exact .inr ⟨segment, here, within⟩

theorem PlainPath.text {path : List String} (plain : PlainPath path) :
    (pathText path).toList = '/' :: ['/'].intercalate (path.map String.toList) := by
  rw [toList_pathText]
  obtain ⟨segment, rest, rfl⟩ := List.exists_cons_of_ne_nil plain.some_
  clear plain
  induction rest generalizing segment with
  | nil => simp
  | cons next rest ih =>
      rw [List.map_cons, List.flatten_cons, ih next]
      simp [List.intercalate]

theorem PlainPath.undivided {path : List String} (plain : PlainPath path) :
    Text.segments '/' (['/'].intercalate (path.map String.toList)) = path.map String.toList := by
  rw [Text.segments_eq_splitOn]
  refine List.splitOn_intercalate '/' (fun segment member slash => ?_) (by simp [plain.some_])
  obtain ⟨text, among, rfl⟩ := List.mem_map.1 member
  exact ((plain.plain text among).free slash).1 rfl

/-- The texts of two plain paths are the same only if the paths are. -/
theorem PlainPath.text_injective {path other : List String} (plain : PlainPath path)
    (plain' : PlainPath other) (same : pathText path = pathText other) : path = other := by
  have texts := congrArg String.toList same
  rw [plain.text, plain'.text, List.cons.injEq] at texts
  have parts := congrArg (Text.segments '/') texts.2
  rw [plain.undivided, plain'.undivided] at parts
  exact List.map_injective_iff.2 (fun _ _ => String.toList_inj.1) parts

theorem PlainPath.between {path : List String} (plain : PlainPath path) :
    Url.between .strict (pathText path).toList = path.map String.toList := by
  have unslashed : (pathText path).toList.map (fun c => if Manner.strict.isSlash c then '/' else c) =
      (pathText path).toList := by
    refine (List.map_congr_left fun c member => ?_).trans (List.map_id' _)
    rcases mem_pathText member with rfl | ⟨segment, among, inside⟩
    · rfl
    · obtain ⟨slash, backslash⟩ := (plain.plain segment among).free inside
      simp [Manner.isSlash, slash, backslash]
  rw [Url.between, unslashed, plain.text]
  exact plain.undivided

theorem PlainPath.withoutBreaks {path : List String} (plain : PlainPath path) :
    Url.withoutBreaks (pathText path).toList = (pathText path).toList := by
  refine List.filter_eq_self.2 fun c member => ?_
  rcases mem_pathText member with rfl | ⟨segment, among, inside⟩
  · rfl
  · simp [(plain.plain segment among).unbroken inside]

/-- Segments that are plain are followed as they stand. -/
theorem follow_path (course : Course) {path : List String}
    (plain : ∀ segment ∈ path, Plain segment.toList) :
    (course.follow .strict ((path.map String.toList).map (⟨·, none⟩))).path =
      course.path ++ path.map String.toList := by
  refine follow_of_plain course fun segment member => ?_
  obtain ⟨text, among, rfl⟩ := List.mem_map.1 member
  exact ⟨(plain text among).down, (plain text among).escaped⟩

/-- **The text of a path is read as that path.** -/
theorem pathOf_text {path : List String} (plain : PlainPath path) :
    pathOf .strict (withoutBreaks (pathText path).toList) = path := by
  show readPath .strict (withoutBreaks (pathText path).toList) = path
  rw [plain.withoutBreaks, readPath, plain.between, follow_path {} plain.plain]
  simp [Course.path]

/-! ## Going on from a path -/

/-- `reference` is written as the segments `below`, and can be taken for nothing but a path below
another: no slash begins it, and no scheme. -/
structure Below (below : List String) (reference : String) : Prop where
  plain : PlainPath below
  text : "/" ++ reference = pathText below
  open_ : below.head? ≠ some ""
  colon : ':' ∉ reference.toList

namespace Below

variable {below : List String} {reference : String}

theorem toList_pathText (is : Below below reference) :
    (pathText below).toList = '/' :: reference.toList := by
  rw [← is.text, String.toList_append]
  rfl

theorem inner (is : Below below reference) {c : Char} (member : c ∈ reference.toList) :
    c = '/' ∨ ∃ segment ∈ below, c ∈ segment.toList :=
  mem_pathText (is.toList_pathText ▸ List.mem_cons_of_mem _ member)

/-- A character of a path below another, unless it is a slash, is none that a path escapes. -/
theorem kept (is : Below below reference) {c : Char} (member : c ∈ reference.toList) :
    c = '/' ∨ Part.path.escapes c = false := by
  refine (is.inner member).imp_right fun ⟨segment, among, inside⟩ => ?_
  have inner := (is.plain.plain segment among).inner c inside
  simp only [isInner, Bool.and_eq_true, Bool.not_eq_true'] at inner
  exact inner.1.1

theorem unequal (is : Below below reference) {d : Char} (escaped : Part.path.escapes d = true)
    (slash : d ≠ '/') : d ∉ reference.toList := by
  intro member
  rcases is.kept member with same | kept
  · exact slash same
  · cases escaped.symm.trans kept

/-- No control and no space is dropped from it. -/
theorem clean (is : Below below reference) :
    withoutBreaks (Url.trimmed reference.toList) = reference.toList := by
  have edge : ∀ c ∈ reference.toList, decide (c.toNat ≤ 0x20) = false := by
    intro c member
    rcases is.kept member with rfl | kept
    · rfl
    · refine decide_eq_false fun low => ?_
      simp only [Part.escapes, Bool.or_eq_false_iff, decide_eq_false_iff_not] at kept
      have exact_ : c.toNat = 0x20 := by omega
      have space : c = ' ' := Char.ext (UInt32.toNat_inj.1 exact_)
      rw [space] at kept
      exact absurd kept.2 (by decide)
  have whole : Url.trimmed reference.toList = reference.toList := by
    have stays {cs : List Char} (all : ∀ c ∈ cs, decide (c.toNat ≤ 0x20) = false) :
        cs.dropWhile (fun c => decide (c.toNat ≤ 0x20)) = cs := by
      cases cs with
      | nil => rfl
      | cons c cs => rw [List.dropWhile_cons_of_neg (by simp [all c])]
    simp only [Url.trimmed]
    rw [stays edge, stays fun c member => edge c (List.mem_reverse.1 member), List.reverse_reverse]
  rw [whole]
  refine List.filter_eq_self.2 fun c member => ?_
  have low := edge c member
  by_contra broken
  have among : (c = '\t' ∨ c = '\n') ∨ c = '\r' := by
    simpa only [isBreak, Bool.not_eq_true, Bool.not_eq_false', Bool.or_eq_true, beq_iff_eq] using broken
  rcases among with (rfl | rfl) | rfl <;> cases low

/-- It is all path. -/
theorem readTail (is : Below below reference) (manner : Manner) :
    Url.readTail manner reference.toList = ⟨reference.toList, none, none⟩ := by
  have hash : Text.cutFirst '#' reference.toList = none :=
    Text.cutFirst_eq_none.2 (is.unequal (by decide) (by decide))
  have mark : Text.cutFirst '?' reference.toList = none :=
    Text.cutFirst_eq_none.2 (is.unequal (by decide) (by decide))
  simp [Url.readTail, hash, mark]

theorem relative (is : Below below reference) : scheme? reference.toList = none := by
  unfold scheme?
  split
  · rename_i rest _ after
    have colon : ':' ∈ reference.toList.dropWhile isSchemeChar := by simp [after]
    exact absurd ((List.dropWhile_sublist _).subset colon) is.colon
  · rfl

/-- It begins with a character that is no slash. -/
theorem begins (is : Below below reference) :
    ∃ first rest, reference.toList = first :: rest ∧ Manner.strict.isSlash first = false := by
  obtain ⟨segment, others, rfl⟩ := List.exists_cons_of_ne_nil is.plain.some_
  have text := is.toList_pathText
  rw [Url.toList_pathText, List.map_cons, List.flatten_cons, List.cons_append, List.cons.injEq] at text
  cases letters : segment.toList with
  | nil =>
      refine absurd ?_ is.open_
      rw [List.head?_cons, String.toList_eq_nil_iff.1 letters]
  | cons first rest =>
      obtain ⟨slash, backslash⟩ := (is.plain.plain segment List.mem_cons_self).free
        (letters ▸ List.mem_cons_self : first ∈ segment.toList)
      refine ⟨first, rest ++ (others.map fun s => '/' :: s.toList).flatten, ?_, ?_⟩
      · rw [← text.2, letters]
        rfl
      · simp [Manner.isSlash, slash, backslash]

/-- Its segments are the ones between its slashes. -/
theorem between (is : Below below reference) :
    Url.between .strict reference.toList = below.map String.toList := by
  have whole := is.plain.between
  rw [is.toList_pathText] at whole
  obtain ⟨first, rest, letters, slash⟩ := is.begins
  rw [letters] at whole ⊢
  have other : first ≠ '/' := fun same => by
    rw [same] at slash
    cases slash
  simpa [Url.between, slash, other] using whole

end Below

/-- **Going on from a path leaves all of it but its last segment.** -/
theorem goOn_below {below : List String} {reference : String} (is : Below below reference)
    (authority : Authority) (path : List String) :
    (Location.hosted authority path).goOn .strict reference.toList =
      .hosted authority (path.dropLast ++ below) := by
  obtain ⟨first, rest, letters, slash⟩ := is.begins
  have out : setOut .strict path reference.toList =
      { kept := (path.dropLast.map String.toList).reverse } := by
    simp [setOut, letters, slash, List.map_dropLast]
  have along : ((setOut .strict path reference.toList).follow .strict
      ((Url.between .strict reference.toList).map (⟨·, none⟩))).path =
        (path.dropLast ++ below).map String.toList := by
    rw [is.between, follow_path _ is.plain.plain, out]
    simp [Course.path]
  have strict : ¬Manner.strict = .file := by decide
  rw [Location.goOn, if_neg strict, along]
  simp

end Tether.Url
