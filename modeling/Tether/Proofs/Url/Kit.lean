/-
# Tether.Proofs.Url.Kit -- the calls that run keep the laws

A URL of a strict scheme that was read is settled: it has a host, its path is plain, and no port is
written that its scheme implies.  Every call leaves a web URL settled, since what it puts into one was
read in the same way; and on settled URLs the calls do what the laws say.

* `Settled`, `settled_of_read` -- the form of a URL of a strict scheme that was read.
* `settled_of_join` -- whatever is joined to a settled URL.
* `settled_of_arises` -- every web URL that the calls yield is settled.
* `kit_lawful` -- `Url.kit` is lawful.
-/
import Tether.Proofs.Url.Laws

set_option autoImplicit false

namespace Tether.Url

/-! ## What was read -/

/-- A port that was read is not the one that the scheme implies. -/
theorem readPort_unimplied {scheme : String} {digits : List Char} {port : UInt16}
    (read : readPort scheme digits = .ok (some port)) : impliedPort? scheme ≠ some port := by
  unfold readPort at read
  split at read
  · cases read
  · split at read
    · split at read
      · cases read
      · split at read
        · cases read
        · cases read
          assumption
    · cases read

/-- A host of a strict scheme that was read is not empty. -/
theorem readHost_strict {cs : List Char} {host : Host} (read : readHost .strict cs = .ok host) :
    host ≠ .domain "" := by
  unfold readHost at read
  split at read
  · unfold readBracketed at read
    split at read
    · cases read
      exact nofun
    · cases read
  · rw [if_neg nofun] at read
    unfold readDomain at read
    split at read
    · cases read
    · cases read
    · rename_i name some_ _
      split at read
      · split at read
        · cases read
          exact nofun
        · cases read
      · cases read
        intro empty
        exact some_ (String.ofList_eq_empty_iff.1 (Host.domain.inj empty))

theorem readAuthority_parts {scheme : String} {cs rest left : List Char} {authority : Authority}
    (read : readAuthority scheme .strict cs rest = .ok (authority, left)) :
    (∃ name, readHost .strict name = .ok authority.host) ∧
      ∃ digits, readPort scheme digits = .ok authority.port := by
  simp only [readAuthority, bind, Except.bind, pure, Except.pure, throw, throwThe,
    MonadExceptOf.throw] at read
  repeat' split at read
  all_goals cases read
  all_goals exact ⟨⟨_, by assumption⟩, _, by assumption⟩

/-- A URL of a strict scheme in the form in which reading leaves it. -/
structure Settled (url : Url) (authority : Authority) (path : List String) : Prop where
  location : url.location = .hosted authority path
  host : authority.host ≠ .domain ""
  plain : PlainPath path
  unimplied : ∀ port, authority.port = some port → impliedPort? url.scheme ≠ some port

theorem readHosted_settled {scheme : String} {cs : List Char} {url : Url}
    (read : readHosted scheme .strict cs = .ok url) :
    ∃ authority path, url.Settled authority path := by
  unfold readHosted at read
  cases place : readAuthority scheme .strict (cs.takeWhile (!Manner.strict.endsAuthority ·))
      (cs.dropWhile (!Manner.strict.endsAuthority ·)) with
  | error fault =>
      rw [place] at read
      cases read
  | ok parts =>
      obtain ⟨authority, rest⟩ := parts
      rw [place] at read
      cases read
      obtain ⟨⟨name, host⟩, digits, port⟩ := readAuthority_parts place
      exact ⟨authority, _, rfl, readHost_strict host, readPath_plain _,
        fun _ given => readPort_unimplied (given ▸ port)⟩

theorem readHosted_scheme {scheme : String} {manner : Manner} {cs : List Char} {url : Url}
    (read : readHosted scheme manner cs = .ok url) : url.scheme = scheme := by
  simp only [readHosted, bind, Except.bind, pure, Except.pure] at read
  split at read
  · cases read
  · cases read
    rfl

theorem readFile_scheme {cs : List Char} {url : Url} (read : readFile cs = .ok url) :
    url.scheme = "file" := by
  simp only [readFile, bind, Except.bind, pure, Except.pure] at read
  split at read
  · cases read
  · cases read
    rfl

/-- **A URL of a strict scheme that was read is settled.** -/
theorem settled_of_read {text : String} {url : Url} (read : Url.read text = .ok url)
    (strict : Manner.of url.scheme = .strict) : ∃ authority path, url.Settled authority path := by
  simp only [Url.read] at read
  split at read
  · cases read
  · rename_i scheme rest _
    split at read
    · exact readHosted_settled read
    · rw [readFile_scheme read] at strict
      cases strict
    · rename_i plain
      have other : url.scheme = scheme := by
        split at read
        · exact readHosted_scheme read
        · cases read
          rfl
      rw [other, plain] at strict
      cases strict

/-! ## What was joined -/

section Join

variable {base url : Url} {authority : Authority} {path : List String}

/-- Going on from a plain path leads to a plain path. -/
theorem goOn_plain (plain : PlainPath path) (cs : List Char) :
    ∃ next, PlainPath next ∧
      (Location.hosted authority path).goOn .strict cs = .hosted authority next := by
  have kept : ∀ segment ∈ (setOut .strict path cs).kept, Plain segment := by
    intro segment member
    have among : segment ∈ (path.map String.toList).reverse := by
      simp only [setOut] at member
      split at member
      · exact (List.not_mem_nil member).elim
      · exact List.mem_of_mem_tail member
    obtain ⟨text, here, rfl⟩ := List.mem_map.1 (List.mem_reverse.1 among)
    exact plain.plain text here
  have strict : ¬Manner.strict = .file := by decide
  refine ⟨_, ⟨?_, ?_⟩, by rw [Location.goOn, if_neg strict]⟩
  · have some_ := follow_ne_nil (setOut .strict path cs) (between_ne_nil .strict cs)
    simpa [Course.path] using some_
  · intro segment member
    obtain ⟨text, among, rfl⟩ := List.mem_map.1 member
    rw [String.toList_ofList]
    have all := follow_plain (setOut .strict path cs) kept
      fun segment (inside : segment ∈ between .strict cs) => between_free inside
    exact all text (List.mem_reverse.1 among)

theorem settled_of_resolve (settled : base.Settled authority path)
    (strict : Manner.of base.scheme = .strict) {cs : List Char}
    (resolves : resolve base cs = .ok url) : ∃ authority path, url.Settled authority path := by
  unfold resolve at resolves
  simp only [strict] at resolves
  split at resolves
  · rw [readBeside, strict] at resolves
    exact readHosted_settled resolves
  · split at resolves
    · cases resolves
      exact ⟨authority, path, settled.location, settled.host, settled.plain, settled.unimplied⟩
    · cases resolves
      obtain ⟨next, plain, goes⟩ := @goOn_plain authority _ settled.plain
        (readTail .strict cs).front
      exact ⟨authority, next, by rw [settled.location, goes], settled.host, plain,
        settled.unimplied⟩

/-- **Whatever strict URL is joined to a settled one is settled.** -/
theorem settled_of_join (settled : base.Settled authority path)
    (strict : Manner.of base.scheme = .strict) {reference : String}
    (joins : join base reference = .ok url) (strict' : Manner.of url.scheme = .strict) :
    ∃ authority path, url.Settled authority path := by
  unfold join at joins
  simp only at joins
  split at joins
  · split at joins
    · cases joins
    · exact settled_of_resolve settled strict joins
  · split at joins
    · exact settled_of_resolve settled strict joins
    · exact settled_of_read joins strict'

end Join

/-! ## What arises -/

theorem settled_of_setScheme {url next : Url} {authority : Authority} {path : List String}
    (settled : url.Settled authority path) {scheme : String}
    (sets : setScheme? url scheme = some next) : ∃ authority, next.Settled authority path := by
  obtain ⟨name, -, sets⟩ := Option.bind_eq_some_iff.1 sets
  simp only [withScheme?, settled.location] at sets
  split at sets
  · cases sets
  · split at sets
    · cases sets
    · cases sets
      refine ⟨_, rfl, settled.host, settled.plain, fun port given implied => ?_⟩
      have kept := (Option.filter_eq_some_iff.1 given).2
      simp only [bne_iff_ne, ne_eq] at kept
      exact kept implied

/-- **Every web URL that the calls yield is settled.** -/
theorem settled_of_arises {url : Url} (arises : kit.Arises url) :
    url.scheme ∈ webSchemes ∧ ∃ authority path, url.Settled authority path := by
  induction arises with
  | parse parsed web => exact ⟨web, settled_of_read parsed (strict_of_web web)⟩
  | dropQuery _ ih | dropFragment _ ih =>
      obtain ⟨web, authority, path, settled⟩ := ih
      exact ⟨web, authority, path, settled.location, settled.host, settled.plain, settled.unimplied⟩
  | setPath text _ ih =>
      obtain ⟨web, authority, path, settled⟩ := ih
      refine ⟨web, authority, readPath .strict (withoutBreaks text.toList), ?_, settled.host,
        readPath_plain _, settled.unimplied⟩
      simp only [kit, setPath, settled.location, strict_of_web web]
      rfl
  | join _ joins web ih =>
      obtain ⟨web', authority, path, settled⟩ := ih
      exact ⟨web, settled_of_join settled (strict_of_web web') joins (strict_of_web web)⟩
  | setScheme _ sets web ih =>
      obtain ⟨-, authority, path, settled⟩ := ih
      obtain ⟨authority', settled'⟩ := settled_of_setScheme settled sets
      exact ⟨web, authority', path, settled'⟩

/-! ## The laws -/

section Laws

variable {url : Url} {authority : Authority} {path : List String}

theorem Settled.parts (settled : url.Settled authority path) :
    url.parts =
      { scheme := url.scheme, username := authority.username, password := authority.password?,
        host := some authority.host, port := authority.port, path := pathText path,
        query := url.query, fragment := url.fragment } := by
  simp [Url.parts, Url.path, authority?, settled.location, Authority.host?, settled.host]

theorem password?_injective {authority other : Authority}
    (same : authority.password? = other.password?) : authority.password = other.password := by
  unfold Authority.password? at same
  split at same
  · split at same
    · simp [*]
    · cases same
  · split at same
    · cases same
    · exact Option.some.inj same

/-- A settled URL is nothing but its parts. -/
theorem Settled.eq_of_parts {other : Url} {authority' : Authority} {path' : List String}
    (settled : url.Settled authority path) (settled' : other.Settled authority' path')
    (same : url.parts = other.parts) : url = other := by
  rw [settled.parts, settled'.parts, Parts.mk.injEq] at same
  obtain ⟨scheme, username, password, host, port, text, query, fragment⟩ := same
  have secret := password?_injective password
  have authorities : authority = authority' := by
    cases authority
    cases authority'
    simp_all
  have paths := settled.plain.text_injective settled'.plain text
  have locations : url.location = other.location := by
    rw [settled.location, settled'.location, authorities, paths]
  cases url
  cases other
  simp_all

theorem join_below (settled : url.Settled authority path) (web : url.scheme ∈ webSchemes)
    {below : List String} {reference : String} (is : Below below reference) :
    join url reference =
      .ok { url with
            location := .hosted authority (path.dropLast ++ below)
            query := none
            fragment := none } := by
  have strict := strict_of_web web
  obtain ⟨first, rest, letters, slash⟩ := is.begins
  have joins := @join_path url reference (by simp [isBare, settled.location])
    (by rw [is.clean, is.relative]) first rest (by rw [is.clean, is.readTail, letters])
    (by rw [strict, slash])
  rw [joins, ← letters, strict, settled.location, goOn_below is]

theorem setScheme_web (settled : url.Settled authority path) (web : url.scheme ∈ webSchemes)
    {scheme : String} (web' : scheme ∈ webSchemes) :
    setScheme? url scheme =
      some { url with
             scheme
             location := .hosted { authority with
               port := authority.port.filter fun port => impliedPort? scheme != some port } path } := by
  have special : isSpecial scheme = isSpecial url.scheme := by
    rw [isSpecial, isSpecial, strict_of_web web, strict_of_web web']
  have host : authority.host?.isNone = false := by simp [Authority.host?, settled.host]
  have named : schemeOf? scheme = some scheme ∧ scheme ≠ "file" := by
    simp only [webSchemes, List.mem_cons, List.not_mem_nil, or_false] at web'
    rcases web' with rfl | rfl | rfl | rfl <;> decide
  simp [setScheme?, named, withScheme?, special, settled.location, host]

/-- **The calls that run are lawful.** -/
theorem kit_lawful : kit.Lawful where
  hosted := by
    intro url arises
    obtain ⟨-, authority, path, settled⟩ := settled_of_arises arises
    constructor
    · simp [kit, isBare, settled.location]
    · simp [kit, settled.parts]
  path := by
    intro url arises
    obtain ⟨-, authority, path, settled⟩ := settled_of_arises arises
    exact ⟨path, settled.plain, by simp [kit, settled.parts]⟩
  port := by
    intro url port arises given
    obtain ⟨-, authority, path, settled⟩ := settled_of_arises arises
    exact settled.unimplied port (by simpa [kit, settled.parts] using given)
  ext := by
    intro url other arises arises' same
    obtain ⟨-, authority, path, settled⟩ := settled_of_arises arises
    obtain ⟨-, authority', path', settled'⟩ := settled_of_arises arises'
    exact settled.eq_of_parts settled' same
  dropQuery := fun _ => rfl
  dropFragment := fun _ => rfl
  setPath := by
    intro url next arises plain
    obtain ⟨web, authority, path, settled⟩ := settled_of_arises arises
    have set : url.setPath (pathText next) = { url with location := .hosted authority next } := by
      simp only [setPath, settled.location, strict_of_web web, pathOf_text plain]
    simp [kit, set, Url.parts, Url.path, authority?, settled.location]
  join_fails := by
    intro url below reference fault arises fails
    obtain ⟨web, authority, path, settled⟩ := settled_of_arises arises
    right
    intro is
    cases (join_below settled web is).symm.trans fails
  join := by
    intro url next front below last reference arises plain text is joins
    obtain ⟨web, authority, path, settled⟩ := settled_of_arises arises
    have same : path = front ++ [last] :=
      settled.plain.text_injective plain (by simpa [kit, settled.parts] using text)
    obtain rfl := Except.ok.inj ((join_below settled web is).symm.trans joins)
    simp [kit, Url.parts, Url.path, authority?, settled.location, same]
  setScheme_fails := by
    intro url scheme arises fails web
    obtain ⟨web', authority, path, settled⟩ := settled_of_arises arises
    cases (setScheme_web settled web' web).symm.trans fails
  setScheme := by
    intro url next scheme arises web sets
    obtain ⟨web', authority, path, settled⟩ := settled_of_arises arises
    obtain rfl := Option.some.inj ((setScheme_web settled web' web).symm.trans sets)
    simp [kit, Url.parts, Url.path, authority?, settled.location, Authority.host?,
      Authority.password?]

end Laws

end Tether.Url
