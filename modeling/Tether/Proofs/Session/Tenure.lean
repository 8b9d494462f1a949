/-
# Tether.Proofs.Session.Tenure -- one transport at a time

A transport serves from the moment it is opened until it is given up, when its sink is
detached and it is reset.  The session itself remembers two transports at most; here all
that were ever opened are looked at, in the sequence of everything the session asked for.

A beat does one of three things to the transports (`Upshot.passage`): it leaves them as
they are, it gives up the one in use, or it opens one while none is in use.  So whenever
one is opened all the earlier ones have been given up (`Opened`), and one at most
is live.

The flavour is chosen when credentials are taken up, which may be long before the transport
is opened, so what it depends on is looked for there (`chosen`).

* `one_live_transport` -- tenures do not overlap, and none begins twice.
-/
import Mathlib.Data.List.Basic
import Tether.Proofs.Session.Incidents
import Tether.Proofs.Session.Stale

set_option autoImplicit false

namespace Tether.Session

def asked (past : List Beat) : List Effect := past.flatMap Beat.effects

/-- The transport was opened, and its sink is not detached. -/
def Live (effects : List Effect) (number : Nat) : Prop :=
  (∃ kind, .open ⟨number, kind⟩ ∈ effects) ∧ .retire number ∉ effects

/-- How it stands when `link` is opened after `first` and before `rest`: all earlier transports
were given up, this one was not, and it is opened at no other time. -/
structure Opened (first : List Effect) (link : Link) (rest : List Effect) : Prop where
  alone : ∀ earlier, .open earlier ∈ first → .retire earlier.number ∈ first
  fresh : .retire link.number ∉ first
  once : ∀ other, .open other ∈ first ++ rest → other.number ≠ link.number

theorem asked_concat (past : List Beat) (beat : Beat) :
    asked (past ++ [beat]) = asked past ++ beat.effects := by
  simp [asked]

/-- If a single effect is marked, the effects around it are not. -/
theorem marks_lone {first rest : List Effect} {effect only : Effect} (bold : marked effect = true)
    (lone : marks (first ++ effect :: rest) = [only]) :
    marks first = [] ∧ effect = only ∧ marks rest = [] := by
  have parts : marks first ++ effect :: marks rest = [only] := by
    rw [← lone, marks_append, marks, marks, marks, List.filter_cons_of_pos bold]
  cases shape : marks first with
  | nil =>
      rw [shape] at parts
      obtain ⟨same, clear⟩ := List.cons.inj parts
      exact ⟨rfl, same, clear⟩
  | cons head tail => simp [shape] at parts

theorem mem_retirement {links : List Link} {number : Nat} :
    .retire number ∈ retirement links ↔ ∃ link ∈ links, link.number = number := by
  simp [retirement]

theorem open_notMem_retirement {links : List Link} {link : Link} :
    .open link ∉ retirement links := by
  simp [retirement]

/-! ## What a beat does to the transports -/

/-- How the transports stand after a beat, and what was done to them in it. -/
inductive Passage (v w : Footing) (given : List Effect) : Prop
  | kept (active : w.active = v.active) (count : w.nextLink = v.nextLink)
      (opened : ∀ link, .open link ∉ given) (retired : ∀ number, .retire number ∉ given)
  | dropped (unused : w.active = none) (count : w.nextLink = v.nextLink)
      (opened : ∀ link, .open link ∉ given)
      (retired : ∀ link, v.active = some link → .retire link.number ∈ given)
  | opened (kind : TransportKind) (unused : v.active = none)
      (active : w.active = some ⟨v.nextLink, kind⟩) (count : w.nextLink = v.nextLink + 1)
      (alone : given = [.open ⟨v.nextLink, kind⟩])

theorem links_of_active {v : Footing} {link : Link} (used : v.active = some link) :
    link ∈ v.links := by
  simp [Footing.links, used]

theorem ousted_of_active {v : Footing} {link : Link} (used : v.active = some link) :
    link ∈ v.ousted := by
  simp [Footing.ousted, used]

/-- Giving up transports, the one in use among them, whatever else is asked for besides. -/
theorem Passage.of_retirement {v w : Footing} {links : List Link} {rest : List Effect}
    (all : ∀ {link}, v.active = some link → link ∈ links) (unused : w.active = none)
    (count : w.nextLink = v.nextLink) (opened : ∀ link, .open link ∉ rest) :
    Passage v w (retirement links ++ rest) := by
  refine .dropped unused count ?_ ?_
  · intro link member
    rcases List.mem_append.1 member with given | later
    · exact open_notMem_retirement given
    · exact opened link later
  · intro link used
    exact List.mem_append_left _ (mem_retirement.2 ⟨link, all used, rfl⟩)

theorem Anew.passage {setup : Setup} {forced : Bool} {v w : Footing} {given : List Effect}
    (anew : Anew setup forced v w given) : Passage v w given := by
  cases anew with
  | now unused gone => exact .opened _ unused rfl rfl rfl
  | later => exact .of_retirement links_of_active rfl rfl (by simp)

theorem Upshot.passage {setup : Setup} {v w : Footing} {incident : Option Incident}
    {given : List Effect} (upshot : Upshot setup v incident w given) : Passage v w given := by
  cases upshot with
  | still | greet | idle | welcome | heard | request =>
      exact .kept rfl rfl (by simp) (by simp)
  | setBack | reconnect => exact .of_retirement ousted_of_active rfl rfl (by simp)
  | beaten =>
      refine .of_retirement ousted_of_active rfl rfl fun link member => ?_
      rcases List.mem_append.1 member with given | given
      · exact open_notMem_retirement given
      · simp [surrender] at given
  | breach | giveUp => exact .of_retirement links_of_active rfl rfl (by simp [surrender])
  | refresh | close =>
      rw [← List.append_nil (retirement _)]
      exact .of_retirement links_of_active rfl rfl nofun
  | start anew => exact anew.passage
  | credentials _ anew => exact anew.passage
  | reuse _ _ _ anew => exact anew.passage
  | settled _ _ unused => exact .opened _ unused rfl rfl rfl

/-! ## All transports that were ever opened -/

/-- The transports that were ever opened, against the one in use. -/
structure Tenures (effects : List Effect) (active : Option Link) (count : Nat) : Prop where
  known : ∀ link, .open link ∈ effects → link.number < count
  serving : ∀ link, active = some link → .open link ∈ effects
  ended : ∀ link, .open link ∈ effects → active = some link ∨ .retire link.number ∈ effects
  orderly : ∀ first link rest, effects = first ++ .open link :: rest → Opened first link rest

section Tenures

variable {effects more : List Effect} {active : Option Link} {count : Nat}

/-- An opening stands as it did when more is asked for, but no such transport is opened. -/
theorem Opened.append {first rest : List Effect} {link : Link} (opened : Opened first link rest)
    (others : ∀ other, .open other ∈ more → other.number ≠ link.number) :
    Opened first link (rest ++ more) := by
  refine { opened with once := fun other member => ?_ }
  rw [← List.append_assoc] at member
  rcases List.mem_append.1 member with old | new
  · exact opened.once other old
  · exact others other new

/-- Nothing is opened: the transport in use stays, or is given up. -/
theorem Tenures.without (tenures : Tenures effects active count)
    (opened : ∀ link, .open link ∉ more) {later : Option Link}
    (serving : later = active ∨
      later = none ∧ ∀ link, active = some link → .retire link.number ∈ more) :
    Tenures (effects ++ more) later count := by
  have old : ∀ {link : Link}, .open link ∈ effects ++ more → .open link ∈ effects := by
    intro link member
    exact (List.mem_append.1 member).resolve_right (opened link)
  refine ⟨fun link member => tenures.known link (old member), ?_, ?_, ?_⟩
  · rintro link rfl
    rcases serving with same | ⟨none, -⟩
    · exact List.mem_append_left _ (tenures.serving link same.symm)
    · cases none
  · intro link member
    rcases tenures.ended link (old member) with used | gone
    · rcases serving with rfl | ⟨-, retired⟩
      · exact .inl used
      · exact .inr (List.mem_append_right _ (retired link used))
    · exact .inr (List.mem_append_left _ gone)
  · intro first link rest split
    rcases split_append split with ⟨middle, -, new⟩ | ⟨middle, before, rfl⟩
    · exact absurd (new ▸ List.mem_append_right _ (List.mem_cons_self ..)) (opened link)
    · exact (tenures.orderly _ _ _ before).append fun other member => absurd member (opened other)

/-- A transport is opened while none is in use. -/
theorem Tenures.with (tenures : Tenures effects none count) {kind : TransportKind}
    (alone : marks more = [.open ⟨count, kind⟩])
    (unknown : ∀ number, .retire number ∈ effects → number < count) :
    Tenures (effects ++ more) (some ⟨count, kind⟩) (count + 1) := by
  have new : ∀ {link : Link}, .open link ∈ more → link = ⟨count, kind⟩ := by
    intro link member
    have marked := (mem_marks rfl).2 member
    rw [alone, List.mem_singleton] at marked
    exact Effect.open.inj marked
  have here : .open ⟨count, kind⟩ ∈ more := by
    rw [← mem_marks rfl, alone]
    exact List.mem_singleton_self _
  refine ⟨?_, ?_, ?_, ?_⟩
  · intro link member
    rcases List.mem_append.1 member with old | added
    · exact Nat.lt_succ_of_lt (tenures.known link old)
    · rw [new added]
      exact Nat.lt_succ_self count
  · rintro link used
    cases used
    exact List.mem_append_right _ here
  · intro link member
    rcases List.mem_append.1 member with old | added
    · refine .inr (List.mem_append_left _ ((tenures.ended link old).resolve_left nofun))
    · exact .inl (congrArg some (new added).symm)
  · intro first link rest split
    rcases split_append split with ⟨middle, rfl, added⟩ | ⟨middle, before, rfl⟩
    · -- The new opening is the only mark, so the effects around it neither open nor retire.
      obtain ⟨bare, same, clear⟩ := marks_lone rfl (added ▸ alone)
      have same : link = ⟨count, kind⟩ := Effect.open.inj same
      have unopened : ∀ other, .open other ∉ middle ∧ .open other ∉ rest := by
        intro other
        constructor
        · rw [← mem_marks rfl, bare]
          exact List.not_mem_nil
        · rw [← mem_marks rfl, clear]
          exact List.not_mem_nil
      refine ⟨?_, ?_, ?_⟩
      · intro earlier member
        have old := (List.mem_append.1 member).resolve_right (unopened earlier).1
        exact List.mem_append_left _ ((tenures.ended earlier old).resolve_left nofun)
      · intro member
        rcases List.mem_append.1 member with old | inside
        · rw [same] at old
          exact Nat.lt_irrefl _ (unknown _ old)
        · rw [← mem_marks rfl, bare] at inside
          exact List.not_mem_nil inside
      · intro other member equal
        have old : .open other ∈ effects := by
          rcases List.mem_append.1 member with before | after
          · exact (List.mem_append.1 before).resolve_right (unopened other).1
          · exact absurd after (unopened other).2
        rw [same] at equal
        exact Nat.ne_of_lt (tenures.known other old) equal
    · refine (tenures.orderly _ _ _ before).append fun other member equal => ?_
      have old : .open link ∈ effects := by
        rw [before]
        exact List.mem_append_right _ (List.mem_cons_self ..)
      rw [new member] at equal
      exact Nat.ne_of_gt (tenures.known link old) equal

/-- Of the transports opened so far, at any point, one at most is live. -/
theorem Tenures.live_unique (tenures : Tenures effects active count) {first : List Effect}
    (point : first <+: effects) {m n : Nat} (one : Live first m) (other : Live first n) :
    m = n := by
  obtain ⟨rest, rfl⟩ := point
  obtain ⟨⟨kind, opened⟩, kept⟩ := one
  obtain ⟨⟨flavour, also⟩, spared⟩ := other
  obtain ⟨before, after, rfl⟩ := List.append_of_mem opened
  rcases List.mem_append.1 also with earlier | later
  · -- `n` was opened before `m`, so it was given up by then.
    have opening := tenures.orderly before ⟨m, kind⟩ (after ++ rest) (by simp)
    exact absurd (List.mem_append_left _ (opening.alone ⟨n, flavour⟩ earlier)) spared
  · rcases List.mem_cons.1 later with same | later
    · cases same
      rfl
    · obtain ⟨middle, tail, rfl⟩ := List.append_of_mem later
      have opening := tenures.orderly (before ++ .open ⟨m, kind⟩ :: middle) ⟨n, flavour⟩
        (tail ++ rest) (by simp)
      have gone := opening.alone ⟨m, kind⟩ (by simp)
      refine absurd ?_ kept
      simp only [List.mem_append, List.mem_cons, reduceCtorEq, false_or] at gone ⊢
      rcases gone with gone | gone
      · exact .inl gone
      · exact .inr (.inl gone)

end Tenures

section Lives

variable {config : SessionConfig} {past : List Beat} {s : Session}

/-- Only transports that were opened are given up. -/
theorem retire_lt (life : Life config past s) {number : Nat}
    (member : .retire number ∈ asked past) : number < s.nextLink := by
  obtain ⟨beat, here, given⟩ := List.mem_flatMap.1 member
  have noted : .asked (.retire number) ∈ log past :=
    List.mem_flatMap.2 ⟨beat, here, List.mem_cons_of_mem _ (List.mem_map_of_mem given)⟩
  refine ((life_linked life).gone number ?_).1
  exact List.mem_append_left _ noted

theorem life_tenures (life : Life config past s) :
    Tenures (asked past) s.active s.nextLink := by
  induction life with
  | fresh => exact ⟨nofun, nofun, nofun, fun first link rest split => by simp [asked] at split⟩
  | @beat past s life turn ih =>
      rw [asked_concat]
      have passage := (beat_upshot life turn).passage
      cases passage with
      | kept active count opened retired =>
          rw [show (s.beat config turn).after.nextLink = s.nextLink from count]
          refine ih.without (fun link member => opened link ((mem_marks rfl).2 member)) ?_
          exact .inl active
      | dropped unused count opened retired =>
          rw [show (s.beat config turn).after.nextLink = s.nextLink from count]
          refine ih.without (fun link member => opened link ((mem_marks rfl).2 member)) ?_
          exact .inr ⟨unused, fun link used => (mem_marks rfl).1 (retired link used)⟩
      | opened kind unused active count alone =>
          rw [show (s.beat config turn).after.nextLink = s.nextLink + 1 from count,
            show (s.beat config turn).after.active = some ⟨s.nextLink, kind⟩ from active]
          have free : s.active = none := unused
          rw [free] at ih
          exact ih.with alone fun number member => retire_lt life member

/-- A transport is live if it is the one in use. -/
theorem live_iff_active (life : Life config past s) (number : Nat) :
    Live (asked past) number ↔ s.active.map (·.number) = some number := by
  have tenures := life_tenures life
  constructor
  · rintro ⟨⟨kind, opened⟩, kept⟩
    rcases tenures.ended _ opened with used | gone
    · rw [used]
      rfl
    · exact absurd gone kept
  · intro active
    obtain ⟨link, used, rfl⟩ := Option.map_eq_some_iff.1 active
    refine ⟨⟨link.kind, tenures.serving link used⟩, fun given => ?_⟩
    obtain ⟨beat, member, retired⟩ := List.mem_flatMap.1 given
    exact retired_unused life ⟨beat, member, retired⟩ active

end Lives

/-! ## Flavours -/

/-- Whether a flavour is chosen: whenever credentials are taken up, be it again. -/
def picks (incident : Option Incident) (after : Phase) : Bool :=
  match incident with
  | some (.start _) | some .credentials => true
  | some .retry => after == .connecting
  | _ => false

def Beat.chooses (beat : Beat) : Bool := picks beat.befell beat.after.phase

def choice (past : List Beat) : Option Beat := (past.filter Beat.chooses).getLast?

/-- Whether persistent transports could be built when a flavour was last chosen. -/
def chosen (past : List Beat) : Option Bool :=
  (past.filter Beat.chooses).getLast?.map (·.turn.persistent)

theorem choice_concat (past : List Beat) (beat : Beat) :
    choice (past ++ [beat]) = if beat.chooses = true then some beat else choice past := by
  unfold choice
  rw [List.filter_append]
  split
  · rename_i picked
    rw [List.filter_cons_of_pos picked, List.filter_nil, List.getLast?_concat]
  · rename_i spared
    rw [List.filter_cons_of_neg spared, List.filter_nil, List.append_nil]

theorem chosen_concat (past : List Beat) (beat : Beat) :
    chosen (past ++ [beat]) =
      if beat.chooses = true then some beat.turn.persistent else chosen past := by
  show (choice (past ++ [beat])).map (·.turn.persistent) = _
  rw [choice_concat]
  split <;> rfl

/-- A persistent transport is chosen where it can be had, and dispensed with in fallback. -/
theorem Footing.kind_persistent {persistent forced : Bool} {v : Footing}
    (kind : v.kind persistent forced = .persistent) :
    persistent = true ∧ forced = false ∧ v.fallback = false := by
  unfold Footing.kind at kind
  split at kind
  · rename_i free
    simpa only [Bool.and_eq_true, Bool.not_eq_true', and_assoc] using free
  · cases kind

/-- A persistent transport is to be opened, or is opened. -/
def Footing.Upcoming (w : Footing) (given : List Effect) : Prop :=
  w.pendingKind = some .persistent ∨ ∃ number, .open ⟨number, .persistent⟩ ∈ given

/-- A transport of this flavour is to be opened, or is opened. -/
def Footing.Awaits (kind : TransportKind) (w : Footing) (given : List Effect) : Prop :=
  w.pendingKind = some kind ∨ ∃ number, .open ⟨number, kind⟩ ∈ given

theorem Anew.awaits {setup : Setup} {forced : Bool} {v w : Footing} {given : List Effect}
    (anew : Anew setup forced v w given) {kind : TransportKind} (awaits : w.Awaits kind given) :
    kind = v.kind setup.persistent forced ∧ w.fallback = v.fallback ∧ w.phase = .connecting := by
  cases anew with
  | now unused gone =>
      obtain ⟨number, member⟩ := awaits.resolve_left nofun
      have same := Effect.open.inj (List.mem_singleton.1 member)
      exact ⟨congrArg Link.kind same, rfl, rfl⟩
  | later =>
      have pending := awaits.resolve_right (by simp [open_notMem_retirement])
      exact ⟨(Option.some.inj pending).symm, rfl, rfl⟩

/-- The flavour of a transport to come was chosen in this beat, or it was to come before. -/
theorem Upshot.awaits {setup : Setup} {v w : Footing} {incident : Option Incident}
    {given : List Effect} (upshot : Upshot setup v incident w given) {kind : TransportKind}
    (awaits : w.Awaits kind given) :
    picks incident w.phase = true ∧
        kind = v.kind setup.persistent (incident == some (.start true)) ∧ w.fallback = v.fallback ∨
      picks incident w.phase = false ∧ v.pendingKind = some kind ∧ w.fallback = v.fallback := by
  cases upshot with
  | still | greet | idle | welcome | heard =>
      exact .inr ⟨rfl, awaits.resolve_right (by simp), rfl⟩
  | request phase =>
      refine .inr ⟨?_, awaits.resolve_right (by simp), rfl⟩
      show (v.phase == .connecting) = false
      rw [phase]
      rfl
  | reconnect =>
      exact .inr ⟨rfl, awaits.resolve_right (by simp [open_notMem_retirement]), rfl⟩
  | settled phase kept unused =>
      obtain ⟨number, member⟩ := awaits.resolve_left nofun
      have same := Effect.open.inj (List.mem_singleton.1 member)
      exact .inr ⟨rfl, kept.trans (congrArg (some ·.kind) same).symm, rfl⟩
  | @start forced _ _ anew =>
      obtain ⟨flavour, same, -⟩ := anew.awaits awaits
      have asked : (some (Incident.start forced) == some (.start true)) = forced := by
        cases forced <;> rfl
      rw [asked]
      exact .inl ⟨rfl, flavour, same⟩
  | credentials _ anew =>
      obtain ⟨flavour, same, -⟩ := anew.awaits awaits
      exact .inl ⟨rfl, flavour, same⟩
  | reuse _ _ _ anew =>
      obtain ⟨flavour, same, phase⟩ := anew.awaits awaits
      refine .inl ⟨?_, flavour, same⟩
      rw [picks, phase]
      rfl
  | setBack | beaten | breach | refresh | giveUp | close =>
      rcases awaits with pending | ⟨number, member⟩
      · cases pending
      · simp [open_notMem_retirement, surrender] at member

/-- A persistent transport to come was chosen in this beat, or it was to come before. -/
theorem Upshot.flavour {setup : Setup} {v w : Footing} {incident : Option Incident}
    {given : List Effect} (upshot : Upshot setup v incident w given)
    (upcoming : w.Upcoming given) :
    picks incident w.phase = true ∧ setup.persistent = true ∧ v.fallback = false ∧
        w.fallback = false ∨
      picks incident w.phase = false ∧ v.pendingKind = some .persistent ∧
        w.fallback = v.fallback := by
  have awaits : w.Awaits .persistent given := upcoming
  rcases upshot.awaits awaits with ⟨picked, flavour, same⟩ | kept
  · obtain ⟨persistent, -, spared⟩ := Footing.kind_persistent flavour.symm
    exact .inl ⟨picked, persistent, spared, same.trans spared⟩
  · exact .inr kept

section Lives

variable {config : SessionConfig} {past : List Beat} {s : Session}

/-- A persistent transport to come was chosen while there were such, and without fallback. -/
def Foreseen (past : List Beat) (s : Session) : Prop :=
  s.pendingKind = some .persistent → s.fallback = false ∧ chosen past = some true

theorem Foreseen.beat (foreseen : Foreseen past s) (life : Life config past s) (turn : Turn)
    (upcoming : (s.beat config turn).after.footing.Upcoming
      (marks (s.beat config turn).effects)) :
    s.fallback = false ∧ (s.beat config turn).after.fallback = false ∧
      chosen (past ++ [s.beat config turn]) = some true := by
  rw [chosen_concat]
  rcases (beat_upshot life turn).flavour upcoming with
    ⟨picked, persistent, before, after⟩ | ⟨spared, pending, same⟩
  · have chose : (s.beat config turn).chooses = true := picked
    rw [if_pos chose]
    exact ⟨before, after, congrArg some persistent⟩
  · have kept : ¬(s.beat config turn).chooses = true := Bool.eq_false_iff.1 spared
    rw [if_neg kept]
    obtain ⟨unengaged, available⟩ := foreseen pending
    exact ⟨unengaged, same.trans unengaged, available⟩

theorem life_foreseen (life : Life config past s) : Foreseen past s := by
  induction life with
  | fresh => exact nofun
  | beat life turn ih =>
      intro pending
      exact (ih.beat life turn (.inl pending)).2

/-- A persistent transport is opened without fallback, and was to be had when it was chosen. -/
theorem Life.persistent (life : Life config past s) {k : Nat} {beat : Beat}
    (here : past[k]? = some beat) {number : Nat}
    (opened : .open ⟨number, .persistent⟩ ∈ beat.effects) :
    beat.before.fallback = false ∧ chosen (past.take (k + 1)) = some true := by
  obtain ⟨before, same⟩ := life.at here
  rw [same] at opened
  obtain ⟨unengaged, -, available⟩ := (life_foreseen before).beat before beat.turn
    (.inr ⟨number, (mem_marks rfl).2 opened⟩)
  refine ⟨unengaged, ?_⟩
  rw [List.take_add_one, here, Option.toList_some, same]
  exact available

end Lives

/-- **One transport serves at a time.**  At any point of a run, inside a turn or between turns,
one transport at most is live, and between turns the live one is the one in use.  When a
transport is opened all earlier ones were given up and it was not, and it is opened once.  A
persistent one is opened without fallback, and where persistent ones could be built when its
flavour was chosen. -/
theorem one_live_transport (config : SessionConfig) (turns : List Turn) :
    (∀ point, point <+: asked (history config turns) →
      ∀ m n, Live point m → Live point n → m = n) ∧
    (∀ number, Live (asked (history config turns)) number ↔
      (reached config turns).active.map (·.number) = some number) ∧
    (∀ first link rest, asked (history config turns) = first ++ .open link :: rest →
      Opened first link rest) ∧
    (∀ (k : Nat) beat number, (history config turns)[k]? = some beat →
      .open ⟨number, .persistent⟩ ∈ beat.effects →
        beat.before.fallback = false ∧
          chosen ((history config turns).take (k + 1)) = some true) := by
  have life := life_of config turns
  have tenures := life_tenures life
  refine ⟨?_, live_iff_active life, tenures.orderly, ?_⟩
  · intro point within m n one other
    exact tenures.live_unique within one other
  · intro k beat number here opened
    exact life.persistent here opened

end Tether.Session
