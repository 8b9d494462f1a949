/-
# Tether.Proofs.Session.Flavours -- which flavour a transport is of, and who chose it

A flavour is chosen whenever credentials are taken up: when the application brings them, when a
reply brings them, and when a retry uses the pair held once more.  The transport may be opened in
the same beat, or once the settle delay has passed; a choice made in between replaces the one
before.  So every transport is of the flavour chosen last.

With the credentials the application can ask for a polling transport.  That is part of the call,
and no part of the session: a retry that uses the same pair once more does not know of it, and
chooses as if nothing had been asked for.

* `Life.flavour` -- a transport is of the flavour chosen last, however much later it is opened.
* `choice_of_cycle` -- between two deliveries only retries choose again.
* `forced_until_retried` -- how far asking for a polling transport reaches.
-/
import Tether.Proofs.Session.Reuse
import Tether.Proofs.Session.Tenure

set_option autoImplicit false

namespace Tether.Session

def Beat.forced (beat : Beat) : Bool := beat.befell == some (.start true)

def Beat.flavour (beat : Beat) : TransportKind :=
  beat.before.footing.kind beat.turn.persistent beat.forced

variable {config : SessionConfig} {past : List Beat} {s : Session}

/-! ## The flavour chosen last -/

/-- A flavour that is kept for later is the one chosen last. -/
def Destined (past : List Beat) (s : Session) : Prop :=
  ∀ kind, s.pendingKind = some kind → (choice past).map Beat.flavour = some kind

theorem Destined.beat (destined : Destined past s) (life : Life config past s) (turn : Turn)
    {kind : TransportKind}
    (awaits : (s.beat config turn).after.footing.Awaits kind
      (marks (s.beat config turn).effects)) :
    (choice (past ++ [s.beat config turn])).map Beat.flavour = some kind := by
  rw [choice_concat]
  rcases (beat_upshot life turn).awaits awaits with ⟨picked, flavour, -⟩ | ⟨spared, kept, -⟩
  · have chose : (s.beat config turn).chooses = true := picked
    rw [if_pos chose]
    exact congrArg some flavour.symm
  · have unchosen : ¬(s.beat config turn).chooses = true := Bool.eq_false_iff.1 spared
    rw [if_neg unchosen]
    exact destined kind kept

theorem life_destined (life : Life config past s) : Destined past s := by
  induction life with
  | fresh => exact nofun
  | beat life turn ih => exact fun kind kept => ih.beat life turn (.inl kept)

/-- A transport is of the flavour chosen last, in the beat that opens it or before. -/
theorem Life.flavour (life : Life config past s) {k : Nat} {beat : Beat}
    (here : past[k]? = some beat) {link : Link} (opened : .open link ∈ beat.effects) :
    (choice (past.take (k + 1))).map Beat.flavour = some link.kind := by
  obtain ⟨before, same⟩ := life.at here
  rw [same] at opened
  rw [List.take_add_one, here, Option.toList_some, same]
  exact (life_destined before).beat before beat.turn
    (.inr ⟨link.number, (mem_marks rfl).2 opened⟩)

/-! ## Between two deliveries -/

theorem choice_append (first second : List Beat) :
    choice (first ++ second) = (choice second).or (choice first) := by
  rw [choice, List.filter_append, List.getLast?_append]
  rfl

/-- The beat that chose last is one of those that chose. -/
theorem choice_mem {beat : Beat} (last : choice past = some beat) :
    beat ∈ past ∧ beat.chooses = true :=
  List.mem_filter.1 (List.mem_of_getLast? last)

/-- Credentials that a reply brings are a delivery. -/
theorem delivered_of_credentials {beat : Beat} (befell : beat.befell = some .credentials) :
    beat.delivered ≠ none := by
  obtain ⟨running, befalls⟩ := befell_some befell
  obtain ⟨manual, session, token, called, requesting, given⟩ := befalls_causes befalls
  have heard : beat.heard = some (.credentials session token) := by
    rw [Beat.heard, if_pos running, called]
    exact (if_pos ⟨rfl, requesting⟩).trans (if_neg (Bool.eq_false_iff.1 given))
  rw [Beat.delivered, heard]
  exact Option.some_ne_none _

/-- A beat that chooses a flavour and delivers nothing is a retry. -/
theorem retry_of_chooses {beat : Beat} (chose : beat.chooses = true)
    (undelivered : beat.delivered = none) : beat.befell = some .retry := by
  unfold Beat.chooses picks at chose
  split at chose
  · rename_i forced befell
    exact absurd undelivered (delivered_of_start befell)
  · rename_i befell
    exact absurd undelivered (delivered_of_credentials befell)
  · assumption
  · cases chose

/-- Once `start` has chosen, and as long as nothing is delivered, the flavour chosen last is that of
`start` or of a retry. -/
theorem choice_of_cycle {start : Beat} {cycle : List Beat} (chose : start.chooses = true)
    (undelivered : deliveries cycle = []) :
    ∃ origin, choice (start :: cycle) = some origin ∧
      (origin = start ∨ origin.befell = some .retry) := by
  have among : start ∈ (start :: cycle).filter Beat.chooses :=
    List.mem_filter.2 ⟨List.mem_cons_self .., chose⟩
  obtain ⟨origin, last⟩ : ∃ origin, choice (start :: cycle) = some origin :=
    ⟨_, List.getLast?_eq_some_getLast (List.ne_nil_of_mem among)⟩
  refine ⟨origin, last, ?_⟩
  obtain ⟨member, picked⟩ := choice_mem last
  refine (List.mem_cons.1 member).imp id fun later => retry_of_chooses picked ?_
  exact List.filterMap_eq_nil_iff.1 undelivered origin later

/-! ## How far a polling transport is asked for -/

/-- Where a polling transport is asked for, one is chosen. -/
theorem flavour_forced {beat : Beat} (forced : beat.befell = some (.start true)) :
    beat.flavour = .polling := by
  have asked : beat.forced = true := beq_iff_eq.2 forced
  rw [Beat.flavour, asked, Footing.kind, Bool.not_true, Bool.and_false, Bool.false_and,
    if_neg Bool.false_ne_true]

/-- A retry chooses a persistent transport wherever one can be had, but in fallback. -/
theorem flavour_retry {beat : Beat} (retried : beat.befell = some .retry) :
    beat.flavour = .persistent ↔ beat.turn.persistent = true ∧ beat.before.fallback = false := by
  have unasked : beat.forced = false := by
    rw [Beat.forced, retried]
    rfl
  constructor
  · intro persistent
    obtain ⟨available, -, unengaged⟩ := Footing.kind_persistent persistent
    exact ⟨available, unengaged⟩
  · rintro ⟨available, unengaged⟩
    have spared : beat.before.footing.fallback = false := unengaged
    rw [Beat.flavour, Footing.kind, available, unasked, spared]
    rfl

/-- A call that brings credentials and asks for a polling transport is an incident of its own. -/
theorem befell_forced {beat : Beat} {session : SessionId} {token : AccessToken}
    (called : beat.turn.input = .init session token true) (running : beat.before.running = true)
    (given : (session.isEmpty || token.isEmpty) = false) : beat.befell = some (.start true) := by
  rw [befell_running running, called]
  exact if_neg (Bool.eq_false_iff.1 given)

/-- **A polling transport is asked for until the next retry.**  The application brings credentials
and asks for a polling transport; `cycle` is what follows before other credentials are delivered.
A transport opened in it is a persistent one exactly if its flavour was chosen by a retry, while
persistent transports could be built and fallback was not engaged. -/
theorem forced_until_retried {turns : List Turn} {first cycle rest : List Beat} {start : Beat}
    {session : SessionId} {token : AccessToken}
    (whole : history config turns = first ++ start :: (cycle ++ rest))
    (called : start.turn.input = .init session token true) (running : start.before.running = true)
    (given : (session.isEmpty || token.isEmpty) = false) (undelivered : deliveries cycle = [])
    {k : Nat} {beat : Beat} (here : (start :: cycle)[k]? = some beat) {link : Link}
    (opened : .open link ∈ beat.effects) :
    link.kind = .persistent ↔
      ∃ origin, choice ((start :: cycle).take (k + 1)) = some origin ∧
        origin.befell = some .retry ∧ origin.turn.persistent = true ∧
        origin.before.fallback = false := by
  have forced := befell_forced called running given
  have chose : start.chooses = true := by
    rw [Beat.chooses, forced]
    rfl
  have unbroken : deliveries (cycle.take k) = [] := by
    refine List.filterMap_eq_nil_iff.2 fun later member => ?_
    exact List.filterMap_eq_nil_iff.1 undelivered later (List.mem_of_mem_take member)
  obtain ⟨origin, last, chooser⟩ := choice_of_cycle chose unbroken
  -- What was chosen before `start` plays no role.
  have flavour : origin.flavour = link.kind := by
    obtain ⟨within, -⟩ := List.getElem?_eq_some_iff.1 here
    have split : history config turns = first ++ ((start :: cycle) ++ rest) := whole
    have place : (history config turns)[first.length + k]? = some beat := by
      rw [split, List.getElem?_append_right (Nat.le_add_right ..), Nat.add_sub_cancel_left,
        List.getElem?_append_left within, here]
    have chosen := (life_of config turns).flavour place opened
    rw [split, Nat.add_assoc, List.take_length_add_append, List.take_append_of_le_length within,
      choice_append, List.take_succ_cons, last] at chosen
    exact Option.some.inj chosen
  rw [← flavour, List.take_succ_cons, last]
  constructor
  · intro persistent
    rcases chooser with rfl | retried
    · cases (flavour_forced forced).symm.trans persistent
    · exact ⟨origin, rfl, retried, (flavour_retry retried).1 persistent⟩
  · rintro ⟨other, same, retried, free⟩
    cases same
    exact (flavour_retry retried).2 free

/-- A polling transport is asked for, and fails before it opens; the retry uses the pair once more,
and opens a transport after the settle delay. -/
def forcedOnce : List Turn :=
  [{ input := .init ⟨"S"⟩ ⟨"T"⟩ true }, { input := .transport 0 .failed },
    { input := .expired .retry ⟨2⟩ }, { input := .expired .settle ⟨3⟩ }]

/-- No other credentials are delivered, and the second transport is a persistent one. -/
theorem forcedOnce_opens :
    ∃ start cycle beat, history {} forcedOnce = [] ++ start :: (cycle ++ []) ∧
      start.turn.input = .init ⟨"S"⟩ ⟨"T"⟩ true ∧ start.before.running = true ∧
      deliveries cycle = [] ∧ (start :: cycle)[3]? = some beat ∧
      .open ⟨1, .persistent⟩ ∈ beat.effects := by
  let start := ({} : Session).beat {} { input := .init ⟨"S"⟩ ⟨"T"⟩ true }
  refine ⟨start, historyFrom {} start.after forcedOnce.tail, _, ?_, rfl, rfl, ?_, rfl, ?_⟩
  · rw [List.append_nil]
    rfl
  · decide +kernel
  · decide +kernel

/-- The retry has chosen it. -/
theorem forced_once_retried :
    ∃ start cycle, history {} forcedOnce = [] ++ start :: (cycle ++ []) ∧
      start.turn.input = .init ⟨"S"⟩ ⟨"T"⟩ true ∧ deliveries cycle = [] ∧
      ∃ origin, choice ((start :: cycle).take 4) = some origin ∧ origin.befell = some .retry ∧
        origin.turn.persistent = true ∧ origin.before.fallback = false := by
  obtain ⟨start, cycle, beat, whole, called, running, undelivered, here, opened⟩ :=
    forcedOnce_opens
  refine ⟨start, cycle, whole, called, undelivered, ?_⟩
  exact (forced_until_retried whole called running (by decide +kernel) undelivered here
    opened).1 rfl

/-- So asking for a polling transport does not cover all that is opened for the pair. -/
theorem forced_forgotten :
    ¬∀ (config : SessionConfig) (turns : List Turn) (first cycle rest : List Beat) (start : Beat)
      (session : SessionId) (token : AccessToken),
        history config turns = first ++ start :: (cycle ++ rest) →
          start.turn.input = .init session token true → start.before.running = true →
            (session.isEmpty || token.isEmpty) = false → deliveries cycle = [] →
              ∀ beat ∈ start :: cycle, ∀ link, .open link ∈ beat.effects →
                link.kind = .polling := by
  intro polls
  obtain ⟨start, cycle, beat, whole, called, running, undelivered, here, opened⟩ :=
    forcedOnce_opens
  cases polls {} forcedOnce [] cycle [] start ⟨"S"⟩ ⟨"T"⟩ whole called running
    (by decide +kernel) undelivered beat (List.mem_of_getElem? here) _ opened

end Tether.Session
