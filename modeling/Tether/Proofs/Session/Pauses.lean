/-
# Tether.Proofs.Session.Pauses -- the pause before a transport is opened

When a transport was reset, the settle delay is to pass before the next one is opened.  The session
keeps no record of resets.  It keeps a failed transport at hand until it starts over, and starts the
settle timer then, if it finds one; so the delay counts from the moment it starts over, when the
transport is reset once more.  That is all the history there is.  Two ways lead past it:

* The application brings credentials while the delay runs.  By then no transport is at hand, so the
  next one is opened at once, and the delay is called off.
* The session gave up or was told to reload, which resets and forgets all transports.  The
  application starts it again, or the user asks for a reconnect: there is no transport at hand, and
  the next one is opened at once.

In all other cases the delay passes: a transport is opened by the expiry of the settle timer, which
was started by the last reset (`Life.settling`).

* `Upshot.settling`, `Upshot.unlinked` -- what a beat does to the timer, and to what is at hand.
* `Life.unlinked` -- with nothing at hand, nothing was reset, or the last reset ended the session.
* `pause_before_opening` -- the ways in which a transport comes to be opened.
-/
import Tether.Proofs.Session.Retries
import Tether.Proofs.Session.Tenure

set_option autoImplicit false

namespace Tether.Session

def Beat.Retires (beat : Beat) : Prop := ∃ number, .retire number ∈ beat.effects

/-- There is nothing to wait for before a transport is opened. -/
structure Footing.Unlinked (v : Footing) : Prop where
  active : v.active = none
  retired : v.retired = none
  settle : v.settle.pending = false

/-- Only a session that connects waits for the settle delay. -/
def Footing.Placed (v : Footing) : Prop := v.phase ≠ .connecting → v.settle.pending = false

theorem Footing.Placed.elsewhere {v : Footing} (placed : v.Placed) {phase : Phase}
    (same : v.phase = phase) (other : phase ≠ .connecting) : v.settle.pending = false := by
  subst same
  exact placed other

/-- The user cannot ask for a reconnect while the settle delay runs. -/
theorem Footing.Placed.reconnects {v : Footing} (placed : v.Placed)
    (allowed : v.phase = .reconnecting ∨ v.phase = .failed ∨ v.phase = .ready) :
    v.settle.pending = false := by
  rcases allowed with phase | phase | phase <;> exact placed.elsewhere phase nofun

/-- A session that has no transport at hand after setting one aside had none before. -/
theorem Footing.unlinked_of_aside {v : Footing} (gone : v.active.or v.retired = none)
    (settle : v.settle.pending = false) : v.Unlinked ∧ v.ousted = [] := by
  obtain ⟨active, retired⟩ := Option.or_eq_none_iff.1 gone
  refine ⟨⟨active, retired, settle⟩, ?_⟩
  rw [Footing.ousted, active]

/-! ## What a beat does -/

section Upshots

variable {setup : Setup} {v w : Footing} {incident : Option Incident} {given : List Effect}

/-- A settle timer that is pending was started now, or was pending before and nothing is reset. -/
theorem Upshot.settling (upshot : Upshot setup v incident w given) (placed : v.Placed)
    (pending : w.settle.pending = true) :
    .start .settle w.settle.ticket setup.config.settleDelay.toNat ∈ given ∨
      v.settle.pending = true ∧ w.settle = v.settle ∧ ∀ number, .retire number ∉ given := by
  have begun : ∀ {forced : Bool}, Anew setup forced v w given →
      .start .settle w.settle.ticket setup.config.settleDelay.toNat ∈ given := by
    intro forced anew
    cases anew with
    | now => cases pending
    | later => exact List.mem_append_right _ (List.mem_singleton_self _)
  cases upshot with
  | still | greet | idle | welcome | heard | request => exact .inr ⟨pending, rfl, by simp⟩
  | start anew => exact .inl (begun anew)
  | credentials _ anew => exact .inl (begun anew)
  | reuse _ _ _ anew => exact .inl (begun anew)
  | reconnect allowed => cases (placed.reconnects allowed).symm.trans pending
  | setBack | beaten | breach | refresh | settled | giveUp | close => cases pending

/-- Where all transports at hand are reset, there were some, or nothing is reset. -/
theorem retires_or_unlinked {rest : List Effect} (settle : v.settle.pending = false)
    (spared : ∀ number, .retire number ∉ rest) :
    (∃ number, .retire number ∈ retirement v.links ++ rest) ∨
      v.Unlinked ∧ ∀ number, .retire number ∉ retirement v.links ++ rest := by
  cases links : v.links with
  | cons link more => exact .inl ⟨link.number, List.mem_cons_self ..⟩
  | nil =>
      obtain ⟨active, retired⟩ := List.append_eq_nil_iff.1 links
      refine .inr ⟨⟨?_, ?_, settle⟩, spared⟩
      · exact Option.toList_eq_nil_iff.1 active
      · exact Option.toList_eq_nil_iff.1 retired

/-- If there is nothing at hand, there was nothing before and nothing is reset, or a reset has ended
the session. -/
theorem Upshot.unlinked (upshot : Upshot setup v incident w given) (placed : v.Placed)
    (calm : v.settle.pending = true → incident ≠ some .failure) (running : w.running = true)
    (unlinked : w.Unlinked) :
    (∃ number, .retire number ∈ given) ∧ (w.phase = .failed ∨ w.phase = .idle) ∨
      v.Unlinked ∧ ∀ number, .retire number ∉ given := by
  have busy : ∀ {forced : Bool}, ¬Anew setup forced v w given := by
    intro forced anew
    cases anew with
    | now => cases unlinked.active
    | later => cases unlinked.settle
  cases upshot with
  | still | greet | idle | welcome | heard | request =>
      exact .inr ⟨⟨unlinked.active, unlinked.retired, unlinked.settle⟩, by simp⟩
  | start anew => exact absurd anew busy
  | credentials _ anew => exact absurd anew busy
  | reuse _ _ _ anew => exact absurd anew busy
  | settled => cases unlinked.active
  | close => cases running
  | setBack =>
      have calm : v.settle.pending = false := Bool.eq_false_iff.2 fun pending => calm pending rfl
      obtain ⟨before, ousted⟩ := Footing.unlinked_of_aside unlinked.retired calm
      exact .inr ⟨before, by simp [ousted, retirement]⟩
  | reconnect allowed =>
      have calm := placed.reconnects allowed
      obtain ⟨before, ousted⟩ := Footing.unlinked_of_aside unlinked.retired calm
      exact .inr ⟨before, by simp [ousted, retirement]⟩
  | beaten =>
      have calm : v.settle.pending = false := Bool.eq_false_iff.2 fun pending => calm pending rfl
      cases aside : v.active.or v.retired with
      | none =>
          obtain ⟨before, ousted⟩ := Footing.unlinked_of_aside aside calm
          refine .inr ⟨before, ?_⟩
          simp [ousted, Footing.links, Footing.aside, aside, retirement, surrender]
      | some link =>
          refine .inl ⟨⟨link.number, List.mem_append_right _ (List.mem_append_left _ ?_)⟩, .inl rfl⟩
          refine mem_retirement.2 ⟨link, ?_, rfl⟩
          simp [Footing.links, Footing.aside, aside]
  | breach phase =>
      exact (retires_or_unlinked (placed.elsewhere phase (by decide)) (by simp)).imp
        (fun reset => ⟨reset, .inl rfl⟩) id
  | giveUp phase =>
      exact (retires_or_unlinked (placed.elsewhere phase (by decide)) (by simp [surrender])).imp
        (fun reset => ⟨reset, .inl rfl⟩) id
  | refresh phase =>
      rw [← List.append_nil (retirement v.links)]
      exact (retires_or_unlinked (placed.elsewhere phase (by decide)) (by simp)).imp
        (fun reset => ⟨reset, .inr rfl⟩) id

/-- A transport is opened when the settle delay has passed, or because there is nothing at hand.  In
that case, if the settle timer is pending, the application has brought credentials. -/
theorem Upshot.opens (upshot : Upshot setup v incident w given) (placed : v.Placed) {link : Link}
    (opened : .open link ∈ given) :
    incident = some .settled ∨
      v.active = none ∧ v.retired = none ∧
        (v.settle.pending = true → ∃ forced, incident = some (.start forced)) := by
  have free : ∀ {forced : Bool}, Anew setup forced v w given →
      v.active = none ∧ v.retired = none := by
    intro forced anew
    cases anew with
    | now unused gone => exact ⟨unused, gone⟩
    | later => simp [open_notMem_retirement] at opened
  cases upshot with
  | settled => exact .inl rfl
  | @start forced _ _ anew =>
      obtain ⟨unused, gone⟩ := free anew
      exact .inr ⟨unused, gone, fun _ => ⟨forced, rfl⟩⟩
  | credentials phase anew | reuse phase _ _ anew =>
      obtain ⟨unused, gone⟩ := free anew
      refine .inr ⟨unused, gone, fun pending => ?_⟩
      cases (placed.elsewhere phase nofun).symm.trans pending
  | still | greet | idle | welcome | heard | request | setBack | beaten | breach | refresh
  | reconnect | giveUp | close => simp [open_notMem_retirement, surrender] at opened

end Upshots

/-! ## Lives -/

section Lives

variable {config : SessionConfig} {past : List Beat} {s : Session}

theorem Life.placed (life : Life config past s) : s.footing.Placed := by
  intro other
  exact (life.coherent.arranged.settled other).1

/-- While the settle delay runs, nothing can fail. -/
theorem Life.settles_alone (life : Life config past s) (pending : s.settle.pending = true)
    (turn : Turn) : (s.beat config turn).befell ≠ some .failure := by
  have arranged := life.coherent.arranged
  obtain ⟨phase, unused, -⟩ := arranged.awaits_settle pending
  have opening := (arranged_connecting phase).1 arranged
  have unready : s.phase ≠ .ready := by
    rw [phase]
    exact nofun
  intro failed
  exact (befalls_alone unused unready opening.requesting).1 (befell_some failed).2

theorem retires_iff {beat : Beat} :
    beat.Retires ↔ ∃ number, .retire number ∈ marks beat.effects :=
  exists_congr fun _ => (mem_marks rfl).symm

/-- The settle timer that is pending was started by a beat since which nothing was reset. -/
theorem Life.settling (life : Life config past s) (pending : s.settle.pending = true) :
    ∃ first start rest, past = first ++ start :: rest ∧
      .start .settle s.settle.ticket config.settleDelay.toNat ∈ start.effects ∧
        ∀ beat ∈ rest, ¬beat.Retires := by
  induction life with
  | fresh => cases pending
  | @beat past s life turn ih =>
      have settling := (beat_upshot life turn).settling life.placed pending
      generalize s.beat config turn = beat at settling pending ⊢
      rcases settling with started | ⟨before, same, spared⟩
      · refine ⟨past, beat, [], rfl, (mem_marks rfl).1 started, ?_⟩
        exact fun _ member => (List.not_mem_nil member).elim
      · obtain ⟨first, start, rest, rfl, started, quiet⟩ := ih before
        have kept : beat.after.settle = s.settle := same
        refine ⟨first, start, rest ++ [beat], by simp, ?_, ?_⟩
        · rw [kept]
          exact started
        · intro other member
          rcases List.mem_append.1 member with old | new
          · exact quiet other old
          · obtain rfl := List.mem_singleton.1 new
            rw [retires_iff]
            exact fun ⟨number, reset⟩ => spared number reset

/-- What is known of the last reset when nothing is at hand: there was none, or it ended the
session. -/
inductive Forgotten (past : List Beat) : Prop
  | never (spared : ∀ beat ∈ past, ¬beat.Retires)
  | ended {before after : List Beat} {last : Beat} (split : past = before ++ last :: after)
      (reset : last.Retires) (spared : ∀ beat ∈ after, ¬beat.Retires)
      (ending : last.after.phase = .failed ∨ last.after.phase = .idle)

theorem Forgotten.concat (forgotten : Forgotten past) {beat : Beat} (spared : ¬beat.Retires) :
    Forgotten (past ++ [beat]) := by
  have longer : ∀ {others : List Beat}, (∀ other ∈ others, ¬other.Retires) →
      ∀ other ∈ others ++ [beat], ¬other.Retires := by
    intro others quiet other member
    rcases List.mem_append.1 member with old | new
    · exact quiet other old
    · obtain rfl := List.mem_singleton.1 new
      exact spared
  cases forgotten with
  | never quiet => exact .never (longer quiet)
  | @ended before after last split reset quiet ending =>
      have parts : past ++ [beat] = before ++ last :: (after ++ [beat]) := by
        rw [split, List.append_assoc, List.cons_append]
      exact .ended parts reset (longer quiet) ending

/-- With nothing at hand, nothing was reset, or the last reset ended the session. -/
theorem Life.unlinked (life : Life config past s) (running : s.running = true)
    (unlinked : s.footing.Unlinked) : Forgotten past := by
  induction life with
  | fresh => exact .never fun _ member => (List.not_mem_nil member).elim
  | @beat past s life turn ih =>
      have step := (beat_upshot life turn).unlinked life.placed
        (fun pending => life.settles_alone pending turn) running unlinked
      have alive : s.running = true := by
        by_contra stopped
        rw [(beat_stopped (Bool.eq_false_iff.2 stopped) turn).1] at running
        exact stopped running
      generalize s.beat config turn = beat at step ⊢
      rcases step with ⟨reset, ending⟩ | ⟨before, spared⟩
      · refine .ended rfl (retires_iff.2 reset) ?_ ending
        exact fun _ member => (List.not_mem_nil member).elim
      · refine (ih alive before).concat ?_
        rw [retires_iff]
        exact fun ⟨number, reset⟩ => spared number reset

end Lives

/-! ## On a clock -/

/-- How a transport comes to be opened at `moment`, after `first`. -/
inductive Occasion (config : SessionConfig) (first : List Moment) (moment : Moment) : Prop
  /-- No transport was reset before. -/
  | fresh (spared : ∀ other ∈ first, ¬other.beat.Retires)
  /-- The settle delay has passed since every reset. -/
  | settled (befell : moment.beat.befell = some .settled)
      (passed : ∀ reset ∈ first, reset.beat.Retires →
        reset.time + config.settleDelay.toNat ≤ moment.time)
  /-- The application brings credentials while the settle delay runs. -/
  | hurried {forced : Bool} (befell : moment.beat.befell = some (.start forced))
      (pending : moment.beat.before.settle.pending = true)
  /-- The last reset has ended the session. -/
  | restarted {before after : List Moment} {last : Moment}
      (split : first = before ++ last :: after) (reset : last.beat.Retires)
      (spared : ∀ other ∈ after, ¬other.beat.Retires)
      (ending : last.beat.after.phase = .failed ∨ last.beat.after.phase = .idle)

section Clock

variable {config : SessionConfig} {first rest : List Moment} {moment : Moment} {scene : Scene}

/-- When the settle timer runs out, the delay has passed since every reset. -/
theorem settled_on_time (line : Timeline config (first ++ moment :: rest) scene)
    (befell : moment.beat.befell = some .settled) {reset : Moment} (member : reset ∈ first)
    (retires : reset.beat.Retires) :
    reset.time + config.settleDelay.toNat ≤ moment.time := by
  have life := line.life
  rw [beats, List.map_append, List.map_cons] at life
  obtain ⟨before, -⟩ := life.split
  obtain ⟨running, befalls⟩ := befell_some befell
  obtain ⟨expired, pending⟩ := befalls_causes befalls
  have begun := line.timely.handled first moment rest rfl _ _ expired
  obtain ⟨earlier, beat, quiet, split, started, spared⟩ := before.settling pending
  obtain ⟨past, start, later, rfl, rfl, rfl, rfl⟩ := beats_split split
  have due : moment.time = start.time + config.settleDelay.toNat :=
    expiry_on_time .settle before running pending begun (by simp) started
  have order : reset.time ≤ start.time := by
    have ordered := (List.pairwise_append.1 line.ordered).1
    rcases List.mem_append.1 member with old | new
    · exact (List.pairwise_append.1 ordered).2.2 reset old start (List.mem_cons_self ..)
    · rcases List.mem_cons.1 new with rfl | since
      · exact Nat.le_refl _
      · exact absurd retires (spared reset.beat (List.mem_map_of_mem since))
  omega

/-- **A transport is opened after a pause, with two exceptions.**  All transports opened before were
reset.  The settle delay has passed since every reset, unless the application brings credentials
while it runs, or the last reset has ended the session. -/
theorem pause_before_opening (line : Timeline config (first ++ moment :: rest) scene) {link : Link}
    (opened : .open link ∈ moment.beat.effects) :
    (∀ earlier, .open earlier ∈ asked (beats first) →
      .retire earlier.number ∈ asked (beats first)) ∧ Occasion config first moment := by
  have life := line.life
  rw [beats, List.map_append, List.map_cons] at life
  obtain ⟨before, same⟩ := life.split
  have upshot := beat_upshot before moment.beat.turn
  rw [← same] at upshot
  have opening := (mem_marks rfl).2 opened
  constructor
  · intro earlier member
    refine ((life_tenures before).ended earlier member).resolve_left fun used => ?_
    cases upshot.passage with
    | kept _ _ spared => exact spared link opening
    | dropped _ _ spared => exact spared link opening
    | opened _ unused => cases unused.symm.trans used
  · rcases upshot.opens before.placed opening with settled | ⟨unused, gone, hurry⟩
    · exact .settled settled fun reset member => settled_on_time line settled member
    · -- Only credentials from the application cut a delay short that is under way.
      cases pending : moment.beat.before.settle.pending with
      | true =>
          obtain ⟨forced, befell⟩ := hurry pending
          exact .hurried befell pending
      | false =>
          have running : moment.beat.before.running = true := by
            rw [same] at opened
            exact running_of_effect opened
          cases before.unlinked running ⟨unused, gone, pending⟩ with
          | never spared =>
              exact .fresh fun other member => spared other.beat (List.mem_map_of_mem member)
          | ended split reset spared ending =>
              obtain ⟨past, last, later, rfl, rfl, rfl, rfl⟩ := beats_split split
              exact .restarted rfl reset
                (fun other member => spared other.beat (List.mem_map_of_mem member)) ending

end Clock

/-- The application brings credentials twice, and the second transport is opened when the delay has
passed. -/
theorem pause_kept :
    ∃ first moment scene, Timeline {} (first ++ [moment]) scene ∧ moment.time = 300 ∧
      .open ⟨1, .persistent⟩ ∈ moment.beat.effects ∧ .open ⟨0, .persistent⟩ ∈ asked (beats first) ∧
      .retire 0 ∈ asked (beats first) ∧ Occasion {} first moment := by
  have opening := (@Timeline.dawn {}).arrive
    (.init ⟨"S1"⟩ ⟨"T1"⟩ false) nofun |>.handle { input := .init ⟨"S1"⟩ ⟨"T1"⟩ false } rfl
  have again := opening.arrive (.init ⟨"S2"⟩ ⟨"T2"⟩ false) nofun
    |>.handle { input := .init ⟨"S2"⟩ ⟨"T2"⟩ false } rfl
  have due := again.wait 300 rfl (by decide +kernel) (by decide +kernel)
  have rung := @Timeline.ring _ _ _ due [] [] 300 .settle ⟨2⟩
    (by decide +kernel) (by decide +kernel)
  have settled := rung.handle { input := .expired .settle ⟨2⟩ } rfl
  obtain ⟨first, moment, scene, line, time, opened, earlier⟩ :
      ∃ first moment scene, Timeline {} (first ++ [moment]) scene ∧ moment.time = 300 ∧
        .open ⟨1, .persistent⟩ ∈ moment.beat.effects ∧
          .open ⟨0, .persistent⟩ ∈ asked (beats first) := by
    refine ⟨[_, _], _, _, settled, ?_, ?_, ?_⟩
    all_goals decide +kernel
  obtain ⟨retired, occasion⟩ := pause_before_opening line opened
  exact ⟨first, moment, scene, line, time, opened, earlier, retired _ earlier, occasion⟩

/-- Brought a third time while the delay runs, credentials cut it short. -/
theorem pause_cut_short :
    ¬∀ (config : SessionConfig) (first rest : List Moment) (moment : Moment) (scene : Scene),
      Timeline config (first ++ moment :: rest) scene →
        ∀ link, .open link ∈ moment.beat.effects →
          ∀ earlier, .open earlier ∈ asked (beats first) →
            ∃ reset ∈ first, .retire earlier.number ∈ reset.beat.effects ∧
              reset.time + config.settleDelay.toNat ≤ moment.time := by
  intro paused
  have opening := (@Timeline.dawn {}).arrive
    (.init ⟨"S1"⟩ ⟨"T1"⟩ false) nofun |>.handle { input := .init ⟨"S1"⟩ ⟨"T1"⟩ false } rfl
  have again := opening.arrive (.init ⟨"S2"⟩ ⟨"T2"⟩ false) nofun
    |>.handle { input := .init ⟨"S2"⟩ ⟨"T2"⟩ false } rfl
  have soon := again.wait 100 rfl (by decide +kernel) (by decide +kernel)
  have hurried := soon.arrive (.init ⟨"S3"⟩ ⟨"T3"⟩ false) nofun
    |>.handle { input := .init ⟨"S3"⟩ ⟨"T3"⟩ false } rfl
  obtain ⟨reset, member, -, passed⟩ := paused {} [_, _] [] _ _ hurried ⟨1, .persistent⟩
    (by decide +kernel) ⟨0, .persistent⟩ (by decide +kernel)
  exact absurd (Nat.le_trans (Nat.le_add_left ..) passed) (by decide +kernel)

end Tether.Session
