/-
# Tether.Proofs.Session.Silence -- a connection is lost when nothing was heard for too long

While a session is ready it listens for silence.  What it hears counts: the reply that
welcomes it, every frame with a token, except a ping that it could not answer.  What
counts starts a timer anew, so the timer that is pending was started by the last of what
counted (`Attentive`).  Each start has a ticket of its own (`started_once`), so the expiry
that marks the connection lost is that of the last start; and on a clock it comes when the
timeout has passed, no sooner and no later.

The indicator goes up and down with the mark, as long as the session is ready.

* `Telling.heeds` -- what a beat does to the watch for silence, and to the indicator.
* `Life.attentive` -- the watch of a ready session was begun by the last of what counted.
* `lost_after_silence` -- on a clock, the connection is lost once the timeout has passed.
-/
import Tether.Proofs.Session.Retries
import Tether.Proofs.Session.Tenure
import Tether.Proofs.Session.Tidings

set_option autoImplicit false

namespace Tether.Session

/-! ## What counts -/

/-- Whether what the server says counts.  A ping does if its answer was accepted. -/
def counted? (accepting : Bool) : Option Word → Bool
  | some .welcome => true
  | some (.frame remainder) => decide (remainder ≠ Frame.ping) || accepting
  | none => false

def Beat.counts (beat : Beat) : Bool := counted? beat.turn.accepting beat.word

/-- Empty frames and rejected requests do not count, in whatever phase they come. -/
theorem Beat.counts_idle {beat : Beat} {number : Nat} {data : String}
    (message : beat.turn.input = .transport number (.message data))
    (idle : data = "" ∨ data = Frame.invalidRequest) : beat.counts = false := by
  have unread : ∀ s : Session, s.reads number data = none := by
    intro s
    unfold reads
    rcases idle with rfl | rfl
    · split <;> rfl
    · split <;> rfl
  have unheard : beat.heard = none := by
    unfold Beat.heard
    rw [message]
    split
    · show (if _ then beat.before.reads number data else none) = none
      rw [unread, ite_self]
    · rfl
  rw [Beat.counts, Beat.word, unheard]
  rfl

/-! ## The indicator -/

def indicated : Effect → Option Bool
  | .show .connectionLost => some true
  | .show .connectionRestored => some false
  | _ => none

/-- Whether the indicator is up after these effects, if it was as `before` says. -/
def indicator (before : Bool) (effects : List Effect) : Bool :=
  (effects.filterMap indicated).getLast?.getD before

theorem indicator_append (before : Bool) (first second : List Effect) :
    indicator before (first ++ second) = indicator (indicator before first) second := by
  unfold indicator
  rw [List.filterMap_append, List.getLast?_append]
  cases (second.filterMap indicated).getLast? <;> rfl

theorem indicator_tidings (before : Bool) (effects : List Effect) :
    indicator before effects = indicator before (tidings effects) := by
  have silent : ∀ effect, voiced effect = false → indicated effect = none := by
    intro effect silent
    unfold indicated
    split
    · cases silent
    · cases silent
    · rfl
  rw [indicator, filterMap_tidings silent]
  rfl

/-! ## The watch for silence -/

/-- What a beat that leaves the session ready does to the watch for silence. -/
inductive Heeds (timeout : Nat) (v w : Outlook) (input : Input) (given : List Effect) :
    Bool → Prop
  /-- It begins anew. -/
  | anew (started : .start .silence w.health.timer.ticket timeout ∈ given)
      (well : w.health.lost = false) : Heeds timeout v w input given true
  /-- It goes on. -/
  | on (phase : v.phase = .ready) (same : w.health = v.health) : Heeds timeout v w input given false
  /-- It ends: there was silence for too long. -/
  | out (phase : v.phase = .ready) (due : input = .expired .silence v.health.timer.ticket)
      (same : w.health.timer.ticket = v.health.timer.ticket) : Heeds timeout v w input given false

section Tellings

variable {setup : Setup} {accepting : Bool} {v w : Outlook} {input : Input} {word : Option Word}
  {given : List Effect}

theorem Setback.unready (setback : Setback v w given) : w.phase ≠ .ready := by
  cases setback <;> exact nofun

theorem Telling.heeds (telling : Telling setup accepting v input word w given)
    (ready : w.phase = .ready) :
    Heeds setup.config.silenceTimeout.toNat v w input given (counted? accepting word) := by
  cases telling with
  | still => exact .on ready rfl
  | denied => exact .on ready rfl
  | unable => exact .on ready rfl
  | welcome => exact .anew (List.mem_append_left _ (List.mem_cons_self ..)) rfl
  | frame phase remainder taken =>
      have counts : counted? accepting (some (.frame remainder)) = true := by
        show (decide (remainder ≠ Frame.ping) || accepting) = true
        by_cases ping : remainder = Frame.ping
        · rw [taken ping, Bool.or_true]
        · rw [decide_eq_true ping, Bool.true_or]
      rw [counts]
      refine .anew ?_ rfl
      exact List.mem_append_left _ (List.mem_append_left _ (List.mem_singleton_self _))
  | silence due => exact .out ready due rfl
  | choke _ _ setback => exact absurd ready setback.unready
  | setback setback => exact absurd ready setback.unready
  | rebuff _ _ setback => exact absurd ready setback.unready
  | unanswered _ _ setback => exact absurd ready setback.unready
  | greet | renew | granted | reconnect | breach | refresh | giveUp | close => cases ready

/-- The indicator goes up and down with the mark. -/
theorem Telling.indicates (telling : Telling setup accepting v input word w given)
    (ready : w.phase = .ready) {shown : Bool} (before : v.phase = .ready → shown = v.health.lost) :
    indicator shown given = w.health.lost := by
  cases telling with
  | still => exact before ready
  | denied => exact before ready
  | unable => exact before ready
  | silence => rfl
  | welcome =>
      unfold Outlook.verdict
      split <;> split <;> rfl
  | frame phase remainder =>
      have relieved : indicator shown v.relief = false := by
        rw [before phase]
        unfold Outlook.relief
        cases v.health.lost <;> rfl
      have delivered : ∀ shown, indicator shown (delivery remainder) = shown := by
        intro shown
        unfold delivery
        split <;> rfl
      have watched : indicator shown (v.watch setup) = shown := rfl
      rw [indicator_append, indicator_append, watched, relieved, delivered]
      rfl
  | choke _ _ setback => exact absurd ready setback.unready
  | setback setback => exact absurd ready setback.unready
  | rebuff _ _ setback => exact absurd ready setback.unready
  | unanswered _ _ setback => exact absurd ready setback.unready
  | greet | renew | granted | reconnect | breach | refresh | giveUp | close => cases ready

/-- A silence timer that is started has a ticket that is new, and runs for the timeout. -/
theorem Telling.watches (telling : Telling setup accepting v input word w given) {ticket : Ticket}
    {delay : Nat} (started : .start .silence ticket delay ∈ given) :
    ticket = v.health.timer.schedule.ticket ∧ delay = setup.config.silenceTimeout.toNat := by
  have spared : ∀ {v w : Outlook} {given : List Effect}, Setback v w given →
      .start .silence ticket delay ∉ given := by
    intro v w given setback member
    cases setback <;> simp [Outlook.verdict, surrender] at member
  cases telling with
  | welcome =>
      simp [Outlook.watch, Outlook.verdict] at started
      exact started
  | frame phase remainder =>
      simp [Outlook.watch, Outlook.relief, delivery] at started
      exact started
  | choke _ _ setback => exact absurd started (spared setback)
  | setback setback => exact absurd started (spared setback)
  | unanswered _ _ setback => exact absurd started (spared setback)
  | rebuff _ _ setback =>
      exact absurd ((List.mem_cons.1 started).resolve_left (by simp)) (spared setback)
  | still | greet | renew | granted | denied | reconnect | unable | breach | silence | refresh |
    giveUp | close => simp [surrender] at started

end Tellings

/-! ## Lives -/

section Lives

variable {config : SessionConfig} {past : List Beat} {s : Session}

/-- How a ready session came to watch for silence: the watch was begun by the last of what counted,
and if the connection is lost its timer ran out since. -/
structure Attentive (config : SessionConfig) (s : Session) (last : Beat) (quiet : List Beat) :
    Prop where
  counts : last.counts = true
  silent : ∀ beat ∈ quiet, beat.before.phase = .ready ∧ beat.counts = false
  started : .start .silence s.health.timer.ticket config.silenceTimeout.toNat ∈ last.effects
  ranOut : s.health.lost = true →
    ∃ beat ∈ quiet, beat.turn.input = .expired .silence s.health.timer.ticket

theorem Attentive.beat {last beat : Beat} {quiet : List Beat}
    (attentive : Attentive config s last quiet) (before : beat.before.phase = .ready)
    (silent : beat.counts = false) {t : Session}
    (ticket : t.health.timer.ticket = s.health.timer.ticket)
    (ranOut : t.health.lost = true → s.health.lost = true ∨
      beat.turn.input = .expired .silence s.health.timer.ticket) :
    Attentive config t last (quiet ++ [beat]) := by
  refine ⟨attentive.counts, ?_, ?_, ?_⟩
  · intro other member
    rcases List.mem_append.1 member with old | new
    · exact attentive.silent other old
    · obtain rfl := List.mem_singleton.1 new
      exact ⟨before, silent⟩
  · rw [ticket]
    exact attentive.started
  · intro lost
    rw [ticket]
    rcases ranOut lost with earlier | now
    · obtain ⟨other, member, due⟩ := attentive.ranOut earlier
      exact ⟨other, List.mem_append_left _ member, due⟩
    · exact ⟨beat, List.mem_append_right _ (List.mem_singleton_self _), now⟩

/-- **The watch of a ready session was begun by the last of what counted.** -/
theorem Life.attentive (life : Life config past s) (ready : s.phase = .ready) :
    ∃ earlier last quiet, past = earlier ++ last :: quiet ∧ Attentive config s last quiet := by
  induction life with
  | fresh => cases ready
  | @beat past s life turn ih =>
      have telling := beat_tells life turn
      have own : (s.beat config turn).before = s := rfl
      have taken : (s.beat config turn).turn = turn := rfl
      generalize s.beat config turn = beat at telling ready own taken ⊢
      have heeds := telling.heeds ready
      have counts : beat.counts = counted? turn.accepting beat.word := by
        rw [Beat.counts, taken]
      rw [← counts] at heeds
      generalize same : beat.counts = counted at heeds
      cases heeds with
      | anew started well =>
          refine ⟨past, beat, [], rfl, same, fun _ member => (List.not_mem_nil member).elim,
            (mem_tidings rfl).1 started, fun lost => ?_⟩
          cases well.symm.trans lost
      | on phase kept =>
          obtain ⟨earlier, last, quiet, rfl, attentive⟩ := ih phase
          have health : beat.after.health = s.health := kept
          refine ⟨earlier, last, quiet ++ [beat], by simp, attentive.beat ?_ same ?_ ?_⟩
          · rw [own]
            exact phase
          · rw [health]
          · rw [health]
            exact .inl
      | out phase due ticket =>
          obtain ⟨earlier, last, quiet, rfl, attentive⟩ := ih phase
          refine ⟨earlier, last, quiet ++ [beat], by simp, attentive.beat ?_ same ticket ?_⟩
          · rw [own]
            exact phase
          · intro _
            rw [taken]
            exact .inr due

/-- While a session is ready, the indicator is up if the connection is lost, and down if not. -/
theorem Life.indicated (life : Life config past s) (ready : s.phase = .ready) :
    indicator false (asked past) = s.health.lost := by
  induction life with
  | fresh => cases ready
  | beat life turn ih =>
      rw [asked_concat, indicator_append, indicator_tidings]
      exact (beat_tells life turn).indicates ready ih

/-- A silence timer is started once under each ticket. -/
theorem started_once {first rest : List Beat} {beat : Beat}
    (life : Life config (first ++ beat :: rest) s) {ticket : Ticket} {delay : Nat}
    (started : .start .silence ticket delay ∈ beat.effects) :
    delay = config.silenceTimeout.toNat ∧ ∀ late, .start .silence ticket late ∉ asked first := by
  obtain ⟨before, same⟩ := life.split
  have telling := beat_tells before beat.turn
  rw [← same] at telling
  obtain ⟨new, usual⟩ := telling.watches ((mem_tidings rfl).2 started)
  refine ⟨usual, fun late again => ?_⟩
  have running : beat.before.running = true := by
    rw [same] at started
    exact running_of_effect started
  have logged : .asked (.start .silence ticket late) ∈ log first := by
    obtain ⟨origin, member, given⟩ := List.mem_flatMap.1 again
    refine List.mem_flatMap.2 ⟨origin, member, ?_⟩
    exact List.mem_cons_of_mem _ (List.mem_map_of_mem given)
  have known := (life_ordered before running (.timer .silence)).latest _ logged ticket.generation
    ⟨rfl, rfl⟩
  rw [new] at known
  exact Nat.not_succ_le_self _ known

end Lives

/-! ## On a clock -/

section Clock

variable {config : SessionConfig} {line : List Moment} {scene : Scene}

/-- Two moments that start the silence timer under one ticket are the same. -/
theorem started_by_one (timeline : Timeline config line scene) {one other : Moment}
    (member : one ∈ line) (also : other ∈ line) {ticket : Ticket} {delay late : Nat}
    (started : .start .silence ticket delay ∈ one.beat.effects)
    (again : .start .silence ticket late ∈ other.beat.effects) : one = other := by
  by_contra different
  have asked_of : ∀ {moment : Moment} {moments : List Moment} {delay : Nat}, moment ∈ moments →
      .start .silence ticket delay ∈ moment.beat.effects →
        .start .silence ticket delay ∈ asked (beats moments) := by
    intro moment moments delay member started
    exact List.mem_flatMap.2 ⟨moment.beat, List.mem_map_of_mem member, started⟩
  obtain ⟨before, after, rfl⟩ := List.append_of_mem member
  have life := timeline.life
  rw [beats, List.map_append, List.map_cons] at life
  rcases List.mem_append.1 also with early | late
  · exact (started_once life started).2 _ (asked_of early again)
  · have later := (List.mem_cons.1 late).resolve_left (Ne.symm different)
    obtain ⟨middle, rest, rfl⟩ := List.append_of_mem later
    have shape : before.map Moment.beat ++ one.beat :: (middle ++ other :: rest).map Moment.beat =
        beats (before ++ one :: middle) ++ other.beat :: beats rest := by simp [beats]
    rw [shape] at life
    have here : one ∈ before ++ one :: middle :=
      List.mem_append_right _ (List.mem_cons_self ..)
    exact (started_once life again).2 _ (asked_of here started)

/-- The expiry of the silence timer comes when the timeout has passed since it was started. -/
theorem silence_on_time (timeline : Timeline config line scene) {last moment : Moment}
    (member : last ∈ line) (among : moment ∈ line) {ticket : Ticket}
    (started : .start .silence ticket config.silenceTimeout.toNat ∈ last.beat.effects)
    (expired : moment.beat.turn.input = .expired .silence ticket) :
    moment.time = last.time + config.silenceTimeout.toNat := by
  obtain ⟨before, after, split⟩ := List.append_of_mem among
  obtain ⟨origin, earlier, delay, given, due⟩ :=
    timeline.timely.handled before moment after split .silence ticket expired
  have inside : origin ∈ line := by
    rw [split]
    exact List.mem_append_left _ earlier
  obtain rfl := started_by_one timeline inside member given started
  obtain ⟨first, rest, rfl⟩ := List.append_of_mem inside
  have life := timeline.life
  rw [beats, List.map_append, List.map_cons] at life
  have usual : delay = config.silenceTimeout.toNat := (started_once life given).1
  rw [due, usual]

/-- **Lost after silence.**  Take a session that is ready, at a moment when all that can happen has
happened.  The connection is lost if and only if the timeout has passed since the last of what
counted: the welcome of this ready period, or a frame of it with a token, other than a ping that
could not be answered.  Empty frames and rejected requests never count.  And the indicator is up if
and only if the connection is lost. -/
theorem lost_after_silence (timeline : Timeline config line scene) (calm : scene.Calm)
    (ready : scene.session.phase = .ready)
    (finite : config.silenceTimeout.toNat < Clock.never) :
    (∃ earlier last quiet, line = earlier ++ last :: quiet ∧ last.beat.counts = true ∧
      (∀ moment ∈ quiet, moment.beat.before.phase = .ready ∧ moment.beat.counts = false) ∧
      (scene.session.status.connectionLost = true ↔
        last.time + config.silenceTimeout.toNat ≤ scene.clock.now)) ∧
    (∀ moment ∈ line, ∀ number data, (data = "" ∨ data = Frame.invalidRequest) →
      moment.beat.turn.input = .transport number (.message data) → moment.beat.counts = false) ∧
    indicator false (asked (beats line)) = scene.session.status.connectionLost := by
  have life := timeline.life
  refine ⟨?_, ?_, life.indicated ready⟩
  · obtain ⟨earlier, last, quiet, split, attentive⟩ := life.attentive ready
    obtain ⟨before, moment, after, rfl, rfl, rfl, rfl⟩ := beats_split split
    have here : moment ∈ before ++ moment :: after :=
      List.mem_append_right _ (List.mem_cons_self ..)
    refine ⟨before, moment, after, rfl, attentive.counts, ?_, ?_⟩
    · exact fun other member => attentive.silent other.beat (List.mem_map_of_mem member)
    · constructor
      · intro lost
        obtain ⟨beat, member, expired⟩ := attentive.ranOut lost
        obtain ⟨other, later, rfl⟩ := List.mem_map.1 member
        have among : other ∈ before ++ moment :: after :=
          List.mem_append_right _ (List.mem_cons_of_mem _ later)
        rw [← silence_on_time timeline here among attentive.started expired]
        exact timeline.elapsed other among
      · intro passed
        -- Were it not lost, the timer would run still, and its alarm would lie ahead.
        by_contra well
        have kept : scene.session.health.lost = false := Bool.eq_false_iff.2 well
        have coherent : scene.session.Coherent False := (life_coherent life).weaken False.elim
        have flowing := (arranged_ready ready).1 coherent.arranged
        have pending : scene.session.health.timer.pending = true := by
          rw [flowing.silence, kept]
          rfl
        have running : scene.session.running = true := by
          by_contra stopped
          cases (life_stopped life (Bool.eq_false_iff.2 stopped)).symm.trans ready
        have runs : ¬Over (log (beats (before ++ moment :: after))) (.timer .silence)
            scene.session.health.timer.ticket.generation := by
          intro ended
          have ordered := life_ordered life running (.timer .silence)
          cases (ordered.finished _ ended rfl).symm.trans pending
        have ahead := (timeline.due here attentive.started finite runs).2 calm
        exact Nat.not_le.2 ahead passed
  · intro moment member number data idle message
    exact Beat.counts_idle message idle

end Clock

/-- A session is welcomed, hears one frame a second later, and then nothing for the timeout. -/
theorem lost_after_one_frame :
    ∃ line scene, Timeline {} line scene ∧ scene.Calm ∧ scene.session.phase = .ready ∧
      scene.clock.now = 41000 ∧ scene.session.status.connectionLost = true ∧
      ∃ earlier last quiet, line = earlier ++ last :: quiet ∧ last.beat.counts = true ∧
        (∀ moment ∈ quiet, moment.beat.before.phase = .ready ∧ moment.beat.counts = false) ∧
        (scene.session.status.connectionLost = true ↔ last.time + 40000 ≤ scene.clock.now) := by
  have opening := (@Timeline.dawn {}).arrive
    (.init ⟨"S1"⟩ ⟨"T1"⟩ false) nofun |>.handle { input := .init ⟨"S1"⟩ ⟨"T1"⟩ false } rfl
  have greeting := opening.arrive (.transport 0 .opened) nofun
    |>.handle { input := .transport 0 .opened } rfl
  have ready := greeting.arrive (.transport 0 (.message "I1&K0")) nofun
    |>.handle { input := .transport 0 (.message "I1&K0") } rfl
  have second := ready.wait 1000 rfl (by decide +kernel) (by decide +kernel)
  have heard := second.arrive (.transport 0 (.message "K1&")) nofun
    |>.handle { input := .transport 0 (.message "K1&") } rfl
  have due := heard.wait 41000 rfl (by decide +kernel) (by decide +kernel)
  have rung := @Timeline.ring _ _ _ due [] [] 41000 .silence ⟨3⟩
    (by decide +kernel) (by decide +kernel)
  have silent := rung.handle { input := .expired .silence ⟨3⟩ } rfl
  obtain ⟨line, scene, timeline, calm, phase, now, lost⟩ :
      ∃ line scene, Timeline {} line scene ∧ scene.Calm ∧ scene.session.phase = .ready ∧
        scene.clock.now = 41000 ∧ scene.session.status.connectionLost = true := by
    refine ⟨_, _, silent, ⟨rfl, ?_⟩, ?_, ?_, ?_⟩
    all_goals decide +kernel
  exact ⟨line, scene, timeline, calm, phase, now, lost,
    (lost_after_silence timeline calm phase (by decide)).1⟩

end Tether.Session
