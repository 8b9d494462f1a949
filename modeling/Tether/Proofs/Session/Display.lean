/-
# Tether.Proofs.Session.Display -- what the user sees while a session reconnects

While a session reconnects there is no connection, and the connection-lost indicator is to say so.
Nothing ties the two together.  The indicator goes up with a failure, and when there was silence
for too long; it goes down with a handshake, and with a frame after silence.  The session comes to
reconnect by a failure, or because the user asks for it, which does not touch the indicator.  The
user can ask in three cases, and in two of them it is up:

    waiting for a retry     up, since the failure
    connection lost         up, since the silence
    given up                up, if that was over a failure

A session that gave up over a frame that broke the protocol had a connection until then, and has
the indicator where it was (`BrokenOff`).

* `Beat.Turns` -- the beats that turn the indicator, whatever was shown before.
* `descent_of_beat`, `indicates_of_down` -- what a beat does to the indicator on the way to `failed`
  and `reconnecting`, and there.
* `shown_unless_broken_off` -- when the indicator is up while a session reconnects.
-/
import Tether.Proofs.Session.Silence

set_option autoImplicit false

namespace Tether.Session

def Beat.Turns (beat : Beat) : Prop :=
  beat.befell = some .failure ∨ ∃ instanceId, beat.befell = some (.welcome instanceId)

/-- A frame broke the protocol while the connection was not lost, and since then there was neither
a failure nor a handshake. -/
def BrokenOff (past : List Beat) : Prop :=
  ∃ first broken rest, past = first ++ broken :: rest ∧ broken.befell = some .breach ∧
    broken.before.status.connectionLost = false ∧ ∀ beat ∈ rest, ¬beat.Turns

section BrokenOff

variable {past : List Beat} {beat : Beat}

theorem brokenOff_turned (turns : beat.Turns) : ¬BrokenOff (past ++ [beat]) := by
  rintro ⟨first, broken, rest, split, breach, -, still⟩
  rcases split_append split with ⟨middle, -, new⟩ | ⟨middle, -, rfl⟩
  · cases middle with
    | nil =>
        obtain ⟨rfl, -⟩ := List.cons.inj new
        rcases turns with failure | ⟨instanceId, welcome⟩
        · cases breach.symm.trans failure
        · cases breach.symm.trans welcome
    | cons head tail => simp at new
  · exact still beat (List.mem_append_right _ (List.mem_singleton_self _)) turns

theorem brokenOff_breach (breach : beat.befell = some .breach) (unbroken : ¬BrokenOff past) :
    BrokenOff (past ++ [beat]) ↔ beat.before.status.connectionLost = false := by
  constructor
  · rintro ⟨first, broken, rest, split, broke, well, still⟩
    rcases split_append split with ⟨middle, -, new⟩ | ⟨middle, old, rfl⟩
    · cases middle with
      | nil =>
          obtain ⟨rfl, -⟩ := List.cons.inj new
          exact well
      | cons head tail => simp at new
    · refine absurd ⟨first, broken, middle, old, broke, well, fun other member => ?_⟩ unbroken
      exact still other (List.mem_append_left _ member)
  · exact fun well => ⟨past, beat, [], rfl, breach, well, fun _ none => (List.not_mem_nil none).elim⟩

theorem brokenOff_kept (unfailed : beat.befell ≠ some .failure)
    (unwelcomed : ∀ instanceId, beat.befell ≠ some (.welcome instanceId))
    (sound : beat.befell ≠ some .breach) : BrokenOff (past ++ [beat]) ↔ BrokenOff past := by
  constructor
  · rintro ⟨first, broken, rest, split, broke, well, kept⟩
    rcases split_append split with ⟨middle, -, new⟩ | ⟨middle, old, rfl⟩
    · cases middle with
      | nil =>
          obtain ⟨rfl, -⟩ := List.cons.inj new
          exact absurd broke sound
      | cons head tail => simp at new
    · refine ⟨first, broken, middle, old, broke, well, fun other member => ?_⟩
      exact kept other (List.mem_append_left _ member)
  · rintro ⟨first, broken, rest, rfl, broke, well, kept⟩
    refine ⟨first, broken, rest ++ [beat], by simp, broke, well, fun other member => ?_⟩
    rcases List.mem_append.1 member with earlier | last
    · exact kept other earlier
    · rw [List.mem_singleton.1 last]
      rintro (failure | ⟨instanceId, welcome⟩)
      · exact unfailed failure
      · exact unwelcomed instanceId welcome

end BrokenOff

/-! ## What the handlers do to the indicator -/

/-- Effects without a sign leave the indicator where it was. -/
theorem indicator_kept {before : Bool} {effects : List Effect}
    (none : effects.filterMap indicated = []) : indicator before effects = before := by
  rw [indicator, none]
  rfl

theorem indicator_raised {before : Bool} {effects : List Effect}
    (up : effects.filterMap indicated = [true]) : indicator before effects = true := by
  rw [indicator, up]
  rfl

/-- What an incident does to the indicator while a session reconnects or has given up. -/
def upturn : Option Incident → List Bool
  | some .failure => [true]
  | _ => []

section Handlers

variable (setup : Setup) (accepting : Bool) {s t : Session} {v w : Outlook} {given : List Effect}

/-- The indicator is turned by what is voiced. -/
theorem indicated_tidings (effects : List Effect) :
    effects.filterMap indicated = (tidings effects).filterMap indicated := by
  refine filterMap_tidings (fun effect silent => ?_) effects
  cases effect <;> first | rfl | cases silent

theorem Voices.indicates (after : t.Voices v given) :
    t.outbox.filterMap indicated = given.filterMap indicated := by
  rw [indicated_tidings, after.gives]

/-- What is not voiced leaves the indicator alone. -/
theorem indicates_silent (silent : tidings t.outbox = []) : t.outbox.filterMap indicated = [] :=
  Voices.indicates ⟨rfl, silent⟩

/-- A failure puts the indicator up. -/
theorem Setback.indicates (setback : Setback v w given) : given.filterMap indicated = [true] := by
  cases setback with
  | again =>
      unfold Outlook.verdict
      split <;> rfl
  | beaten failures =>
      unfold Outlook.verdict
      split <;> rfl

/-- A call to reconnect leaves it alone. -/
theorem reconnect_indicates (empty : s.outbox = []) :
    s.reconnect.outbox.filterMap indicated = [] := by
  have before := mute empty
  cases allowed : s.canReconnect with
  | false =>
      unfold reconnect
      rw [allowed]
      exact before.indicates
  | true =>
      cases known : s.instanceId with
      | none =>
          unfold reconnect
          rw [if_pos allowed, known]
          exact (before.perform (.show .reconnectFailed)).indicates
      | some instanceId =>
          rw [reconnect_eq allowed known, request_eq]
          refine indicates_silent ?_
          refine unvoiced (unvoiced (unvoiced (unvoiced (unvoiced before.gives ?_) ?_) ?_) ?_) rfl
          · exact tidings_revocation ..
          · exact tidings_retirement _
          · exact tidings_revocation ..
          · exact tidings_withdrawal _

/-- So does a retry. -/
theorem onRetry_indicates (coherent : s.Coherent False) (empty : s.outbox = []) :
    ((s.claimed .retry).onRetry setup).outbox.filterMap indicated = [] := by
  have before : (s.claimed .retry).Voices s.outlook [] := ⟨rfl, (mute empty).gives⟩
  unfold onRetry
  split
  · split
    · rw [request_eq]
      exact indicates_silent (unvoiced (unvoiced before.gives (tidings_withdrawal _)) rfl)
    · split
      · rename_i session token held tokenHeld _
        have usable : (session.isEmpty || token.isEmpty) = false := by
          rw [coherent.credited.1 session held, coherent.credited.2 token tokenHeld, Bool.or_false]
        exact (before.init setup usable false).indicates
      · exact before.giveUp.indicates
  · exact before.indicates

/-- A reply puts it up if the request failed. -/
theorem onReply_indicates (coherent : s.Coherent False) (empty : s.outbox = [])
    (requesting : s.requesting = true) (manual : Bool) (reply : Option ReconnectReply) :
    (s.answered.onReply setup manual reply).outbox.filterMap indicated =
      upturn (Incident.ofReply reply) := by
  have phase := coherent.arranged.awaits_reply requesting
  have marked : ({ s.answered with manualPending := manual } : Session).Voices
      { s.outlook with manual := manual } [] := ⟨rfl, (mute empty).gives⟩
  match reply with
  | some (.credentials session token) =>
      rw [Incident.ofReply]
      show (({ s.answered with manualPending := manual } : Session).init setup session token
        false).outbox.filterMap indicated = _
      cases usable : session.isEmpty || token.isEmpty with
      | true =>
          rw [init_empty setup usable]
          exact marked.indicates
      | false => exact (marked.init setup usable false).indicates
  | some .refresh =>
      have before : s.answered.Voices s.outlook [] := ⟨rfl, (mute empty).gives⟩
      exact ((before.teardown .idle).perform (.event .reloadRequested)).indicates
  | none =>
      have alive : s.Alive := alive_of_phase phase (by decide)
      obtain ⟨w, more, setback, after⟩ := marked.fail setup alive
      exact after.indicates.trans setback.indicates

/-- While a session reconnects or has given up, a failure is all that turns the indicator. -/
theorem down_indicates (coherent : s.Coherent False) (empty : s.outbox = [])
    (down : s.phase = .failed ∨ s.phase = .reconnecting) (input : Input) :
    (s.handle setup accepting input).outbox.filterMap indicated =
      upturn (s.befalls accepting input) := by
  have before := mute empty
  have unready : s.phase ≠ .ready := by rcases down with phase | phase <;> simp [phase]
  have unused : s.active = none := by
    rcases down with phase | phase
    · exact ((arranged_failed phase).1 coherent.arranged).active
    · exact ((arranged_reconnecting phase).1 coherent.arranged).active
  cases input with
  | init session token forced =>
      show (s.init setup session token forced).outbox.filterMap indicated =
        upturn (if _ then none else _)
      cases usable : session.isEmpty || token.isEmpty with
      | true =>
          rw [init_empty setup usable]
          exact before.indicates
      | false => exact (before.init setup usable forced).indicates
  | send call task fields =>
      have busy : s.befalls accepting (.send call task fields) = none :=
        if_neg fun both => unready both.1
      rw [busy]
      show ((s.send setup accepting task fields).2.outbox ++ [Effect.answer call _]).filterMap
        indicated = _
      rw [List.filterMap_append, send_unready setup accepting task fields unready,
        before.indicates]
      rfl
  | reconnect =>
      rw [befalls]
      refine (reconnect_indicates empty).trans ?_
      split <;> rfl
  | close => exact (before.teardown .idle).indicates
  | expired timer ticket =>
      rw [handle_expired, befalls]
      split
      · rename_i current
        cases timer with
        | retry => exact onRetry_indicates setup coherent empty
        | settle =>
            have phase := (coherent.arranged.awaits_settle current.2).1
            rcases down with failed | reconnecting
            · cases phase.symm.trans failed
            · cases phase.symm.trans reconnecting
        | silence => cases (coherent.arranged.unwatched unready).symm.trans current.2
      · exact before.indicates
  | resolved attempt manual reply =>
      rw [handle_resolved, befalls]
      split
      · exact onReply_indicates setup coherent empty (And.right ‹_›) manual reply
      · exact before.indicates
  | transport number event =>
      have other : s.active.map (·.number) ≠ some number := by
        rw [unused]
        intro same
        cases same
      rw [befalls, if_neg other]
      show (s.onTransport setup accepting number event).outbox.filterMap indicated = _
      rw [onTransport_stale setup accepting other]
      exact before.indicates

end Handlers

/-! ## Beats -/

def Reported (effects : List Effect) : Prop := ∃ data, .event (.fault (.framing data)) ∈ effects

theorem reported_iff (effects : List Effect) :
    Reported (marks effects) ↔ Reported (tidings effects) :=
  exists_congr fun _ => (mem_marks rfl).trans (mem_tidings rfl).symm

section Cases

variable {setup : Setup} {accepting : Bool} {input : Input} {given : List Effect}

/-- The incidents that leave a session failed or reconnecting, if it was neither before. -/
theorem Upshot.descends {v w : Footing} {incident : Option Incident}
    (upshot : Upshot setup v incident w given)
    (other : v.phase ≠ .failed ∧ v.phase ≠ .reconnecting)
    (down : w.phase = .failed ∨ w.phase = .reconnecting) :
    incident = some .failure ∧ ¬Reported given ∨
      incident = some .breach ∧ v.phase = .ready ∧ Reported given ∨
        incident = some .reconnect ∧ v.phase = .ready := by
  have level : ¬(v.phase = .failed ∨ v.phase = .reconnecting) := not_or.2 other
  have fresh : ∀ {forced : Bool} {w : Footing} {given : List Effect}, Anew setup forced v w given →
      ¬(w.phase = .failed ∨ w.phase = .reconnecting) := by
    intro forced w given anew
    cases anew <;> exact not_or.2 ⟨nofun, nofun⟩
  cases upshot with
  | still | heard | settled => exact absurd down level
  | idle phase | request phase | reuse phase | credentials phase | giveUp phase | refresh phase =>
      exact absurd phase other.2
  | start anew => exact absurd down (fresh anew)
  | greet | welcome | close => rcases down with phase | phase <;> cases phase
  | setBack => exact .inl ⟨rfl, by simp [Reported, retirement]⟩
  | beaten => exact .inl ⟨rfl, by simp [Reported, retirement, surrender]⟩
  | breach phase data => exact .inr (.inl ⟨rfl, phase, data, by simp⟩)
  | reconnect allowed =>
      rcases allowed with phase | phase | phase
      · exact absurd phase other.2
      · exact absurd phase other.1
      · exact .inr (.inr ⟨rfl, phase⟩)

theorem Setback.unreported {v w : Outlook} (setback : Setback v w given) : ¬Reported given := by
  rintro ⟨data, member⟩
  cases setback <;> simp [Outlook.verdict, surrender] at member

/-- What such a session lets the user see. -/
theorem Telling.descends {v w : Outlook} {word : Option Word}
    (telling : Telling setup accepting v input word w given)
    (other : v.phase ≠ .failed ∧ v.phase ≠ .reconnecting)
    (down : w.phase = .failed ∨ w.phase = .reconnecting) :
    given.filterMap indicated = [true] ∧ ¬Reported given ∨
      given.filterMap indicated = [] ∧ Reported given ∨ input = .reconnect := by
  have level : ¬(v.phase = .failed ∨ v.phase = .reconnecting) := not_or.2 other
  cases telling with
  | still | denied | unable | silence | frame => exact absurd down level
  | giveUp phase => exact absurd phase other.2
  | greet | renew | granted | welcome | refresh | close =>
      rcases down with phase | phase <;> cases phase
  | reconnect asked => exact .inr (.inr asked)
  | breach phase data => exact .inr (.inl ⟨rfl, data, by simp⟩)
  | choke _ _ setback => exact .inl ⟨setback.indicates, setback.unreported⟩
  | setback setback => exact .inl ⟨setback.indicates, setback.unreported⟩
  | unanswered _ _ setback => exact .inl ⟨setback.indicates, setback.unreported⟩
  | rebuff _ fault setback =>
      refine .inl ⟨setback.indicates, ?_⟩
      rintro ⟨data, member⟩
      exact setback.unreported ⟨data, (List.mem_cons.1 member).resolve_left nofun⟩

end Cases

section Beats

variable {config : SessionConfig} {past : List Beat} {s : Session} {turn : Turn}

/-- The incident of a call to reconnect. -/
theorem befell_reconnect (befell : (s.beat config turn).befell = some .reconnect) :
    s.running = true ∧ turn.input = .reconnect ∧ s.canReconnect = true := by
  obtain ⟨running, befalls⟩ := befell_some befell
  have called : turn.input = .reconnect := befalls_causes befalls
  have allowed : s.befalls turn.accepting turn.input = some .reconnect := befalls
  rw [called, Session.befalls] at allowed
  split at allowed
  · exact ⟨running, called, And.left ‹_›⟩
  · cases allowed

/-- Nothing else befalls a session that is asked to reconnect. -/
theorem befell_of_reconnect (beat : Beat) (called : beat.turn.input = .reconnect) :
    beat.befell = none ∨ beat.befell = some .reconnect := by
  unfold Beat.befell
  rw [called, befalls]
  split
  · split
    · exact .inr rfl
    · exact .inl rfl
  · exact .inl rfl

/-- How a beat that leaves a session failed or reconnecting bears on the indicator, if the session
was neither before. -/
inductive Descent (s : Session) (beat : Beat) : Prop
  | failure (befell : beat.befell = some .failure) (up : beat.effects.filterMap indicated = [true])
  | breach (phase : s.phase = .ready) (befell : beat.befell = some .breach)
      (kept : beat.effects.filterMap indicated = [])
  /-- The user asks while the connection is lost. -/
  | asked (phase : s.phase = .ready) (lost : s.health.lost = true)
      (befell : beat.befell = some .reconnect) (kept : beat.effects.filterMap indicated = [])

theorem descent_of_beat (life : Life config past s) (turn : Turn)
    (other : s.phase ≠ .failed ∧ s.phase ≠ .reconnecting)
    (down : (s.beat config turn).after.phase = .failed ∨
      (s.beat config turn).after.phase = .reconnecting) :
    Descent s (s.beat config turn) := by
  have telling := (beat_tells life turn).descends other down
  rw [← indicated_tidings, ← reported_iff] at telling
  rcases (beat_upshot life turn).descends other down with
    ⟨failure, unreported⟩ | ⟨breach, phase, reported⟩ | ⟨asked, phase⟩
  · rcases telling with ⟨up, -⟩ | ⟨-, reported⟩ | called
    · exact .failure failure up
    · exact absurd reported unreported
    · rcases befell_of_reconnect (s.beat config turn) called with none | again
      · cases failure.symm.trans none
      · cases failure.symm.trans again
  · rcases telling with ⟨-, unreported⟩ | ⟨kept, -⟩ | called
    · exact absurd reported unreported
    · exact .breach phase breach kept
    · rcases befell_of_reconnect (s.beat config turn) called with none | again
      · cases breach.symm.trans none
      · cases breach.symm.trans again
  · obtain ⟨running, called, allowed⟩ := befell_reconnect asked
    have ready : s.phase = .ready := phase
    have lost : s.health.lost = true := by
      rw [canReconnect, ready] at allowed
      exact allowed
    refine .asked ready lost asked ?_
    rw [(beat_running running life.outbox turn).2, called]
    exact reconnect_indicates life.outbox

/-- While a session reconnects or has given up, a failure is all that turns the indicator. -/
theorem indicates_of_down (life : Life config past s)
    (down : s.phase = .failed ∨ s.phase = .reconnecting) (turn : Turn) :
    (s.beat config turn).effects.filterMap indicated = upturn (s.beat config turn).befell := by
  have running : s.running = true := by
    cases running : s.running with
    | true => rfl
    | false => rcases down with phase | phase <;> cases (life_stopped life running).symm.trans phase
  have befell : (s.beat config turn).befell = s.befalls turn.accepting turn.input :=
    befell_running running
  rw [(beat_running running life.outbox turn).2, befell]
  have coherent := life.coherent
  exact down_indicates (turn.setup config) turn.accepting coherent life.outbox down turn.input

/-! ## Lives -/

/-- A session that is ready had a handshake, and nothing broke the protocol since. -/
theorem Upshot.stays_ready {setup : Setup} {v w : Footing} {incident : Option Incident}
    {given : List Effect} (upshot : Upshot setup v incident w given) (after : w.phase = .ready) :
    (∃ instanceId, incident = some (.welcome instanceId)) ∨
      v.phase = .ready ∧ (incident = none ∨ incident = some .heard) := by
  have fresh : ∀ {forced : Bool} {w : Footing} {given : List Effect}, Anew setup forced v w given →
      w.phase ≠ .ready := by
    intro forced w given anew
    cases anew <;> exact nofun
  cases upshot with
  | welcome phase instanceId => exact .inl ⟨instanceId, rfl⟩
  | still => exact .inr ⟨after, .inl rfl⟩
  | heard => exact .inr ⟨after, .inr rfl⟩
  | idle phase | request phase | settled phase => cases phase.symm.trans after
  | start anew => exact absurd after (fresh anew)
  | credentials _ anew => exact absurd after (fresh anew)
  | reuse _ _ _ anew => exact absurd after (fresh anew)
  | greet | setBack | beaten | breach | refresh | reconnect | giveUp | close => cases after

theorem life_unbroken (life : Life config past s) (ready : s.phase = .ready) : ¬BrokenOff past := by
  induction life with
  | fresh => cases ready
  | @beat past s life turn ih =>
      rcases (beat_upshot life turn).stays_ready ready with welcome | ⟨before, befell⟩
      · exact brokenOff_turned (.inr welcome)
      -- Nothing befell the session but that it heard a frame, if that.
      · have kept : BrokenOff (past ++ [s.beat config turn]) ↔ BrokenOff past := by
          rcases befell with none | heard
          · exact brokenOff_kept (by simp [none]) (by simp [none]) (by simp [none])
          · exact brokenOff_kept (by simp [heard]) (by simp [heard]) (by simp [heard])
        rw [kept]
        exact ih before

/-- A session that reconnects or has given up hears neither a handshake nor a frame. -/
theorem Upshot.deaf {setup : Setup} {v w : Footing} {incident : Option Incident}
    {given : List Effect} (upshot : Upshot setup v incident w given)
    (down : v.phase = .failed ∨ v.phase = .reconnecting) :
    incident ≠ some .breach ∧ ∀ instanceId, incident ≠ some (.welcome instanceId) := by
  cases upshot with
  | welcome phase | breach phase =>
      rcases down with before | before <;> cases phase.symm.trans before
  | _ => exact ⟨nofun, nofun⟩

/-- A session that is down stays as it is shown, unless it fails again. -/
theorem display_down (life : Life config past s)
    (down : s.phase = .failed ∨ s.phase = .reconnecting) (turn : Turn)
    (shown : indicator false (asked past) = true ↔ ¬BrokenOff past) :
    indicator false (asked (past ++ [s.beat config turn])) = true ↔
      ¬BrokenOff (past ++ [s.beat config turn]) := by
  rw [asked_concat, indicator_append]
  have turned := indicates_of_down life down turn
  obtain ⟨sound, unwelcomed⟩ := (beat_upshot life turn).deaf down
  by_cases failure : (s.beat config turn).befell = some .failure
  · rw [failure] at turned
    exact iff_of_true (indicator_raised turned) (brokenOff_turned (.inl failure))
  · have none : upturn (s.beat config turn).befell = [] := by
      unfold upturn
      split
      · exact absurd ‹_› failure
      · rfl
    rw [indicator_kept (turned.trans none), brokenOff_kept failure unwelcomed sound]
    exact shown

/-- A session that goes down fails, or else it is shown as it was while it was ready. -/
theorem display_descent (life : Life config past s) {turn : Turn}
    (descent : Descent s (s.beat config turn)) :
    indicator false (asked (past ++ [s.beat config turn])) = true ↔
      ¬BrokenOff (past ++ [s.beat config turn]) := by
  rw [asked_concat, indicator_append]
  cases descent with
  | failure failure up =>
      exact iff_of_true (indicator_raised up) (brokenOff_turned (.inl failure))
  | breach phase breach none =>
      rw [indicator_kept none, life.indicated phase,
        brokenOff_breach breach (life_unbroken life phase)]
      show _ ↔ ¬s.health.lost = false
      rw [Bool.not_eq_false]
  | asked phase lost asked none =>
      rw [indicator_kept none, life.indicated phase, lost,
        brokenOff_kept (by simp [asked]) (by simp [asked]) (by simp [asked])]
      exact iff_of_true rfl (life_unbroken life phase)

/-- **Where the indicator is while a session reconnects or has given up.** -/
theorem life_display (life : Life config past s)
    (down : s.phase = .failed ∨ s.phase = .reconnecting) :
    indicator false (asked past) = true ↔ ¬BrokenOff past := by
  induction life with
  | fresh => rcases down with phase | phase <;> cases phase
  | @beat past s life turn ih =>
      by_cases level : s.phase = .failed ∨ s.phase = .reconnecting
      · exact display_down life level turn (ih level)
      · exact display_descent life (descent_of_beat life turn (not_or.1 level) down)

end Beats

/-- **While a session reconnects the connection-lost indicator is up, unless the session was broken
off.** -/
theorem shown_unless_broken_off {config : SessionConfig} {turns : List Turn}
    (phase : (reached config turns).phase = .reconnecting) :
    indicator false (asked (history config turns)) = true ↔ ¬BrokenOff (history config turns) :=
  life_display (life_of config turns) (.inr phase)

/-- A session is welcomed and fails, and its retry is due. -/
def awaitingRetry : List Turn :=
  [{ input := .init ⟨"S1"⟩ ⟨"T1"⟩ false }, { input := .transport 0 .opened },
    { input := .transport 0 (.message "I1&K0") }, { input := .transport 0 .failed }]

theorem awaiting_retry_shown :
    (reached {} awaitingRetry).phase = .reconnecting ∧
      ¬BrokenOff (history {} awaitingRetry) :=
  have phase : (reached {} awaitingRetry).phase = .reconnecting := by decide +kernel
  ⟨phase, (shown_unless_broken_off phase).1 (by decide +kernel)⟩

/-- A session is welcomed, hears what is not a frame, and the user asks it to reconnect. -/
def resumedByHand : List Turn :=
  [{ input := .init ⟨"S1"⟩ ⟨"T1"⟩ false }, { input := .transport 0 .opened },
    { input := .transport 0 (.message "I1&K0") }, { input := .transport 0 (.message "garbage") },
    { input := .reconnect }]

/-- The indicator was never put up in a session that reconnects. -/
theorem resumed_by_hand_unseen :
    ¬∀ (config : SessionConfig) (turns : List Turn),
      (reached config turns).phase = .reconnecting →
        indicator false (asked (history config turns)) = true := by
  intro seen
  have shown := seen {} resumedByHand (by decide +kernel)
  revert shown
  decide +kernel

end Tether.Session
