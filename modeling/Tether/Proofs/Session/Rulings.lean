/-
# Tether.Proofs.Session.Rulings -- when the user is told how an attempt went

The user who asks to reconnect is told how that went, by a verdict.  The session remembers with
one mark, `manualPending`, that the attempt under way is the user's.  The mark comes with the
reply to a request, if that brought credentials or failed, and the next failure or handshake
takes it off and gives the verdict.  Nothing else touches it: not a start of the application's,
nor a new request, the order to reload or giving up.

So what is ruled on an input depends on what befalls the session in it and on whether the attempt
that it bears on is the user's (`intent`).  The one verdict without an attempt is on a call that
finds no instance to ask for (`refuses`).

* `handle_rules`, `beat_rules` -- every input is ruled on so.
* `life_manual` -- the mark is that of the last reply with credentials, until it is settled.
-/
import Tether.Proofs.Session.Replies
import Tether.Proofs.Session.Tidings

set_option autoImplicit false

namespace Tether

/-- How an attempt of the user's went, as the user is told. -/
def Effect.verdict : Effect → Option Bool
  | .show .reconnectSucceeded => some true
  | .show .reconnectFailed => some false
  | _ => none

namespace Session

def Beat.verdicts (beat : Beat) : List Bool := beat.effects.filterMap Effect.verdict

/-- Whether an attempt of the user's is under way, and the verdicts given so far. -/
def docket (s : Session) : Bool × List Bool :=
  (s.manualPending, s.outbox.filterMap Effect.verdict)

/-- Whether the attempt that `input` bears on is the user's.  The reply to the request under way
says so itself, unless it orders to reload. -/
def intent (s : Session) : Input → Bool
  | .resolved attempt manual reply =>
      if attempt = s.attempt ∧ s.requesting = true ∧ reply ≠ some .refresh then manual
      else s.manualPending
  | _ => s.manualPending

/-- The user asks to reconnect, and there is no instance to ask for. -/
def refuses (s : Session) : Input → Bool
  | .reconnect => s.canReconnect && s.instanceId.isNone
  | _ => false

/-- What is ruled when `incident` befalls a session: whether an attempt of the user's stays under
way, and the verdicts.  `manual` says whether the attempt is the user's, and `refused` whether a
call is refused. -/
def rule (incident : Option Incident) (manual refused : Bool) : Bool × List Bool :=
  match incident with
  | some .failure => (false, if manual = true then [false] else [])
  | some (.welcome _) => (false, if manual = true then [true] else [])
  | _ => (manual, if refused = true then [false] else [])

/-! ## What the acts come to -/

section Acts

variable (setup : Setup) {t : Session} {v w : Outlook} {given : List Effect}

theorem Voices.docket (after : t.Voices v given) :
    t.docket = (v.manual, given.filterMap Effect.verdict) := by
  obtain ⟨rfl, rfl⟩ := after
  refine congrArg (Prod.mk t.manualPending) (filterMap_tidings (fun effect silent => ?_) t.outbox)
  cases effect <;> first | rfl | cases silent

/-- What is not voiced is no verdict. -/
theorem docket_silent (silent : tidings t.outbox = []) : t.docket = (t.manualPending, []) :=
  Voices.docket ⟨rfl, silent⟩

theorem perform_docket {effect : Effect} (silent : effect.verdict = none) :
    (t.perform effect).docket = t.docket := by
  rw [Session.docket, perform, List.filterMap_append, List.filterMap_cons, silent,
    List.filterMap_nil, List.append_nil]
  rfl

/-- A failure takes the mark off. -/
theorem Setback.settles (setback : Setback v w given) :
    w.manual = false ∧
      given.filterMap Effect.verdict = if v.manual = true then [false] else [] := by
  cases setback with
  | again =>
      refine ⟨rfl, ?_⟩
      unfold Outlook.verdict
      split <;> rfl
  | beaten failures =>
      refine ⟨rfl, ?_⟩
      unfold Outlook.verdict
      split <;> rfl

theorem fail_rules (before : t.Voices v given) (silent : given.filterMap Effect.verdict = [])
    (alive : t.Alive) : (t.fail setup).docket = rule (some .failure) v.manual false := by
  obtain ⟨w, more, setback, after⟩ := before.fail setup alive
  obtain ⟨settled, verdict⟩ := setback.settles
  rw [after.docket, List.filterMap_append, silent, settled, verdict]
  rfl

/-- Starting over leaves the mark on. -/
theorem init_rules (before : t.Voices v given) (silent : given.filterMap Effect.verdict = [])
    {session : SessionId} {token : AccessToken}
    (usable : (session.isEmpty || token.isEmpty) = false) (forced : Bool) :
    (t.init setup session token forced).docket = (v.manual, []) := by
  rw [(before.init setup usable forced).docket, silent]
  rfl

theorem touch_rules (before : t.Voices v given) (silent : given.filterMap Effect.verdict = []) :
    (t.touch setup).docket = (v.manual, []) := by
  have relief : v.relief.filterMap Effect.verdict = [] := by
    unfold Outlook.relief
    split <;> rfl
  rw [(before.touch setup).docket, List.filterMap_append, List.filterMap_append, silent, relief]
  rfl

end Acts

/-! ## What the handlers rule -/

section Handlers

variable (setup : Setup) (accepting : Bool) {s : Session}

/-- A session that has asked for nothing yet. -/
theorem docket_mute (empty : s.outbox = []) : s.docket = (s.manualPending, []) :=
  (mute empty).docket

theorem onOpened_rules (coherent : s.Coherent False) (empty : s.outbox = []) {link : Link}
    (used : s.active = some link) :
    (s.onOpened setup accepting).docket =
      rule (s.suffers accepting .opened) s.manualPending false := by
  unfold suffers
  by_cases phase : s.phase = .connecting
  · have opening := (arranged_connecting phase).1 coherent.arranged
    obtain ⟨session, held⟩ := Option.isSome_iff_exists.1 opening.sessionId
    obtain ⟨token, tokenHeld⟩ := Option.isSome_iff_exists.1 opening.accessToken
    have before : s.presenting.Voices { s.outlook with phase := .handshaking } [] :=
      ⟨rfl, (mute empty).gives⟩
    rw [onOpened_eq setup accepting phase held tokenHeld used]
    cases accepting with
    | true =>
        rw [if_pos rfl, if_neg fun both => Bool.noConfusion both.2]
        exact (before.quiet rfl).docket
    | false =>
        rw [if_neg Bool.false_ne_true, if_pos ⟨phase, rfl⟩]
        have greeting : (s.presenting.perform
            (.refused link.number (Frame.handshake session token))).phase = .handshaking := rfl
        exact fail_rules setup (before.quiet rfl) rfl (alive_of_phase greeting (by decide))
  · rw [onOpened_late setup accepting phase, if_neg fun both => phase both.1]
    exact docket_mute empty

theorem onHandshakeReply_rules (empty : s.outbox = []) (phase : s.phase = .handshaking)
    (data : String) :
    (s.onHandshakeReply setup data).docket =
      rule (s.tells accepting data) s.manualPending false := by
  unfold tells
  rw [phase]
  dsimp only
  cases read : Frame.readHandshakeReply data with
  | ok parts =>
      obtain ⟨instanceId, token⟩ := parts
      rw [onHandshakeReply_ok setup read]
      have after : (s.welcomed setup instanceId token).Voices s.outlook.welcomed
          (tidings (s.welcomed setup instanceId token).outbox) := ⟨rfl, rfl⟩
      rw [after.docket, welcomed]
      simp only [tidings_append, empty, tidings_attention, tidings_verdict]
      unfold Outlook.verdict
      cases marked : s.manualPending <;> simp only [outlook, marked] <;> rfl
  | error fault =>
      rw [onHandshakeReply_error setup read]
      have alive : s.Alive := alive_of_phase phase (by decide)
      exact fail_rules setup ((mute empty).perform (.event (.fault (.handshake fault)))) rfl alive

theorem onFrame_rules (coherent : s.Coherent False) (empty : s.outbox = [])
    (phase : s.phase = .ready) (data : String) :
    (s.onFrame setup accepting data).docket =
      rule (s.tells accepting data) s.manualPending false := by
  have flowing := (arranged_ready phase).1 coherent.arranged
  have alive : s.Alive := alive_of_phase phase (by decide)
  unfold tells
  rw [phase]
  dsimp only
  match read : Frame.readInbound data with
  | .ok (.framed token remainder) =>
      dsimp only
      have rotated : (s.rotated token).Voices s.outlook [] := ⟨rfl, (mute empty).gives⟩
      by_cases ping : remainder = Frame.ping
      · subst ping
        obtain ⟨session, held⟩ := Option.isSome_iff_exists.1 flowing.sessionId
        obtain ⟨link, used⟩ := Option.isSome_iff_exists.1 flowing.active
        rw [onFrame_ping setup accepting read held used]
        cases accepting with
        | true =>
            rw [if_pos rfl, if_neg fun refused => Bool.noConfusion refused.2]
            exact touch_rules setup (rotated.quiet rfl) rfl
        | false =>
            rw [if_neg Bool.false_ne_true, if_pos ⟨rfl, rfl⟩]
            exact fail_rules setup (rotated.quiet rfl) rfl alive
      · have touched := touch_rules setup rotated rfl
        have other : ¬(remainder = Frame.ping ∧ accepting = false) := fun both => ping both.1
        rw [onFrame_payload setup accepting read ping, if_neg other]
        split
        · exact touched
        · exact (perform_docket rfl).trans touched
  | .ok .invalidRequest =>
      rw [onFrame_idle setup accepting (.inr read)]
      exact docket_mute empty
  | .error fault =>
      dsimp only
      by_cases nothing : fault = .empty
      · rw [onFrame_idle setup accepting (.inl (nothing ▸ read)), if_pos nothing]
        exact docket_mute empty
      · rw [onFrame_broken setup accepting read nothing, if_neg nothing]
        have gone := (mute empty).teardown .failed
        have shown := (gone.perform (.show (.fatal (.invalidData data)))).perform
          (.event (.fault (.framing data)))
        exact shown.docket

theorem onTransport_rules (coherent : s.Coherent False) (empty : s.outbox = []) (number : Nat)
    (event : TransportEvent) :
    (s.onTransport setup accepting number event).docket =
      rule (s.befalls accepting (.transport number event)) s.manualPending false := by
  rw [befalls]
  by_cases own : s.active.map (·.number) = some number
  · obtain ⟨link, used, rfl⟩ := Option.map_eq_some_iff.1 own
    have inUse : s.active ≠ none := by
      rw [used]
      exact Option.some_ne_none _
    have alive := coherent.arranged.alive inUse
    have down := fail_rules setup (mute empty) rfl alive
    unfold onTransport
    rw [if_pos own, if_pos own]
    cases event with
    | opened => exact onOpened_rules setup accepting coherent empty used
    | closed => exact down
    | failed => exact down
    | message data =>
        show _ = rule (s.tells accepting data) s.manualPending false
        dsimp only
        split
        · exact onHandshakeReply_rules setup accepting empty ‹_› data
        · exact onFrame_rules setup accepting coherent empty ‹_› data
        · rename_i handshaking ready
          have nothing : s.tells accepting data = none := by
            unfold tells
            split
            · exact absurd ‹_› handshaking
            · exact absurd ‹_› ready
            · rfl
          rw [nothing]
          exact docket_mute empty
  · rw [onTransport_stale setup accepting own, if_neg own]
    exact docket_mute empty

theorem send_rules (coherent : s.Coherent False) (empty : s.outbox = []) (call : Nat)
    (task : String) (fields : List (String × String)) :
    ((s.send setup accepting task fields).2.perform
        (.answer call (s.send setup accepting task fields).1)).docket =
      rule (s.befalls accepting (.send call task fields)) s.manualPending false := by
  rw [perform_docket rfl, befalls]
  by_cases phase : s.phase = .ready
  · have flowing := (arranged_ready phase).1 coherent.arranged
    have alive : s.Alive := alive_of_phase phase (by decide)
    cases gone : s.health.lost with
    | true =>
        rw [send_lost setup accepting task fields phase gone, if_pos ⟨phase, .inl rfl⟩]
        exact fail_rules setup (mute empty) rfl alive
    | false =>
        obtain ⟨session, held⟩ := Option.isSome_iff_exists.1 flowing.sessionId
        obtain ⟨token, current⟩ := Option.isSome_iff_exists.1 flowing.continuation
        obtain ⟨link, used⟩ := Option.isSome_iff_exists.1 flowing.active
        rw [send_ready setup accepting task fields phase gone held current used]
        cases accepting with
        | true =>
            rw [if_pos rfl, if_neg (by simp)]
            exact (perform_docket rfl).trans (docket_mute empty)
        | false =>
            rw [if_neg Bool.false_ne_true, if_pos ⟨phase, .inr rfl⟩]
            exact fail_rules setup ((mute empty).quiet rfl) rfl alive
  · rw [send_unready setup accepting task fields phase, if_neg fun both => phase both.1]
    exact docket_mute empty

theorem reconnect_rules (empty : s.outbox = []) :
    s.reconnect.docket =
      rule (s.befalls accepting .reconnect) s.manualPending (s.refuses .reconnect) := by
  have before := mute empty
  rw [befalls, refuses]
  cases allowed : s.canReconnect with
  | false =>
      unfold reconnect
      rw [allowed]
      exact before.docket
  | true =>
      cases known : s.instanceId with
      | none =>
          unfold reconnect
          rw [if_pos allowed, known]
          exact (before.perform (.show .reconnectFailed)).docket
      | some instanceId =>
          rw [reconnect_eq allowed known, request_eq]
          refine docket_silent ?_
          refine unvoiced (unvoiced (unvoiced (unvoiced (unvoiced before.gives ?_) ?_) ?_) ?_) rfl
          · exact tidings_revocation ..
          · exact tidings_retirement _
          · exact tidings_revocation ..
          · exact tidings_withdrawal _

/-- The retry delay has passed. -/
theorem onRetry_rules (coherent : s.Coherent False) (empty : s.outbox = []) :
    ((s.claimed .retry).onRetry setup).docket = (s.manualPending, []) := by
  have before : (s.claimed .retry).Voices s.outlook [] := ⟨rfl, (mute empty).gives⟩
  unfold onRetry
  split
  · split
    · rw [request_eq]
      exact docket_silent (unvoiced (unvoiced before.gives (tidings_withdrawal _)) rfl)
    · split
      · rename_i session token held tokenHeld _
        have usable : (session.isEmpty || token.isEmpty) = false := by
          rw [coherent.credited.1 session held, coherent.credited.2 token tokenHeld, Bool.or_false]
        exact init_rules setup before rfl usable false
      · exact before.giveUp.docket
  · exact before.docket

theorem openPending_rules (empty : s.outbox = []) :
    (s.claimed .settle).openPending.docket = (s.manualPending, []) := by
  have before : (s.claimed .settle).Voices s.outlook [] := ⟨rfl, (mute empty).gives⟩
  unfold openPending
  split
  · exact before.docket
  · dsimp only
    split
    · exact docket_silent (unvoiced before.gives rfl)
    · exact docket_silent before.gives

/-- A reply that counts sets the mark, unless it orders to reload. -/
theorem onReply_rules (coherent : s.Coherent False) (empty : s.outbox = [])
    (requesting : s.requesting = true) (manual : Bool) (reply : Option ReconnectReply) :
    (s.answered.onReply setup manual reply).docket =
      rule (Incident.ofReply reply) (s.intent (.resolved s.attempt manual reply)) false := by
  have phase := coherent.arranged.awaits_reply requesting
  have marked : ({ s.answered with manualPending := manual } : Session).Voices
      { s.outlook with manual := manual } [] := ⟨rfl, (mute empty).gives⟩
  rw [intent]
  match reply with
  | some (.credentials session token) =>
      rw [if_pos ⟨rfl, requesting, by simp⟩, Incident.ofReply]
      show (({ s.answered with manualPending := manual } : Session).init setup session token
        false).docket = _
      cases usable : session.isEmpty || token.isEmpty with
      | true =>
          rw [init_empty setup usable]
          exact marked.docket
      | false => exact init_rules setup marked rfl usable false
  | some .refresh =>
      rw [if_neg fun all => all.2.2 rfl]
      have before : s.answered.Voices s.outlook [] := ⟨rfl, (mute empty).gives⟩
      exact ((before.teardown .idle).perform (.event .reloadRequested)).docket
  | none =>
      rw [if_pos ⟨rfl, requesting, by simp⟩]
      exact fail_rules setup marked rfl (alive_of_phase phase (by decide))

/-- **Whatever a session takes in is ruled on.** -/
theorem handle_rules (coherent : s.Coherent False) (empty : s.outbox = []) (input : Input) :
    (s.handle setup accepting input).docket =
      rule (s.befalls accepting input) (s.intent input) (s.refuses input) := by
  cases input with
  | init session token forced =>
      show (s.init setup session token forced).docket = rule (if _ then none else _) _ _
      cases usable : session.isEmpty || token.isEmpty with
      | true =>
          rw [init_empty setup usable]
          exact docket_mute empty
      | false => exact init_rules setup (mute empty) rfl usable forced
  | send call task fields => exact send_rules setup accepting coherent empty call task fields
  | reconnect => exact reconnect_rules accepting empty
  | close =>
      have idle := (mute empty).teardown .idle
      exact idle.docket
  | expired timer ticket =>
      rw [handle_expired, befalls]
      split
      · cases timer with
        | settle => exact openPending_rules empty
        | retry => exact onRetry_rules setup coherent empty
        | silence =>
            have lost : (s.claimed .silence).Voices s.outlook.silenced [] :=
              ⟨rfl, (mute empty).gives⟩
            exact (lost.perform (.show .connectionLost)).docket
      · exact docket_mute empty
  | resolved attempt manual reply =>
      rw [handle_resolved, befalls]
      split
      · rename_i current
        obtain ⟨rfl, requesting⟩ := current
        exact onReply_rules setup coherent empty requesting manual reply
      · rename_i late
        have kept : s.intent (.resolved attempt manual reply) = s.manualPending :=
          if_neg fun all => late ⟨all.1, all.2.1⟩
        rw [kept]
        exact docket_mute empty
  | transport number event => exact onTransport_rules setup accepting coherent empty number event

end Handlers

/-! ## Lives -/

/-- Whether the attempt that a beat bears on is the user's. -/
def Beat.intent (beat : Beat) : Bool :=
  if beat.before.running = true then beat.before.intent beat.turn.input
  else beat.before.manualPending

def Beat.refuses (beat : Beat) : Bool :=
  beat.before.running && beat.before.refuses beat.turn.input

/-- The reply to request `attempt` brings credentials.  `manual` is what it says of whose attempt
that is. -/
def Beat.Grants (beat : Beat) (attempt : Nat) (manual : Bool) : Prop :=
  beat.before.requesting = true ∧ attempt = beat.before.attempt ∧
    ∃ session token,
      beat.turn.input = .resolved attempt manual (some (.credentials session token))

/-- The attempt under way ends, or the reply to a request says anew whose attempt it is. -/
def Beat.Settles (beat : Beat) : Prop :=
  beat.befell = some .failure ∨ (∃ instanceId, beat.befell = some (.welcome instanceId)) ∨
    ∃ attempt manual, beat.Grants attempt manual

/-- The reply to request `attempt` was the last to say whose attempt is under way.  It is the
user's, and `since` has not settled it. -/
structure Stands (past first : List Beat) (reply : Beat) (since : List Beat) (attempt : Nat) :
    Prop where
  split : past = first ++ reply :: since
  granted : reply.Grants attempt true
  unsettled : ∀ beat ∈ since, ¬beat.Settles

section Lives

variable {config : SessionConfig} {past : List Beat} {s : Session} {turn : Turn} {attempt : Nat}
  {manual : Bool}

/-- **And so is every beat of a life.** -/
theorem beat_rules (life : Life config past s) (turn : Turn) :
    ((s.beat config turn).after.manualPending, (s.beat config turn).verdicts) =
      rule (s.beat config turn).befell (s.beat config turn).intent
        (s.beat config turn).refuses := by
  cases running : s.running with
  | false =>
      obtain ⟨after, effects⟩ := beat_stopped running turn
      have spared : (s.beat config turn).befell = none := befell_stopped running
      have kept : (s.beat config turn).intent = s.manualPending :=
        if_neg (Bool.eq_false_iff.1 running)
      have idle : (s.beat config turn).refuses = false :=
        congrArg (· && s.refuses turn.input) running
      rw [Beat.verdicts, after, effects, spared, kept, idle]
      rfl
  | true =>
      obtain ⟨after, effects⟩ := beat_running running life.outbox turn
      have befell : (s.beat config turn).befell = s.befalls turn.accepting turn.input :=
        befell_running running
      have bears : (s.beat config turn).intent = s.intent turn.input := if_pos running
      have refused : (s.beat config turn).refuses = s.refuses turn.input :=
        congrArg (· && s.refuses turn.input) running
      rw [Beat.verdicts, after, effects, befell, bears, refused]
      have coherent := life.coherent
      exact handle_rules (turn.setup config) turn.accepting coherent life.outbox turn.input

/-- Credentials that a reply brings are no failure and no handshake. -/
theorem Beat.Grants.befell {beat : Beat} (grants : beat.Grants attempt manual) :
    beat.befell ≠ some .failure ∧ ∀ instanceId, beat.befell ≠ some (.welcome instanceId) := by
  obtain ⟨requesting, current, session, token, replied⟩ := grants
  unfold Beat.befell
  split
  · rw [replied, befalls, if_pos ⟨current, requesting⟩, Incident.ofReply]
    split <;> simp
  · simp

theorem Beat.Grants.intent (life : Life config past s)
    (grants : (s.beat config turn).Grants attempt manual) :
    (s.beat config turn).intent = manual := by
  obtain ⟨requesting, current, session, token, replied⟩ := grants
  have bears : (s.beat config turn).intent = s.intent turn.input :=
    if_pos (life.requests requesting).1
  rw [bears, show turn.input = _ from replied]
  exact if_pos ⟨current, requesting, by simp⟩

/-- Without a reply that says otherwise it is the attempt under way that a beat bears on. -/
theorem intent_kept {beat : Beat}
    (other : ∀ manual reply, beat.turn.input = .resolved beat.before.attempt manual reply →
      beat.before.requesting = true → reply = some .refresh) :
    beat.intent = beat.before.manualPending := by
  unfold Beat.intent
  split
  · unfold Session.intent
    split
    · rename_i attempt manual reply replied
      refine if_neg fun ⟨current, requesting, brings⟩ => brings ?_
      rw [current] at replied
      exact other manual reply replied requesting
    · rfl
  · rfl

theorem intent_unsettled (life : Life config past s) (unsettled : ¬(s.beat config turn).Settles) :
    (s.beat config turn).intent = s.manualPending := by
  refine intent_kept fun manual reply replied requesting => ?_
  match reply with
  | some .refresh => rfl
  | some (.credentials session token) =>
      exact absurd (.inr (.inr ⟨_, _, requesting, rfl, _, _, replied⟩)) unsettled
  | none => exact absurd (.inl (reply_befell life requesting replied)) unsettled

theorem rule_ended {incident : Option Incident} {refused : Bool}
    (ended : incident = some .failure ∨ ∃ instanceId, incident = some (.welcome instanceId)) :
    (rule incident manual refused).1 = false := by
  rcases ended with rfl | ⟨instanceId, rfl⟩
  · rfl
  · rfl

theorem rule_other {incident : Option Incident} {refused : Bool}
    (failed : incident ≠ some .failure)
    (unwelcome : ∀ instanceId, incident ≠ some (.welcome instanceId)) :
    rule incident manual refused = (manual, if refused = true then [false] else []) := by
  unfold rule
  split
  · exact absurd rfl failed
  · exact absurd rfl (unwelcome _)
  · rfl

/-- A settling beat takes the place of the replies before it. -/
theorem Stands.last {first since : List Beat} {reply beat : Beat}
    (stands : Stands (past ++ [beat]) first reply since attempt) (settles : beat.Settles) :
    reply = beat := by
  rcases split_append stands.split with ⟨middle, -, new⟩ | ⟨middle, -, rest⟩
  · cases middle with
    | nil => exact (List.cons.inj new).1.symm
    | cons head tail => simp at new
  · refine absurd settles (stands.unsettled beat ?_)
    rw [rest]
    exact List.mem_append_right _ (List.mem_singleton_self _)

theorem Stands.concat {first since : List Beat} {reply beat : Beat}
    (stands : Stands past first reply since attempt) (unsettled : ¬beat.Settles) :
    Stands (past ++ [beat]) first reply (since ++ [beat]) attempt := by
  obtain ⟨rfl, granted, kept⟩ := stands
  refine ⟨by simp, granted, fun other member => ?_⟩
  rcases List.mem_append.1 member with earlier | last
  · exact kept other earlier
  · rw [List.mem_singleton.1 last]
    exact unsettled

/-- Some reply says that the attempt under way is the user's. -/
def Owned (past : List Beat) : Prop :=
  ∃ first reply since attempt, Stands past first reply since attempt

theorem owned_granted {beat : Beat} (grants : beat.Grants attempt manual) :
    Owned (past ++ [beat]) ↔ manual = true := by
  constructor
  · rintro ⟨first, reply, since, other, stands⟩
    obtain rfl := stands.last (.inr (.inr ⟨_, _, grants⟩))
    obtain ⟨-, -, session, token, replied⟩ := grants
    obtain ⟨-, -, _, _, again⟩ := stands.granted
    cases replied.symm.trans again
    rfl
  · rintro rfl
    exact ⟨past, beat, [], attempt, rfl, grants, fun _ member => (List.not_mem_nil member).elim⟩

theorem owned_ended {beat : Beat}
    (ended : beat.befell = some .failure ∨ ∃ instanceId, beat.befell = some (.welcome instanceId)) :
    ¬Owned (past ++ [beat]) := by
  rintro ⟨first, reply, since, attempt, stands⟩
  obtain rfl := stands.last (ended.imp_right .inl)
  obtain ⟨unfailed, unwelcome⟩ := stands.granted.befell
  rcases ended with failure | ⟨instanceId, welcome⟩
  · exact unfailed failure
  · exact unwelcome instanceId welcome

theorem owned_kept {beat : Beat} (unsettled : ¬beat.Settles) :
    Owned (past ++ [beat]) ↔ Owned past := by
  constructor
  · rintro ⟨first, reply, since, attempt, split, granted, kept⟩
    rcases split_append split with ⟨middle, -, new⟩ | ⟨middle, old, rfl⟩
    · cases middle with
      | nil =>
          obtain ⟨rfl, -⟩ := List.cons.inj new
          exact absurd (.inr (.inr ⟨_, _, granted⟩)) unsettled
      | cons head tail => simp at new
    · refine ⟨first, reply, middle, attempt, old, granted, fun other member => ?_⟩
      exact kept other (List.mem_append_left _ member)
  · rintro ⟨first, reply, since, attempt, stands⟩
    exact ⟨first, reply, since ++ [beat], attempt, stands.concat unsettled⟩

/-- **The mark is on while a reply stands that says that the attempt is the user's.** -/
theorem life_manual (life : Life config past s) : s.manualPending = true ↔ Owned past := by
  induction life with
  | fresh =>
      refine iff_of_false Bool.false_ne_true ?_
      rintro ⟨first, reply, since, attempt, split, -⟩
      simp at split
  | @beat past s life turn ih =>
      have ruled := congrArg Prod.fst (beat_rules life turn)
      by_cases settles : (s.beat config turn).Settles
      · rcases settles with failure | welcome | ⟨attempt, manual, grants⟩
        · rw [rule_ended (.inl failure)] at ruled
          exact iff_of_false (Bool.eq_false_iff.1 ruled) (owned_ended (.inl failure))
        · rw [rule_ended (.inr welcome)] at ruled
          exact iff_of_false (Bool.eq_false_iff.1 ruled) (owned_ended (.inr welcome))
        · rw [rule_other grants.befell.1 grants.befell.2, Beat.Grants.intent life grants] at ruled
          rw [owned_granted grants, show (s.beat config turn).after.manualPending = _ from ruled]
      · rw [rule_other (fun failure => settles (.inl failure))
          (fun instanceId welcome => settles (.inr (.inl ⟨instanceId, welcome⟩))),
          intent_unsettled life settles] at ruled
        rw [owned_kept settles, show (s.beat config turn).after.manualPending = _ from ruled, ih]

end Lives

end Session

end Tether
