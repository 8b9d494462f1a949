/-
# Tether.Proofs.Session.Reuse -- what becomes of credentials before any handshake succeeded

Before a handshake succeeded there is no instance to ask fresh credentials for.  When the retry
delay has passed the session starts over with the pair it holds, or it gives up, as the spent
mark says.  The mark is set before the transport is asked to take the handshake, and is not taken
back when the transport refuses it.  So it says that the pair was offered, not that it was taken:
a transport that opened and closed before the session got to know of either costs the pair.

* `spent_iff_presented` -- the pair counts as spent exactly if its handshake was presented.
* `life_holds` -- a session that is not idle holds the pair delivered last.
* `retry_outcome` -- the two ends of a retry without an instance, and which of them it is.
-/
import Tether.Proofs.Session.Credentials
import Tether.Proofs.Session.Incidents

set_option autoImplicit false

namespace Tether

def Effect.taken : Effect → Option String
  | .sent _ frame => some frame
  | _ => none

def Effect.declined : Effect → Option String
  | .refused _ frame => some frame
  | _ => none

namespace Session

variable {config : SessionConfig}

/-! ## Presented credentials -/

/-- After the last delivery a transport opened and was offered `frame`. -/
def Presented (past : List Beat) (frame : String) : Prop :=
  ∃ first earlier rest, past = first ++ earlier :: rest ∧ deliveries (earlier :: rest) = [] ∧
    frame ∈ earlier.presented

theorem presented_iff_attempt {past : List Beat} {frame : String} :
    Presented past frame ↔ ((deliveries past).length, frame) ∈ attempts past := by
  have divides (first later : List Beat) :
      deliveries (first ++ later) = deliveries first ++ deliveries later :=
    List.filterMap_append
  unfold attempts
  rw [mem_retell]
  constructor
  · rintro ⟨first, earlier, rest, rfl, none_, presented⟩
    refine ⟨first, earlier, rest, rfl, ?_⟩
    rw [divides, none_, List.append_nil]
    exact List.mem_map_of_mem presented
  · rintro ⟨first, earlier, rest, rfl, told⟩
    obtain ⟨same, presented, count⟩ := List.mem_map.1 told
    simp only [Prod.mk.injEq, divides, List.length_append] at count
    obtain ⟨count, rfl⟩ := count
    exact ⟨first, earlier, rest, rfl, List.eq_nil_of_length_eq_zero (by omega), presented⟩

def Beat.taken (beat : Beat) : List String := beat.effects.filterMap Effect.taken

def Beat.declined (beat : Beat) : List String := beat.effects.filterMap Effect.declined

/-- A frame that was presented was taken or refused. -/
theorem Presented.answered {past : List Beat} {frame : String} (presented : Presented past frame) :
    ∃ earlier ∈ past, frame ∈ earlier.taken ∨ frame ∈ earlier.declined := by
  obtain ⟨first, earlier, rest, rfl, -, offered⟩ := presented
  refine ⟨earlier, by simp, ?_⟩
  unfold Beat.presented at offered
  split at offered
  · obtain ⟨effect, member, same⟩ := List.mem_filterMap.1 offered
    cases effect with
    | sent number _ => exact .inl (List.mem_filterMap.2 ⟨_, member, same⟩)
    | refused number _ => exact .inr (List.mem_filterMap.2 ⟨_, member, same⟩)
    | _ => cases same
  · cases offered

/-! ## The spent mark -/

/-- A pair that counts as spent did so before, and no pair was delivered, or it is being offered. -/
theorem Deed.spends {accepting : Bool} {v w : Stance} {hearing : Option Hearing}
    {given : List Effect} (deed : Deed accepting v hearing w given) (spent : w.spent = true) :
    (v.spent = true ∧ ∀ session token, hearing ≠ some (.credentials session token)) ∨
      ∃ number frame, hearing = some (.opened number) ∧ frame ∈ given.filterMap Effect.frame := by
  have connected : v.phase = .ready → v.phase ≠ .connecting := by
    intro phase
    rw [phase]
    exact nofun
  cases deed with
  | install session token fresh =>
      obtain ⟨-, -, -, -, kept⟩ := fresh.keeps
      cases kept.symm.trans spent
  | reinstall held tokenHeld unspent fresh =>
      obtain ⟨-, -, -, -, kept⟩ := fresh.keeps
      cases kept.symm.trans spent
  | @greet session token number _ _ phase held tokenHeld used offer =>
      obtain ⟨-, -, -, -, -, frames⟩ := offer.keeps nofun
      right
      refine ⟨number, Frame.handshake session token, rfl, ?_⟩
      rw [frames]
      exact List.mem_singleton_self _
  | pong phase held used offer =>
      obtain ⟨-, -, -, -, kept, -⟩ := offer.keeps (connected phase)
      exact .inl ⟨kept.symm.trans spent, nofun⟩
  | send phase held current used offer =>
      obtain ⟨-, -, -, -, kept, -⟩ := offer.keeps (connected phase)
      exact .inl ⟨kept.symm.trans spent, nofun⟩
  | _ => exact .inl ⟨spent, nofun⟩

/-- Only credentials are a delivery. -/
theorem deliveries_kept (past : List Beat) {beat : Beat}
    (undelivered : ∀ session token, beat.heard ≠ some (.credentials session token)) :
    deliveries (past ++ [beat]) = deliveries past := by
  have none_ : beat.delivered = none := by
    unfold Beat.delivered
    split
    · rename_i session token heard
      exact absurd heard (undelivered session token)
    · rfl
  rw [deliveries_concat, none_, Option.toList_none, List.append_nil]

/-- A pair that counts as spent was presented. -/
theorem life_spent {past : List Beat} {s : Session} (life : Life config past s)
    (spent : s.spent = true) : ∃ frame, ((deliveries past).length, frame) ∈ attempts past := by
  induction life with
  | fresh => cases spent
  | @beat past s life turn ih =>
      have deed := beat_deed life turn
      generalize s.beat config turn = beat at deed spent ⊢
      rw [attempts_concat]
      -- either the mark is an old one, and so is the attempt, or this beat makes both
      obtain ⟨before, undelivered⟩ | ⟨number, frame, heard, offered⟩ := deed.spends spent
      · rw [deliveries_kept past undelivered]
        obtain ⟨frame, member⟩ := ih before
        exact ⟨frame, List.mem_append_left _ member⟩
      · have presented : frame ∈ beat.presented := by
          rw [Beat.presented, heard]
          show frame ∈ beat.offered
          rw [offered_signals]
          exact offered
        have undelivered : ∀ session token, beat.heard ≠ some (.credentials session token) := by
          intro session token other
          rw [heard] at other
          cases other
        rw [deliveries_kept past undelivered]
        exact ⟨frame, List.mem_append_right _ (List.mem_map_of_mem presented)⟩

/-- The pair delivered last counts as spent exactly if its handshake was presented since. -/
theorem spent_iff_presented {past : List Beat} {s : Session} (life : Life config past s)
    {session : SessionId} {token : AccessToken}
    (last : (deliveries past).getLast? = some (session, token)) :
    s.spent = true ↔ Presented past (Frame.handshake session token) := by
  have accredited := life_accredited life
  rw [presented_iff_attempt]
  constructor
  · intro spent
    obtain ⟨frame, attempted⟩ := life_spent life spent
    obtain ⟨session', token', latest, rfl⟩ := accredited.attested _ attempted
    rw [List.take_length, last] at latest
    cases latest
    exact attempted
  · intro attempted
    cases spent : s.spent with
    | true => rfl
    | false => exact absurd (accredited.unspent spent _ attempted) (Nat.lt_irrefl _)

/-! ## The pair held -/

/-- Only credentials from the application wake an idle session. -/
theorem Upshot.wakes {setup : Setup} {v w : Footing} {incident : Option Incident}
    {given : List Effect} (upshot : Upshot setup v incident w given) (idle : v.phase = .idle)
    (awake : w.phase ≠ .idle) : ∃ forced, incident = some (.start forced) := by
  cases upshot with
  | start anew => exact ⟨_, rfl⟩
  | still => exact absurd idle awake
  | setBack alive | beaten alive => exact absurd idle alive.2
  | reconnect allowed known =>
      rw [idle] at allowed
      rcases allowed with other | other | other <;> cases other
  | refresh | close => exact absurd rfl awake
  | greet phase | idle phase | welcome phase | heard phase | breach phase | credentials phase
  | settled phase | request phase | reuse phase | giveUp phase => cases idle.symm.trans phase

/-- The application starts a session by a delivery. -/
theorem delivered_of_start {beat : Beat} {forced : Bool}
    (befell : beat.befell = some (.start forced)) : beat.delivered ≠ none := by
  obtain ⟨running, befalls⟩ := befell_some befell
  obtain ⟨session, token, called⟩ := befalls_causes befalls
  rw [called] at befalls
  unfold Session.befalls at befalls
  dsimp only at befalls
  split at befalls
  · cases befalls
  · rename_i given
    have heard : beat.heard = some (.credentials session token) := by
      rw [Beat.heard, if_pos running, called]
      exact if_neg given
    rw [Beat.delivered, heard]
    intro none_
    cases none_

/-- A session that is not idle was given a pair. -/
theorem life_delivered {past : List Beat} {s : Session} (life : Life config past s)
    (awake : s.phase ≠ .idle) : deliveries past ≠ [] := by
  induction life with
  | fresh => exact absurd rfl awake
  | @beat past s life turn ih =>
      have upshot := beat_upshot life turn
      rw [deliveries_concat]
      by_cases idle : s.phase = .idle
      · obtain ⟨forced, befell⟩ := upshot.wakes idle awake
        intro none_
        have undelivered := (List.append_eq_nil_iff.1 none_).2
        exact delivered_of_start befell (Option.toList_eq_nil_iff.1 undelivered)
      · exact List.append_ne_nil_of_left_ne_nil (ih idle) _

/-- It holds the one delivered last. -/
theorem life_holds {past : List Beat} {s : Session} (life : Life config past s)
    (awake : s.phase ≠ .idle) :
    ∃ session token, (deliveries past).getLast? = some (session, token) ∧
      s.sessionId = some session ∧ s.accessToken = some token := by
  have accredited := life_accredited life
  have given := List.getLast?_isSome.2 (life_delivered life awake)
  obtain ⟨⟨session, token⟩, last⟩ := Option.isSome_iff_exists.1 given
  have held := accredited.sessionId
  have tokenHeld := accredited.accessToken
  rw [last] at held tokenHeld
  exact ⟨session, token, last, held, tokenHeld⟩

/-! ## The retry -/

section Retry

variable {s : Session} {setup : Setup}

theorem onRetry_unspent {session : SessionId} {token : AccessToken}
    (phase : s.phase = .reconnecting) (unknown : s.instanceId = none)
    (held : s.sessionId = some session) (tokenHeld : s.accessToken = some token)
    (unspent : s.spent = false) : s.onRetry setup = s.init setup session token false := by
  unfold onRetry
  rw [if_pos phase, unknown, held, tokenHeld, unspent]

theorem onRetry_spent (phase : s.phase = .reconnecting) (unknown : s.instanceId = none)
    (spent : s.spent = true) : s.onRetry setup = s.giveUp := by
  unfold onRetry
  rw [if_pos phase, unknown, spent]
  cases s.sessionId <;> cases s.accessToken <;> rfl

theorem init_connects {session : SessionId} {token : AccessToken}
    (given : (session.isEmpty || token.isEmpty) = false) (forceFallback : Bool) :
    (s.init setup session token forceFallback).phase = .connecting := by
  rw [init_eq setup given]
  split
  · rw [startSettle_eq]
    rfl
  · rw [cancelSettle_eq]
    rfl

/-- What comes of a call to start. -/
theorem step_init (setup : Setup) (accepting : Bool) (running : s.running = true)
    (empty : s.outbox = []) (session : SessionId) (token : AccessToken) (forceFallback : Bool) :
    s.step setup accepting (.init session token forceFallback) =
      ((s.init setup session token forceFallback).withOutbox [],
        (s.init setup session token forceFallback).outbox) := by
  have same : ({ s with outbox := [] } : Session) = s := by
    rw [← empty]
  unfold step
  rw [if_pos running, same]
  rfl

/-- Only a session that waits for it retries. -/
theorem Upshot.retries {v w : Footing} {given : List Effect}
    (upshot : Upshot setup v (some .retry) w given) : v.phase = .reconnecting := by
  cases upshot with
  | request phase | reuse phase | giveUp phase => exact phase

/-- A retry is what the claimed expiry leads to. -/
theorem beat_retry {past : List Beat} (life : Life config past s) {turn : Turn}
    (retried : (s.beat config turn).befell = some .retry) :
    (s.beat config turn).after =
        ((s.claimed .retry).onRetry (turn.setup config)).withOutbox [] ∧
      (s.beat config turn).effects =
        ((s.claimed .retry).onRetry (turn.setup config)).outbox := by
  obtain ⟨running, befalls⟩ := befell_some retried
  obtain ⟨expired, pending⟩ := befalls_causes befalls
  have called : turn.input = .expired .retry s.retry.ticket := expired
  obtain ⟨after, effects⟩ := beat_running running life.outbox turn
  rw [called, handle_expired, if_pos ⟨rfl, pending⟩] at after effects
  exact ⟨after, effects⟩

end Retry

/-- **What comes of a retry while no handshake has succeeded.**  There is a pair, the one delivered
last.  If its handshake was presented since then, the session gives up; if not, it starts over with
the pair, as it would if the application brought it again. -/
theorem retry_outcome {past : List Beat} {s : Session} (life : Life config past s) {turn : Turn}
    (retried : (s.beat config turn).befell = some .retry) (unknown : instances past = []) :
    ∃ session token, (deliveries past).getLast? = some (session, token) ∧
      ((Presented past (Frame.handshake session token) ∧
          (s.beat config turn).after.phase = .failed ∧
          .event (.fault (.budgetExhausted s.failures)) ∈ (s.beat config turn).effects) ∨
        (¬Presented past (Frame.handshake session token) ∧
          (s.beat config turn).after.phase = .connecting ∧
          ((s.beat config turn).after, (s.beat config turn).effects) =
            (s.claimed .retry).step (turn.setup config) turn.accepting
              (.init session token false))) := by
  have nameless : s.instanceId = none := by
    have known := (life_accredited life).instanceId
    rw [unknown] at known
    exact known
  have phase : s.phase = .reconnecting := by
    have upshot := beat_upshot life turn
    rw [retried] at upshot
    exact upshot.retries
  have awake : s.phase ≠ .idle := by
    rw [phase]
    exact nofun
  obtain ⟨session, token, last, held, tokenHeld⟩ := life_holds life awake
  have presented := spent_iff_presented life last
  obtain ⟨after, effects⟩ := beat_retry life retried
  refine ⟨session, token, last, ?_⟩
  cases spent : s.spent with
  | true =>
      rw [onRetry_spent (s := s.claimed .retry) phase nameless spent, giveUp_eq] at after effects
      refine .inl ⟨presented.1 spent, ?_, ?_⟩
      · rw [after]
        rfl
      · rw [effects]
        simp [claimed]
  | false =>
      rw [onRetry_unspent (s := s.claimed .retry) phase nameless held tokenHeld spent]
        at after effects
      have credited := (life_coherent life).credited
      have usable : (session.isEmpty || token.isEmpty) = false := by
        rw [credited.1 session held, credited.2 token tokenHeld, Bool.or_false]
      obtain ⟨running, -⟩ := befell_some retried
      refine .inr ⟨?_, ?_, ?_⟩
      · rw [← presented, spent]
        exact Bool.false_ne_true
      · rw [after, withOutbox]
        exact init_connects usable false
      · rw [step_init (s := s.claimed .retry) _ _ running life.outbox, after, effects]

/-- **A retry without an instance spends nothing that was not presented.**  While no handshake has
succeeded, the session gives up at a retry exactly if the handshake of the pair delivered last was
presented since, which a transport then took or refused; else it starts over with the pair, as it
would if the application brought it again. -/
theorem retry_by_presentation {turns : List Turn} {k : Nat} {beat : Beat}
    (here : (history config turns)[k]? = some beat) (retried : beat.befell = some .retry)
    (unknown : instances ((history config turns).take k) = []) :
    ∃ session token,
      (deliveries ((history config turns).take k)).getLast? = some (session, token) ∧
        (beat.after.phase = .failed ↔
          Presented ((history config turns).take k) (Frame.handshake session token)) ∧
        (beat.after.phase = .failed →
          .event (.fault (.budgetExhausted beat.before.failures)) ∈ beat.effects ∧
            ∃ earlier ∈ (history config turns).take k,
              Frame.handshake session token ∈ earlier.taken ∨
                Frame.handshake session token ∈ earlier.declined) ∧
        (beat.after.phase ≠ .failed →
          beat.after.phase = .connecting ∧
            (beat.after, beat.effects) =
              (beat.before.claimed .retry).step (beat.turn.setup config) beat.turn.accepting
                (.init session token false)) := by
  obtain ⟨life, same⟩ := (life_of config turns).at here
  rw [same] at retried
  obtain ⟨session, token, last, outcome⟩ := retry_outcome life retried unknown
  rw [← same] at outcome
  refine ⟨session, token, last, ?_⟩
  obtain ⟨presented, failed, told⟩ | ⟨spared, connecting, restarts⟩ := outcome
  · refine ⟨iff_of_true failed presented, fun _ => ⟨told, presented.answered⟩, ?_⟩
    exact fun other => absurd failed other
  · have other : beat.after.phase ≠ .failed := by
      rw [connecting]
      exact nofun
    refine ⟨iff_of_false other spared, fun failed => absurd failed other, ?_⟩
    exact fun _ => ⟨connecting, restarts⟩

/-- The first transport opens and closes at once, so it takes the handshake or refuses it; then the
retry delay passes. -/
def shortLived (accepting : Bool) : List Turn :=
  [{ input := .init ⟨"S"⟩ ⟨"T"⟩ false }, { input := .transport 0 .opened, accepting },
    { input := .transport 0 .closed }, { input := .expired .retry ⟨2⟩ }]

/-- A transport that took the handshake has spent the pair. -/
theorem short_lived_spends :
    ∃ beat, (history {} (shortLived true))[3]? = some beat ∧ beat.befell = some .retry ∧
      instances ((history {} (shortLived true)).take 3) = [] ∧ beat.after.phase = .failed ∧
        ∃ session token,
          (deliveries ((history {} (shortLived true)).take 3)).getLast? = some (session, token) ∧
            (beat.after.phase = .failed ↔
              Presented ((history {} (shortLived true)).take 3)
                (Frame.handshake session token)) := by
  obtain ⟨beat, here⟩ : ∃ beat, (history {} (shortLived true))[3]? = some beat := ⟨_, rfl⟩
  have found : ((history {} (shortLived true))[3]?).all fun beat =>
      decide (beat.befell = some .retry ∧ beat.after.phase = .failed) := by
    decide +kernel
  rw [here, Option.all_some, decide_eq_true_eq] at found
  obtain ⟨retried, failed⟩ := found
  have unknown : instances ((history {} (shortLived true)).take 3) = [] := by decide +kernel
  obtain ⟨session, token, last, exactly, -⟩ := retry_by_presentation here retried unknown
  exact ⟨beat, here, retried, unknown, failed, session, token, last, exactly⟩

/-- A transport that refused it has done so too, though nobody was given the token. -/
theorem refused_pair_spent :
    ¬∀ (config : SessionConfig) (turns : List Turn) (k : Nat) (beat : Beat),
      (history config turns)[k]? = some beat → beat.befell = some .retry →
        beat.before.failures ≤ config.retryBudget →
          instances ((history config turns).take k) = [] → beat.after.phase = .failed →
            ∀ session token,
              (deliveries ((history config turns).take k)).getLast? = some (session, token) →
                ∃ earlier ∈ (history config turns).take k,
                  Frame.handshake session token ∈ earlier.taken := by
  intro taken
  obtain ⟨beat, here⟩ : ∃ beat, (history {} (shortLived false))[3]? = some beat := ⟨_, rfl⟩
  have found : ((history {} (shortLived false))[3]?).all fun beat =>
      decide (beat.befell = some .retry ∧ beat.before.failures ≤ ({} : SessionConfig).retryBudget ∧
        beat.after.phase = .failed) := by
    decide +kernel
  rw [here, Option.all_some, decide_eq_true_eq] at found
  obtain ⟨retried, within, failed⟩ := found
  have untaken : ¬∃ earlier ∈ (history {} (shortLived false)).take 3,
      Frame.handshake ⟨"S"⟩ ⟨"T"⟩ ∈ earlier.taken := by
    decide +kernel
  exact untaken (taken {} (shortLived false) 3 beat here retried within (by decide +kernel) failed
    ⟨"S"⟩ ⟨"T"⟩ (by decide +kernel))

/-! ## Where nothing is refused -/

/-- **Where transports take the handshakes, a session gives up only if its token was handed over.** -/
theorem given_up_only_if_taken {turns : List Turn} {k : Nat} {beat : Beat}
    (here : (history config turns)[k]? = some beat) (retried : beat.befell = some .retry)
    (unknown : instances ((history config turns).take k) = [])
    (willing : ∀ earlier ∈ (history config turns).take k, earlier.declined = [])
    (failed : beat.after.phase = .failed) :
    ∃ session token,
      (deliveries ((history config turns).take k)).getLast? = some (session, token) ∧
        ∃ earlier ∈ (history config turns).take k,
          Frame.handshake session token ∈ earlier.taken := by
  obtain ⟨life, same⟩ := (life_of config turns).at here
  rw [same] at retried
  obtain ⟨session, token, last, ⟨presented, -⟩ | ⟨-, connecting, -⟩⟩ :=
    retry_outcome life retried unknown
  · obtain ⟨earlier, member, taken | declined⟩ := presented.answered
    · exact ⟨session, token, last, earlier, member, taken⟩
    · rw [willing earlier member] at declined
      cases declined
  · rw [same, connecting] at failed
    cases failed

end Session

end Tether
