/-
# Tether.Proofs.Session.Sends -- what the answer to a send stands for

Whoever sends a task learns one bit.  Behind it lie four ways in which a send can go:

    not ready                    false   nothing happens
    ready, the frame is taken    true    nothing else happens
    ready, the frame is refused  false   the transport goes, one failure is counted
    ready, the connection lost   false   the same, and no frame was offered

There is no fifth, in which a session that is ready lacks the transport, the identity or the
token that a frame needs: a session that is ready has all three (`Flowing`).

* `send_unheard`, `send_carried`, `send_broken` -- the beat of a send, way by way.
* `send_answered` -- what the bit stands for, in any run.
-/
import Tether.Proofs.Session.Deeds
import Tether.Proofs.Session.Tally
import Tether.Proofs.Session.Tenure

set_option autoImplicit false

namespace Tether

def Effect.carried : Effect → Option (Nat × String)
  | .sent number frame => some (number, frame)
  | _ => none

def Effect.answered : Effect → Option (Nat × Bool)
  | .answer call passed => some (call, passed)
  | _ => none

namespace Session

def Beat.carried (beat : Beat) : List (Nat × String) := beat.effects.filterMap Effect.carried

def Beat.answers (beat : Beat) : List (Nat × Bool) := beat.effects.filterMap Effect.answered

/-- The two ends a failure can come to: a retry is to come after the retry delay, or the session
has given up. -/
def SetBack (config : SessionConfig) (beat : Beat) : Prop :=
  beat.after.phase = .reconnecting ∧ beat.after.retry.pending = true ∧
      .start .retry beat.after.retry.ticket config.retryDelay.toNat ∈ beat.effects ∨
    beat.after.phase = .failed

/-- A send brought to light that the transport in use is gone: no frame was taken, that transport
and no other was given up, and one failure was counted. -/
structure Severed (config : SessionConfig) (beat : Beat) : Prop where
  cause : beat.before.health.lost = true ∨ beat.turn.accepting = false
  carried : beat.carried = []
  detached : ∃ link, beat.before.active = some link ∧ beat.after.active = none ∧
    ∀ number, .retire number ∈ beat.effects ↔ number = link.number
  failure : beat.befell = some .failure
  counted : beat.after.failures = beat.before.failures + 1
  outcome : SetBack config beat

theorem carried_signals (beat : Beat) :
    beat.carried = (signals beat.effects).filterMap Effect.carried := by
  refine filterMap_signals (fun effect unnoticed => ?_) beat.effects
  cases effect <;> first | rfl | cases unnoticed

theorem answers_signals (beat : Beat) :
    beat.answers = (signals beat.effects).filterMap Effect.answered := by
  refine filterMap_signals (fun effect unnoticed => ?_) beat.effects
  cases effect <;> first | rfl | cases unnoticed

section Ways

variable {config : SessionConfig} {past : List Beat} {s : Session} {turn : Turn} {call : Nat}
  {task : String} {fields : List (String × String)}

/-- What a session that runs makes of a send. -/
theorem beat_send (life : Life config past s) (running : s.running = true)
    (called : turn.input = .send call task fields) {sent : Bool} {t : Session}
    (sends : s.send (turn.setup config) turn.accepting task fields = (sent, t)) :
    (s.beat config turn).after = t.withOutbox [] ∧
      (s.beat config turn).effects = t.outbox ++ [.answer call sent] := by
  obtain ⟨after, effects⟩ := beat_running running life.outbox turn
  have handled : s.handle (turn.setup config) turn.accepting turn.input =
      t.perform (.answer call sent) := by
    rw [called, handle, sends]
  rw [handled] at after effects
  exact ⟨after, effects⟩

theorem send_unheard (life : Life config past s) (running : s.running = true)
    (called : turn.input = .send call task fields) (unready : s.phase ≠ .ready) :
    (s.beat config turn).after = s ∧ (s.beat config turn).effects = [.answer call false] := by
  have sends := send_unready (turn.setup config) turn.accepting task fields unready
  obtain ⟨after, effects⟩ := beat_send life running called sends
  rw [after, effects, life.outbox]
  refine ⟨?_, rfl⟩
  rw [withOutbox, ← life.outbox]

theorem send_carried (life : Life config past s) (running : s.running = true)
    (called : turn.input = .send call task fields) (ready : s.phase = .ready)
    (well : s.health.lost = false) (accepts : turn.accepting = true) {session : SessionId}
    {token : ContinuationToken} {link : Link} (held : s.sessionId = some session)
    (current : s.continuation = some token) (used : s.active = some link) :
    (s.beat config turn).after = s ∧
      (s.beat config turn).effects =
        [.sent link.number (Frame.outbound session token task fields), .answer call true] := by
  have sends := send_ready (turn.setup config) turn.accepting task fields ready well held current
    used
  rw [if_pos accepts] at sends
  obtain ⟨after, effects⟩ := beat_send life running called sends
  rw [after, effects, perform, life.outbox]
  refine ⟨?_, rfl⟩
  show s.withOutbox [] = s
  rw [withOutbox, ← life.outbox]

/-- What a failure of a session that was ready leaves of its transport and its count. -/
theorem Upshot.severs {setup : Setup} {v w : Footing} {given : List Effect}
    (upshot : Upshot setup v (some .failure) w given) {link : Link} (used : v.active = some link)
    (alone : v.retired = none) :
    w.active = none ∧ (∀ number, .retire number ∈ given ↔ number = link.number) ∧
      (w.phase = .reconnecting ∧ w.retry.pending = true ∧
          .start .retry w.retry.ticket setup.config.retryDelay.toNat ∈ given ∨
        w.phase = .failed) := by
  have ousted : v.ousted = [link] := by rw [Footing.ousted, used, alone]; rfl
  have links : v.aside.links = [link] := by
    rw [Footing.links, Footing.aside, used]
    rfl
  cases upshot with
  | setBack =>
      refine ⟨rfl, fun number => ?_, .inl ⟨rfl, rfl, ?_⟩⟩
      · simp [ousted, retirement]
      · exact List.mem_append_right _ (List.mem_singleton_self _)
  | beaten =>
      refine ⟨rfl, fun number => ?_, .inr rfl⟩
      simp [ousted, links, retirement, surrender]

/-- Whether a frame is refused or none is offered, no frame is taken, and the send is answered. -/
theorem send_broken_signals (life : Life config past s) (running : s.running = true)
    (called : turn.input = .send call task fields) (ready : s.phase = .ready)
    (cause : s.health.lost = true ∨ turn.accepting = false) :
    (s.beat config turn).carried = [] ∧ (s.beat config turn).answers = [(call, false)] := by
  have flowing := (arranged_ready ready).1 life.coherent.arranged
  have alive : s.Alive := alive_of_phase ready ⟨nofun, nofun⟩
  have before := standing life.outbox
  rw [carried_signals, answers_signals]
  cases gone : s.health.lost with
  | true =>
      have sends := send_lost (turn.setup config) turn.accepting task fields ready gone
      obtain ⟨-, effects⟩ := beat_send life running called sends
      obtain ⟨_, -, after⟩ := before.fail (turn.setup config) alive
      rw [effects, signals_append, after.gives]
      exact ⟨rfl, rfl⟩
  | false =>
      have refuses : turn.accepting = false := by
        rcases cause with lost | refuses
        · cases gone.symm.trans lost
        · exact refuses
      obtain ⟨session, held⟩ := Option.isSome_iff_exists.1 flowing.sessionId
      obtain ⟨token, current⟩ := Option.isSome_iff_exists.1 flowing.continuation
      obtain ⟨link, used⟩ := Option.isSome_iff_exists.1 flowing.active
      have sends := send_ready (turn.setup config) turn.accepting task fields ready gone held
        current used
      rw [if_neg (Bool.eq_false_iff.1 refuses)] at sends
      obtain ⟨-, effects⟩ := beat_send life running called sends
      obtain ⟨_, -, after⟩ := (before.perform (.refused link.number
        (Frame.outbound session token task fields))).fail (turn.setup config) alive
      rw [effects, signals_append, after.gives]
      exact ⟨rfl, rfl⟩

theorem send_broken (life : Life config past s) (running : s.running = true)
    (called : turn.input = .send call task fields) (ready : s.phase = .ready)
    (cause : s.health.lost = true ∨ turn.accepting = false) :
    (s.beat config turn).answers = [(call, false)] ∧ Severed config (s.beat config turn) := by
  have flowing := (arranged_ready ready).1 life.coherent.arranged
  obtain ⟨link, used⟩ := Option.isSome_iff_exists.1 flowing.active
  have failure : (s.beat config turn).befell = some .failure := by
    have befell : (s.beat config turn).befell = s.befalls turn.accepting turn.input :=
      befell_running running
    rw [befell, called]
    exact if_pos ⟨ready, cause⟩
  have upshot := beat_upshot life turn
  rw [failure] at upshot
  obtain ⟨-, counted, -⟩ := upshot.failure
  obtain ⟨unused, retired, outcome⟩ := upshot.severs used flowing.retired
  obtain ⟨carried, answers⟩ := send_broken_signals life running called ready cause
  refine ⟨answers, cause, carried, ⟨link, used, unused, fun number => ?_⟩, failure, counted, ?_⟩
  · rw [← mem_marks rfl]
    exact retired number
  · rw [mem_marks rfl] at outcome
    exact outcome

end Ways

/-- **What the answer to a send stands for.**  Every send of a session that runs is answered once.
The answer is true exactly if the transport in use took one frame, the task under the session's
identity and current token, and then nothing else happened.  A session that is not ready answers
false, and nothing happens.  If one that is ready answers false then no frame was taken, the
transport in use was given up, and one failure was counted. -/
theorem send_answered {config : SessionConfig} {turns : List Turn} {k : Nat} {beat : Beat}
    (here : (history config turns)[k]? = some beat) (running : beat.before.running = true)
    {call : Nat} {task : String} {fields : List (String × String)}
    (called : beat.turn.input = .send call task fields) :
    ∃ sent, beat.answers = [(call, sent)] ∧
      (sent = true ↔
        ∃ link session token, beat.before.active = some link ∧
          beat.before.sessionId = some session ∧ beat.before.continuation = some token ∧
          beat.carried = [(link.number, Frame.outbound session token task fields)]) ∧
      (sent = true →
        beat.before.phase = .ready ∧ beat.after = beat.before ∧
          ∃ number frame, beat.effects = [.sent number frame, .answer call true]) ∧
      (beat.before.phase ≠ .ready →
        sent = false ∧ beat.after = beat.before ∧ beat.effects = [.answer call false]) ∧
      (beat.before.phase = .ready → sent = false →
        beat.before.failures = 0 ∧ Severed config beat) := by
  obtain ⟨life, same⟩ := (life_of config turns).at here
  by_cases ready : beat.before.phase = .ready
  · have flowing := (arranged_ready ready).1 life.coherent.arranged
    by_cases cause : beat.before.health.lost = true ∨ beat.turn.accepting = false
    · have broken := send_broken life running called ready cause
      rw [← same] at broken
      obtain ⟨answers, severed⟩ := broken
      refine ⟨false, answers, ⟨nofun, ?_⟩, nofun, fun unready => absurd ready unready,
        fun _ _ => ⟨flowing.failures, severed⟩⟩
      rintro ⟨link, session, token, -, -, -, carried⟩
      cases severed.carried.symm.trans carried
    · rw [not_or, Bool.not_eq_true, Bool.not_eq_false] at cause
      obtain ⟨session, held⟩ := Option.isSome_iff_exists.1 flowing.sessionId
      obtain ⟨token, current⟩ := Option.isSome_iff_exists.1 flowing.continuation
      obtain ⟨link, used⟩ := Option.isSome_iff_exists.1 flowing.active
      have taken := send_carried life running called ready cause.1 cause.2 held current used
      rw [← same] at taken
      obtain ⟨after, effects⟩ := taken
      have carried : beat.carried = [(link.number, Frame.outbound session token task fields)] := by
        rw [Beat.carried, effects]
        rfl
      refine ⟨true, ?_, iff_of_true rfl ⟨link, session, token, used, held, current, carried⟩,
        fun _ => ⟨ready, after, _, _, effects⟩, fun unready => absurd ready unready, nofun⟩
      rw [Beat.answers, effects]
      rfl
  · have unheard := send_unheard life running called ready
    rw [← same] at unheard
    obtain ⟨after, effects⟩ := unheard
    refine ⟨false, ?_, ⟨nofun, ?_⟩, nofun, fun _ => ⟨rfl, after, effects⟩,
      fun phase => absurd phase ready⟩
    · rw [Beat.answers, effects]
      rfl
    · rintro ⟨link, session, token, -, -, -, carried⟩
      rw [Beat.carried, effects] at carried
      cases carried

/-- A session is ready when its transport stops to take frames; then a task is to be sent. -/
def clogged : List Turn :=
  [{ input := .init ⟨"S1"⟩ ⟨"T1"⟩ false }, { input := .transport 0 .opened },
    { input := .transport 0 (.message "I1&K0") },
    { input := .send 7 "echo" [], accepting := false }]

/-- The send is answered false, and sets the session back. -/
theorem clogged_send_answered :
    ∃ beat, (history {} clogged)[3]? = some beat ∧ beat.before.running = true ∧
      beat.turn.input = .send 7 "echo" [] ∧ beat.answers = [(7, false)] ∧ Severed {} beat := by
  obtain ⟨beat, here, running, called, ready, answers⟩ :
      ∃ beat, (history {} clogged)[3]? = some beat ∧ beat.before.running = true ∧
        beat.turn.input = .send 7 "echo" [] ∧ beat.before.phase = .ready ∧
        beat.answers = [(7, false)] := by
    refine ⟨_, rfl, ?_, ?_, ?_, ?_⟩ <;> decide +kernel
  obtain ⟨sent, answered, -, -, -, severed⟩ := send_answered here running called
  obtain rfl : sent = false := by
    rw [answers] at answered
    cases answered
    rfl
  exact ⟨beat, here, running, called, answers, (severed ready rfl).2⟩

end Session

end Tether
