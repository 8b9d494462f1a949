/-
# Tether.Proofs.Session.Phases -- what a session holds in each phase

A session has eight optional belongings: the transport in use, the one before it, the
flavour still to be opened, three timers, a reconnect request and its identity.  The
phase decides which of them there are (`Arranged`):

    idle, failed    nothing
    connecting      a transport, or the settle timer and the flavour to open after it
    handshaking     a transport, and no timer
    ready           a transport, an instance and a token; the silence timer, unless it ran out
    reconnecting    the retry timer or a request, never both; perhaps a transport given up

No handler sees to this alone, because handlers call each other in the middle of their
work.  So each act that a handler can end in (`giveUp`, `fail`, `init`, `request`,
`teardown`) is shown to arrange the session by itself, whatever it was before; only
`fail` and `request` ask for something first.

A reconnecting session waits for something as long as no reply brought empty
credentials.  The proposition `usable` in the definitions below stands for that; the
rest of the invariant does not depend on it.

* `handle_coherent` -- every input, in any phase, leaves an arranged session arranged.
* `life_coherent` -- so every session that was ever reached is arranged.
* `run_arranged` -- what there is after every input of every run.
* `usable_of_read` -- the replies that the reconnect client reads are usable.
-/
import Mathlib.Tactic.ByContra
import Tether.Proofs.Session.Run
import Tether.Reconnect

set_option autoImplicit false

namespace Tether

/-- Credentials that a reply brings can be presented. -/
def ReconnectReply.Usable : ReconnectReply → Prop
  | .credentials session token => session.isEmpty = false ∧ token.isEmpty = false
  | .refresh => True

def Input.Usable : Input → Prop
  | .resolved _ _ (some reply) => reply.Usable
  | _ => True

namespace Session

/-! ## Arrangements -/

structure Bare (s : Session) : Prop where
  active : s.active = none
  retired : s.retired = none
  pendingKind : s.pendingKind = none
  settle : s.settle.pending = false
  retry : s.retry.pending = false
  silence : s.health.timer.pending = false
  requesting : s.requesting = false

/-- There are credentials to present, and nothing of an earlier attempt. -/
structure Cleared (s : Session) : Prop where
  retired : s.retired = none
  retry : s.retry.pending = false
  silence : s.health.timer.pending = false
  requesting : s.requesting = false
  sessionId : s.sessionId.isSome = true
  accessToken : s.accessToken.isSome = true

/-- A transport is being opened, or will be once the settle delay has passed. -/
structure Opening (s : Session) : Prop extends s.Cleared where
  stage :
    (s.active.isSome = true ∧ s.settle.pending = false ∧ s.pendingKind = none) ∨
      (s.active = none ∧ s.settle.pending = true ∧ s.pendingKind.isSome = true)

/-- The credentials were presented and the reply is awaited. -/
structure Greeting (s : Session) : Prop where
  active : s.active.isSome = true
  sessionId : s.sessionId.isSome = true
  retired : s.retired = none
  pendingKind : s.pendingKind = none
  settle : s.settle.pending = false
  retry : s.retry.pending = false
  silence : s.health.timer.pending = false
  requesting : s.requesting = false

structure Flowing (s : Session) : Prop where
  active : s.active.isSome = true
  sessionId : s.sessionId.isSome = true
  instanceId : s.instanceId.isSome = true
  continuation : s.continuation.isSome = true
  retired : s.retired = none
  pendingKind : s.pendingKind = none
  settle : s.settle.pending = false
  retry : s.retry.pending = false
  silence : s.health.timer.pending = !s.health.lost
  requesting : s.requesting = false
  failures : s.failures = 0
  manualPending : s.manualPending = false

structure Paused (s : Session) : Prop where
  active : s.active = none
  pendingKind : s.pendingKind = none
  settle : s.settle.pending = false
  silence : s.health.timer.pending = false

/-- Between a failure and the next attempt: a retry or a request is to come. -/
structure Waiting (usable : Prop) (s : Session) : Prop extends s.Paused where
  exclusive : s.retry.pending = true → s.requesting = false
  driven : usable → s.retry.pending = true ∨ s.requesting = true

def Arranged (usable : Prop) (s : Session) : Prop :=
  match s.phase with
  | .idle | .failed => s.Bare
  | .connecting => s.Opening
  | .handshaking => s.Greeting
  | .ready => s.Flowing
  | .reconnecting => s.Waiting usable

def Credited (s : Session) : Prop :=
  (∀ session, s.sessionId = some session → session.isEmpty = false) ∧
    ∀ token, s.accessToken = some token → token.isEmpty = false

structure Coherent (usable : Prop) (s : Session) : Prop where
  arranged : s.Arranged usable
  credited : s.Credited

/-! ## Reading an arrangement -/

section Reading

variable {usable : Prop} {s : Session}

theorem arranged_failed (phase : s.phase = .failed) : s.Arranged usable ↔ s.Bare := by
  rw [Arranged, phase]

theorem arranged_idle (phase : s.phase = .idle) : s.Arranged usable ↔ s.Bare := by
  rw [Arranged, phase]

theorem arranged_connecting (phase : s.phase = .connecting) : s.Arranged usable ↔ s.Opening := by
  rw [Arranged, phase]

theorem arranged_handshaking (phase : s.phase = .handshaking) : s.Arranged usable ↔ s.Greeting := by
  rw [Arranged, phase]

theorem arranged_ready (phase : s.phase = .ready) : s.Arranged usable ↔ s.Flowing := by
  rw [Arranged, phase]

theorem arranged_reconnecting (phase : s.phase = .reconnecting) :
    s.Arranged usable ↔ s.Waiting usable := by
  rw [Arranged, phase]

/-- With a transport in use there is something that can fail. -/
theorem Arranged.alive (arranged : s.Arranged usable) (used : s.active ≠ none) : s.Alive := by
  constructor
  · intro phase
    exact used ((arranged_failed phase).1 arranged).active
  · intro phase
    exact used ((arranged_idle phase).1 arranged).active

/-- Only a session that reconnects waits for a retry or a request. -/
theorem Arranged.unhurried (arranged : s.Arranged usable) (other : s.phase ≠ .reconnecting) :
    s.retry.pending = false ∧ s.requesting = false := by
  cases phase : s.phase with
  | idle =>
      have bare := (arranged_idle phase).1 arranged
      exact ⟨bare.retry, bare.requesting⟩
  | failed =>
      have bare := (arranged_failed phase).1 arranged
      exact ⟨bare.retry, bare.requesting⟩
  | reconnecting => exact absurd phase other
  | connecting =>
      have opening := (arranged_connecting phase).1 arranged
      exact ⟨opening.retry, opening.requesting⟩
  | handshaking =>
      have greeting := (arranged_handshaking phase).1 arranged
      exact ⟨greeting.retry, greeting.requesting⟩
  | ready =>
      have flowing := (arranged_ready phase).1 arranged
      exact ⟨flowing.retry, flowing.requesting⟩

/-- Only a session that connects has a flavour to open later. -/
theorem Arranged.settled (arranged : s.Arranged usable) (other : s.phase ≠ .connecting) :
    s.settle.pending = false ∧ s.pendingKind = none := by
  cases phase : s.phase with
  | idle =>
      have bare := (arranged_idle phase).1 arranged
      exact ⟨bare.settle, bare.pendingKind⟩
  | failed =>
      have bare := (arranged_failed phase).1 arranged
      exact ⟨bare.settle, bare.pendingKind⟩
  | connecting => exact absurd phase other
  | reconnecting =>
      have waiting := (arranged_reconnecting phase).1 arranged
      exact ⟨waiting.settle, waiting.pendingKind⟩
  | handshaking =>
      have greeting := (arranged_handshaking phase).1 arranged
      exact ⟨greeting.settle, greeting.pendingKind⟩
  | ready =>
      have flowing := (arranged_ready phase).1 arranged
      exact ⟨flowing.settle, flowing.pendingKind⟩

/-- Only a session that is ready listens for silence. -/
theorem Arranged.unwatched (arranged : s.Arranged usable) (other : s.phase ≠ .ready) :
    s.health.timer.pending = false := by
  cases phase : s.phase with
  | idle => exact ((arranged_idle phase).1 arranged).silence
  | failed => exact ((arranged_failed phase).1 arranged).silence
  | connecting => exact ((arranged_connecting phase).1 arranged).silence
  | reconnecting => exact ((arranged_reconnecting phase).1 arranged).silence
  | handshaking => exact ((arranged_handshaking phase).1 arranged).silence
  | ready => exact absurd phase other

/-- A session that waits for a retry reconnects. -/
theorem Arranged.awaits_retry (arranged : s.Arranged usable) (pending : s.retry.pending = true) :
    s.phase = .reconnecting := by
  by_contra other
  cases (arranged.unhurried other).1.symm.trans pending

/-- So does one that waits for the reply to a request. -/
theorem Arranged.awaits_reply (arranged : s.Arranged usable) (requesting : s.requesting = true) :
    s.phase = .reconnecting := by
  by_contra other
  cases (arranged.unhurried other).2.symm.trans requesting

/-- One that waits for the settle delay connects, and has no transport in use, but one to open. -/
theorem Arranged.awaits_settle (arranged : s.Arranged usable) (pending : s.settle.pending = true) :
    s.phase = .connecting ∧ s.active = none ∧ s.pendingKind.isSome = true := by
  have phase : s.phase = .connecting := by
    by_contra other
    cases (arranged.settled other).1.symm.trans pending
  refine ⟨phase, ?_⟩
  rcases ((arranged_connecting phase).1 arranged).stage with ⟨-, free, -⟩ | ⟨unused, -, kept⟩
  · cases free.symm.trans pending
  · exact ⟨unused, kept⟩

/-- Effects are no belongings. -/
theorem Coherent.withOutbox (coherent : s.Coherent usable) (effects : List Effect) :
    (s.withOutbox effects).Coherent usable := by
  obtain ⟨arranged, credited⟩ := coherent
  refine ⟨?_, credited⟩
  cases phase : s.phase with
  | idle => exact Iff.mpr (arranged_idle phase) { (arranged_idle phase).1 arranged with }
  | failed => exact Iff.mpr (arranged_failed phase) { (arranged_failed phase).1 arranged with }
  | connecting =>
      exact Iff.mpr (arranged_connecting phase) { (arranged_connecting phase).1 arranged with }
  | handshaking =>
      exact Iff.mpr (arranged_handshaking phase) { (arranged_handshaking phase).1 arranged with }
  | ready => exact Iff.mpr (arranged_ready phase) { (arranged_ready phase).1 arranged with }
  | reconnecting =>
      exact Iff.mpr (arranged_reconnecting phase) { (arranged_reconnecting phase).1 arranged with }

theorem Coherent.perform (coherent : s.Coherent usable) (effect : Effect) :
    (s.perform effect).Coherent usable :=
  coherent.withOutbox _

/-- Less is known of the replies, so less of the session. -/
theorem Coherent.weaken {weaker : Prop} (coherent : s.Coherent usable) (less : weaker → usable) :
    s.Coherent weaker := by
  obtain ⟨arranged, credited⟩ := coherent
  refine ⟨?_, credited⟩
  by_cases phase : s.phase = .reconnecting
  · have waiting := (arranged_reconnecting phase).1 arranged
    exact Iff.mpr (arranged_reconnecting phase)
      { waiting with driven := fun held => waiting.driven (less held) }
  · unfold Arranged at arranged ⊢
    split at arranged <;> simp_all

end Reading

/-! ## Acts that arrange a session -/

section Acts

variable {usable : Prop} (setup : Setup) {s : Session}

theorem teardown_bare (s : Session) : s.teardown.Bare := by
  rw [teardown_eq]
  exact ⟨rfl, rfl, rfl, rfl, rfl, rfl, rfl⟩

theorem teardown_credited (credited : s.Credited) : s.teardown.Credited := by
  rw [teardown_eq]
  exact credited

theorem giveUp_coherent (credited : s.Credited) : s.giveUp.Coherent usable := by
  rw [giveUp_eq]
  exact ⟨Iff.mpr (arranged_failed rfl) ⟨rfl, rfl, rfl, rfl, rfl, rfl, rfl⟩, credited⟩

/-- A failure arranges the session, whatever broke down, unless a request goes on. -/
theorem fail_coherent (alive : s.Alive) (credited : s.Credited)
    (quiet : s.requesting = false) : (s.fail setup).Coherent usable := by
  rw [fail_eq setup alive, countFailure]
  split
  · exact giveUp_coherent credited
  · rw [startRetry_eq]
    exact ⟨Iff.mpr (arranged_reconnecting rfl)
      ⟨⟨rfl, rfl, rfl, rfl⟩, fun _ => quiet, fun _ => .inl rfl⟩, credited⟩

theorem openLink_coherent (kind : TransportKind) (phase : s.phase = .connecting)
    (cleared : s.Cleared) (free : s.settle.pending = false) (nothing : s.pendingKind = none)
    (credited : s.Credited) : (s.openLink kind).Coherent usable :=
  ⟨Iff.mpr (arranged_connecting phase) { cleared with stage := .inl ⟨rfl, free, nothing⟩ },
    credited⟩

/-- Fresh credentials arrange the session, whatever went on before. -/
theorem init_coherent {session : SessionId} {token : AccessToken}
    (given : (session.isEmpty || token.isEmpty) = false) (forceFallback : Bool) (s : Session) :
    (s.init setup session token forceFallback).Coherent usable := by
  have credited : (s.renewed session token).Credited := by
    rw [Bool.or_eq_false_iff] at given
    constructor
    · intro other same
      cases same
      exact given.1
    · intro other same
      cases same
      exact given.2
  rw [init_eq setup given]
  split
  · rw [startSettle_eq]
    exact ⟨Iff.mpr (arranged_connecting rfl)
      ⟨⟨rfl, rfl, rfl, rfl, rfl, rfl⟩, .inr ⟨rfl, rfl, rfl⟩⟩, credited⟩
  · rename_i bare
    simp only [Bool.or_eq_true, Option.isSome_iff_ne_none, not_or, Decidable.not_not] at bare
    rw [cancelSettle_eq]
    exact openLink_coherent _ rfl ⟨bare.2, rfl, rfl, rfl, rfl, rfl⟩ rfl rfl credited

theorem request_coherent (instance_ : InstanceId) (manual : Bool) (phase : s.phase = .reconnecting)
    (paused : s.Paused) (free : s.retry.pending = false) (credited : s.Credited) :
    (s.request instance_ manual).Coherent usable := by
  rw [request_eq]
  refine ⟨Iff.mpr (arranged_reconnecting phase) { paused with
    exclusive := fun pending => ?_
    driven := fun _ => .inr rfl }, credited⟩
  cases free.symm.trans pending

end Acts

/-! ## Handlers -/

section Handlers

variable {usable : Prop} (setup : Setup) (accepting : Bool) {s : Session}

/-- What waits for the settle delay is opened. -/
theorem openPending_coherent (phase : s.phase = .connecting) (cleared : s.Cleared)
    (free : s.settle.pending = false) (kept : s.pendingKind.isSome = true)
    (credited : s.Credited) : s.openPending.Coherent usable := by
  obtain ⟨kind, kept⟩ := Option.isSome_iff_exists.1 kept
  unfold openPending
  rw [kept]
  dsimp only
  rw [if_pos phase]
  exact openLink_coherent kind phase { cleared with } free rfl credited

theorem onRetry_coherent (phase : s.phase = .reconnecting) (paused : s.Paused)
    (free : s.retry.pending = false) (credited : s.Credited) :
    (s.onRetry setup).Coherent usable := by
  unfold onRetry
  rw [if_pos phase]
  split
  · exact request_coherent _ false phase paused free credited
  · split
    · rename_i session token held tokenHeld _
      refine init_coherent setup ?_ false s
      rw [credited.1 session held, credited.2 token tokenHeld, Bool.or_false]
    · exact giveUp_coherent credited

theorem onReply_coherent (phase : s.phase = .reconnecting) (paused : s.Paused)
    (quiet : s.requesting = false) (credited : s.Credited) (manual : Bool)
    (reply : Option ReconnectReply) (sound : usable → ∀ given ∈ reply, given.Usable) :
    (s.onReply setup manual reply).Coherent usable := by
  match reply with
  | some (.credentials session token) =>
      cases given : session.isEmpty || token.isEmpty with
      | true =>
          have ignored := init_empty setup given false { s with manualPending := manual }
          show ({ s with manualPending := manual }.init setup session token false).Coherent usable
          rw [ignored]
          refine ⟨Iff.mpr (arranged_reconnecting phase)
            { paused with exclusive := fun _ => quiet, driven := fun held => ?_ }, credited⟩
          obtain ⟨some_, someToken⟩ := sound held _ rfl
          rw [some_, someToken] at given
          cases given
      | false => exact init_coherent setup given false _
  | some .refresh =>
      have idle : ({ s.teardown with phase := .idle } : Session).Coherent usable :=
        ⟨Iff.mpr (arranged_idle rfl) { teardown_bare s with }, teardown_credited credited⟩
      exact idle.perform _
  | none =>
      have alive : s.Alive := alive_of_phase phase ⟨nofun, nofun⟩
      exact fail_coherent setup alive credited quiet

theorem reconnect_coherent (coherent : s.Coherent usable) : s.reconnect.Coherent usable := by
  cases allowed : s.canReconnect with
  | false =>
      unfold reconnect
      rw [allowed]
      exact coherent
  | true =>
      cases known : s.instanceId with
      | none =>
          unfold reconnect
          rw [if_pos allowed, known]
          exact coherent.perform _
      | some instance_ =>
          have unsettled : s.phase ≠ .connecting := by
            intro connecting
            rw [canReconnect, connecting] at allowed
            cases allowed
          obtain ⟨free, nothing⟩ := coherent.arranged.settled unsettled
          rw [reconnect_eq allowed known]
          exact request_coherent instance_ true rfl ⟨rfl, nothing, free, rfl⟩ rfl
            coherent.credited

theorem onOpened_coherent (coherent : s.Coherent usable) {link : Link}
    (used : s.active = some link) : (s.onOpened setup accepting).Coherent usable := by
  by_cases phase : s.phase = .connecting
  · obtain ⟨arranged, credited⟩ := coherent
    have opening := (arranged_connecting phase).1 arranged
    obtain ⟨session, held⟩ := Option.isSome_iff_exists.1 opening.sessionId
    obtain ⟨token, tokenHeld⟩ := Option.isSome_iff_exists.1 opening.accessToken
    obtain ⟨free, nothing⟩ : s.settle.pending = false ∧ s.pendingKind = none := by
      rcases opening.stage with ⟨-, stage⟩ | ⟨unused, -⟩
      · exact stage
      · rw [unused] at used
        cases used
    rw [onOpened_eq setup accepting phase held tokenHeld used]
    split
    · have inUse : s.active.isSome = true := Option.isSome_iff_exists.2 ⟨link, used⟩
      have greeting : s.presenting.Greeting :=
        { opening with active := inUse, pendingKind := nothing, settle := free }
      exact Coherent.perform ⟨(arranged_handshaking rfl).2 greeting, credited⟩ _
    · exact fail_coherent setup ⟨nofun, nofun⟩ credited opening.requesting
  · rw [onOpened_late setup accepting phase]
    exact coherent

theorem onHandshakeReply_coherent (coherent : s.Coherent usable) (phase : s.phase = .handshaking)
    (data : String) : (s.onHandshakeReply setup data).Coherent usable := by
  have greeting := (arranged_handshaking phase).1 coherent.arranged
  cases read : Frame.readHandshakeReply data with
  | ok parts =>
      rw [onHandshakeReply_ok setup read]
      exact ⟨Iff.mpr (arranged_ready rfl)
        { greeting with
          instanceId := rfl
          continuation := rfl
          silence := rfl
          failures := rfl
          manualPending := rfl }, coherent.credited⟩
  | error fault =>
      rw [onHandshakeReply_error setup read]
      have alive : s.Alive := alive_of_phase phase ⟨nofun, nofun⟩
      exact fail_coherent setup alive coherent.credited greeting.requesting

/-- A frame that counts keeps the session ready. -/
theorem touch_coherent (phase : s.phase = .ready) (flowing : s.Flowing) (credited : s.Credited) :
    (s.touch setup).Coherent usable := by
  rw [touch_eq]
  exact ⟨Iff.mpr (arranged_ready phase) { flowing with silence := rfl }, credited⟩

theorem onFrame_coherent (coherent : s.Coherent usable) (phase : s.phase = .ready) (data : String) :
    (s.onFrame setup accepting data).Coherent usable := by
  obtain ⟨arranged, credited⟩ := coherent
  have flowing := (arranged_ready phase).1 arranged
  have alive : s.Alive := alive_of_phase phase ⟨nofun, nofun⟩
  match read : Frame.readInbound data with
  | .ok (.framed token remainder) =>
      have counted : ((s.rotated token).touch setup).Coherent usable :=
        touch_coherent setup phase { flowing with continuation := rfl } credited
      by_cases ping : remainder = Frame.ping
      · subst ping
        obtain ⟨session, held⟩ := Option.isSome_iff_exists.1 flowing.sessionId
        obtain ⟨link, used⟩ := Option.isSome_iff_exists.1 flowing.active
        rw [onFrame_ping setup accepting read held used]
        split
        · exact touch_coherent setup phase { flowing with continuation := rfl } credited
        · exact fail_coherent setup alive credited flowing.requesting
      · rw [onFrame_payload setup accepting read ping]
        split
        · exact counted
        · exact counted.perform _
  | .ok .invalidRequest =>
      rw [onFrame_idle setup accepting (.inr read)]
      exact ⟨arranged, credited⟩
  | .error fault =>
      by_cases empty : fault = .empty
      · rw [onFrame_idle setup accepting (.inl (empty ▸ read))]
        exact ⟨arranged, credited⟩
      · rw [onFrame_broken setup accepting read empty, onBrokenFrame_eq]
        exact ⟨Iff.mpr (arranged_failed rfl) ⟨rfl, rfl, rfl, rfl, rfl, rfl, rfl⟩, credited⟩

theorem onTransport_coherent (coherent : s.Coherent usable) (number : Nat)
    (event : TransportEvent) : (s.onTransport setup accepting number event).Coherent usable := by
  by_cases own : s.active.map (·.number) = some number
  · obtain ⟨link, linked, -⟩ := Option.map_eq_some_iff.1 own
    have used : s.active ≠ none := by
      rw [linked]
      exact nofun
    have other : s.phase ≠ .reconnecting := by
      intro phase
      exact used ((arranged_reconnecting phase).1 coherent.arranged).active
    have down : (s.fail setup).Coherent usable :=
      fail_coherent setup (coherent.arranged.alive used) coherent.credited
        (coherent.arranged.unhurried other).2
    unfold onTransport
    rw [if_pos own]
    cases event with
    | opened => exact onOpened_coherent setup accepting coherent linked
    | closed => exact down
    | failed => exact down
    | message data =>
        dsimp only
        split
        · exact onHandshakeReply_coherent setup coherent ‹_› data
        · exact onFrame_coherent setup accepting coherent ‹_› data
        · exact coherent
  · rw [onTransport_stale setup accepting own]
    exact coherent

theorem send_coherent (coherent : s.Coherent usable) (task : String)
    (fields : List (String × String)) : (s.send setup accepting task fields).2.Coherent usable := by
  by_cases phase : s.phase = .ready
  · have flowing := (arranged_ready phase).1 coherent.arranged
    have alive : s.Alive := alive_of_phase phase ⟨nofun, nofun⟩
    cases lost : s.health.lost with
    | true =>
        rw [send_lost setup accepting task fields phase lost]
        exact fail_coherent setup alive coherent.credited flowing.requesting
    | false =>
        obtain ⟨session, held⟩ := Option.isSome_iff_exists.1 flowing.sessionId
        obtain ⟨token, current⟩ := Option.isSome_iff_exists.1 flowing.continuation
        obtain ⟨link, used⟩ := Option.isSome_iff_exists.1 flowing.active
        rw [send_ready setup accepting task fields phase lost held current used]
        split
        · exact coherent.perform _
        · exact fail_coherent setup alive coherent.credited flowing.requesting
  · rw [send_unready setup accepting task fields phase]
    exact coherent

/-- Which timer may run out in which phase, and what that leads to. -/
theorem onExpiry_coherent (coherent : s.Coherent usable) (timer : SessionTimer)
    (pending : (s.slot timer).pending = true) :
    ((s.claimed timer).onExpiry setup timer).Coherent usable := by
  obtain ⟨arranged, credited⟩ := coherent
  cases timer with
  | settle =>
      obtain ⟨phase, -, kept⟩ := arranged.awaits_settle pending
      have opening := (arranged_connecting phase).1 arranged
      exact openPending_coherent (s := s.claimed .settle) phase { opening with } rfl kept credited
  | retry =>
      have phase := arranged.awaits_retry pending
      have waiting := (arranged_reconnecting phase).1 arranged
      exact onRetry_coherent (s := s.claimed .retry) setup phase { waiting with } rfl credited
  | silence =>
      have phase : s.phase = .ready := by
        by_contra other
        cases (arranged.unwatched other).symm.trans pending
      have flowing := (arranged_ready phase).1 arranged
      have lost : (s.claimed .silence).Coherent usable :=
        ⟨Iff.mpr (arranged_ready phase) { flowing with silence := rfl }, credited⟩
      exact lost.perform _

/-- **Every input keeps the invariant**, in whatever phase it finds the session. -/
theorem handle_coherent (coherent : s.Coherent usable) (input : Input)
    (sound : usable → input.Usable) :
    (s.handle setup accepting input).Coherent usable := by
  obtain ⟨arranged, credited⟩ := coherent
  cases input with
  | init session token forceFallback =>
      cases given : session.isEmpty || token.isEmpty with
      | true =>
          show (s.init setup session token forceFallback).Coherent usable
          rw [init_empty setup given]
          exact ⟨arranged, credited⟩
      | false => exact init_coherent setup given forceFallback s
  | send call task fields =>
      exact (send_coherent setup accepting ⟨arranged, credited⟩ task fields).perform _
  | reconnect => exact reconnect_coherent ⟨arranged, credited⟩
  | close => exact ⟨(arranged_idle rfl).2 { teardown_bare s with }, teardown_credited credited⟩
  | expired timer ticket =>
      rw [handle_expired]
      split
      · exact onExpiry_coherent setup ⟨arranged, credited⟩ timer (And.right ‹_›)
      · exact ⟨arranged, credited⟩
  | resolved attempt manual reply =>
      rw [handle_resolved]
      split
      · rename_i current
        have phase := arranged.awaits_reply current.2
        have waiting := (arranged_reconnecting phase).1 arranged
        refine onReply_coherent (s := s.answered) setup phase { waiting with } rfl credited manual
          reply fun held given brought => ?_
        cases brought
        exact sound held
      · exact ⟨arranged, credited⟩
  | transport number event =>
      exact onTransport_coherent setup accepting ⟨arranged, credited⟩ number event

end Handlers

/-! ## Runs -/

variable {config : SessionConfig}

theorem fresh_coherent : ({} : Session).Coherent True :=
  ⟨(arranged_idle rfl).2 ⟨rfl, rfl, rfl, rfl, rfl, rfl, rfl⟩, nofun, nofun⟩

theorem life_coherent {past : List Beat} {s : Session} (life : Life config past s) :
    s.Coherent (∀ beat ∈ past, beat.turn.input.Usable) := by
  induction life with
  | fresh => exact fresh_coherent.weaken fun _ => trivial
  | @beat past s life turn ih =>
      have known : s.Coherent (∀ beat ∈ past ++ [s.beat config turn], beat.turn.input.Usable) :=
        ih.weaken fun all beat member => all beat (List.mem_append_left _ member)
      cases running : s.running with
      | false =>
          rw [(beat_stopped running turn).1]
          exact known
      | true =>
          rw [(beat_running running life.outbox turn).1]
          have sound : (∀ beat ∈ past ++ [s.beat config turn], beat.turn.input.Usable) →
              turn.input.Usable :=
            fun all => all _ (List.mem_append_right _ (List.mem_singleton_self _))
          have handled :=
            handle_coherent (turn.setup config) turn.accepting known turn.input sound
          exact handled.withOutbox []

/-- Whatever was brought, the session is arranged, but for what it waits for. -/
theorem Life.coherent {past : List Beat} {s : Session} (life : Life config past s) :
    s.Coherent False :=
  (life_coherent life).weaken False.elim

/-- **What a session holds fits its phase after every input of every run**: with any tuning, in
any surroundings, whatever was queued before the phase changed.  That a reconnecting session
has a retry or a request to wait for needs that no reply brought empty credentials. -/
theorem run_arranged (config : SessionConfig) (turns : List Turn) :
    (reached config turns).Arranged (∀ turn ∈ turns, turn.input.Usable) := by
  refine ((life_coherent (life_of config turns)).weaken fun all beat member => ?_).arranged
  rw [← map_turn_history config turns] at all
  exact all beat.turn (List.mem_map_of_mem member)

/-- The replies that the reconnect client reads are usable. -/
theorem usable_of_read {outcome : Http.Outcome} {reply : ReconnectReply}
    (ok : Reconnect.read outcome = .ok reply) : reply.Usable := by
  obtain ⟨response, -, -, read⟩ := Reconnect.read_success ok
  unfold Frame.readReconnectReply at read
  dsimp only at read
  split at read
  · cases read
  · split at read
    · cases read
      trivial
    · split at read
      · split at read
        · cases read
        · rename_i given
          cases read
          rw [Bool.not_eq_true, Bool.or_eq_false_iff] at given
          exact given
      · cases read

end Session

end Tether
