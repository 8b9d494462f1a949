/-
# Tether.Proofs.Session.Deeds -- what a session does about its inputs

To the two ends of the line most of a session is hidden.  What they can tell is its
stance: the phase, the identity and the credentials it holds, and the number of the
transport in use.  Of its effects they notice the signals: transports opened, frames
offered, requests made, sends answered.

An input tells a session something, or nothing (`Hearing`).  What can follow is one of a
few deeds (`Deed`), each of which says all that changes in the stance and all the
signals there are.  Whatever is claimed of frames, tokens and credentials follows from
the deeds; no handler need be opened for it again.

* `handle_does` -- every input a session handles leads to a deed.
* `beat_deed` -- and so does every beat of a life.
-/
import Tether.Proofs.Session.Phases

set_option autoImplicit false

namespace Tether

/-! ## Hearing -/

/-- What an input tells a session that minds it. -/
inductive Hearing
  /-- Credentials to present. -/
  | credentials (session : SessionId) (token : AccessToken)
  /-- A task to send. -/
  | task (call : Nat) (task : String) (fields : List (String × String))
  /-- The transport with this number opened. -/
  | opened (number : Nat)
  /-- On the transport with this number, the handshake succeeded. -/
  | welcome (number : Nat) (instanceId : InstanceId) (token : ContinuationToken)
  /-- On the transport with this number, a frame came with a token. -/
  | frame (number : Nat) (token : ContinuationToken) (remainder : String)
deriving DecidableEq

namespace Session

def presentable (session : SessionId) (token : AccessToken) : Option Hearing :=
  if (session.isEmpty || token.isEmpty) = true then none else some (.credentials session token)

/-- What a message on the transport in use tells the session.  A frame that carries no token, or
that comes in another phase, tells it nothing. -/
def reads (s : Session) (number : Nat) (data : String) : Option Hearing :=
  match s.phase with
  | .handshaking =>
      match Frame.readHandshakeReply data with
      | .ok (instanceId, token) => some (.welcome number instanceId token)
      | .error _ => none
  | .ready =>
      match Frame.readInbound data with
      | .ok (.framed token remainder) => some (.frame number token remainder)
      | _ => none
  | _ => none

/-- What `input` tells the session.  Empty credentials, superseded replies and events of other
transports tell it nothing. -/
def hears (s : Session) : Input → Option Hearing
  | .init session token _ => presentable session token
  | .send call task fields => some (.task call task fields)
  | .resolved attempt _ (some (.credentials session token)) =>
      if attempt = s.attempt ∧ s.requesting = true then presentable session token else none
  | .transport number .opened =>
      if s.active.map (·.number) = some number then some (.opened number) else none
  | .transport number (.message data) =>
      if s.active.map (·.number) = some number then s.reads number data else none
  | _ => none

/-- What the input of a beat told the session.  One that stopped hears nothing. -/
def Beat.heard (beat : Beat) : Option Hearing :=
  if beat.before.running = true then beat.before.hears beat.turn.input else none

/-! ## Stances and signals -/

/-- What of a session the two ends of the line can tell. -/
structure Stance where
  phase : Phase
  sessionId : Option SessionId
  accessToken : Option AccessToken
  spent : Bool
  instanceId : Option InstanceId
  continuation : Option ContinuationToken
  active : Option Nat
  nextLink : Nat

def stance (s : Session) : Stance where
  phase := s.phase
  sessionId := s.sessionId
  accessToken := s.accessToken
  spent := s.spent
  instanceId := s.instanceId
  continuation := s.continuation
  active := s.active.map (·.number)
  nextLink := s.nextLink

/-- Transports opened, frames offered, requests made and sends answered are noticed. -/
def noticed : Effect → Bool
  | .open _ | .sent .. | .refused .. | .request .. | .answer .. => true
  | _ => false

def signals (effects : List Effect) : List Effect := effects.filter noticed

@[simp] theorem signals_append (first second : List Effect) :
    signals (first ++ second) = signals first ++ signals second := List.filter_append ..

namespace Stance

def drop (phase : Phase) (v : Stance) : Stance := { v with phase := phase, active := none }

def install (session : SessionId) (token : AccessToken) (v : Stance) : Stance :=
  { v with
    phase := .connecting
    sessionId := some session
    accessToken := some token
    spent := false
    continuation := none
    active := none }

def opened (v : Stance) : Stance := { v with active := some v.nextLink, nextLink := v.nextLink + 1 }

def presenting (v : Stance) : Stance := { v with phase := .handshaking, spent := true }

def welcomed (instanceId : InstanceId) (token : ContinuationToken) (v : Stance) : Stance :=
  { v with phase := .ready, instanceId := some instanceId, continuation := some token }

def rotated (token : ContinuationToken) (v : Stance) : Stance :=
  { v with continuation := some token }

end Stance

end Session

/-- The phases in which no transport is in use. -/
def Phase.Down (phase : Phase) : Prop := phase = .idle ∨ phase = .reconnecting ∨ phase = .failed

theorem Phase.Down.other {phase : Phase} (down : phase.Down) :
    phase ≠ .connecting ∧ phase ≠ .handshaking ∧ phase ≠ .ready := by
  rcases down with rfl | rfl | rfl <;> exact ⟨nofun, nofun, nofun⟩

namespace Session

/-! ## Deeds -/

/-- A frame offered to transport `number` is sent; or it is refused, and the transport dropped. -/
inductive Offer (number : Nat) (frame : String) (v : Stance) : Bool → Stance → List Effect → Prop
  | sent : Offer number frame v true v [.sent number frame]
  | refused (phase : Phase) (down : phase.Down) :
      Offer number frame v false (v.drop phase) [.refused number frame]

/-- The next transport is opened now or, after the settle delay, later. -/
inductive Fresh (v : Stance) : Stance → List Effect → Prop
  | now (kind : TransportKind) : Fresh v v.opened [.open ⟨v.nextLink, kind⟩]
  | later : Fresh v v []

/-- What a session in stance `v` does about what it heard: the stance after, and the signals.
`accepting` says whether the transport in use takes frames. -/
inductive Deed (accepting : Bool) (v : Stance) : Option Hearing → Stance → List Effect → Prop
  | still : Deed accepting v none v []
  | drop (phase : Phase) (down : phase.Down) : Deed accepting v none (v.drop phase) []
  | install (session : SessionId) (token : AccessToken) {w : Stance} {signals : List Effect}
      (fresh : Fresh (v.install session token) w signals) :
      Deed accepting v (some (.credentials session token)) w signals
  /-- The credentials held were never presented, and are used again. -/
  | reinstall {session : SessionId} {token : AccessToken} {w : Stance} {signals : List Effect}
      (held : v.sessionId = some session) (tokenHeld : v.accessToken = some token)
      (unspent : v.spent = false) (fresh : Fresh (v.install session token) w signals) :
      Deed accepting v none w signals
  | settled {session : SessionId} {token : AccessToken} (phase : v.phase = .connecting)
      (held : v.sessionId = some session) (tokenHeld : v.accessToken = some token)
      (unused : v.active = none) (kind : TransportKind) :
      Deed accepting v none v.opened [.open ⟨v.nextLink, kind⟩]
  | greet {session : SessionId} {token : AccessToken} {number : Nat} {w : Stance}
      {signals : List Effect} (phase : v.phase = .connecting) (held : v.sessionId = some session)
      (tokenHeld : v.accessToken = some token) (used : v.active = some number)
      (offer : Offer number (Frame.handshake session token) v.presenting accepting w signals) :
      Deed accepting v (some (.opened number)) w signals
  /-- Only the first opening of a transport counts. -/
  | reopened (number : Nat) : Deed accepting v (some (.opened number)) v []
  | welcome {number : Nat} (phase : v.phase = .handshaking) (used : v.active = some number)
      (instanceId : InstanceId) (token : ContinuationToken) :
      Deed accepting v (some (.welcome number instanceId token)) (v.welcomed instanceId token) []
  | frame {number : Nat} {remainder : String} (phase : v.phase = .ready)
      (used : v.active = some number) (token : ContinuationToken)
      (payload : remainder ≠ Frame.ping) :
      Deed accepting v (some (.frame number token remainder)) (v.rotated token) []
  | pong {session : SessionId} {number : Nat} {token : ContinuationToken} {w : Stance}
      {signals : List Effect} (phase : v.phase = .ready) (held : v.sessionId = some session)
      (used : v.active = some number)
      (offer : Offer number (Frame.pong session token) (v.rotated token) accepting w signals) :
      Deed accepting v (some (.frame number token Frame.ping)) w signals
  | unready (phase : v.phase ≠ .ready) (call : Nat) (task : String)
      (fields : List (String × String)) :
      Deed accepting v (some (.task call task fields)) v [.answer call false]
  /-- The connection was lost, which a send brings to light. -/
  | lost (phase : Phase) (down : phase.Down) (call : Nat) (task : String)
      (fields : List (String × String)) :
      Deed accepting v (some (.task call task fields)) (v.drop phase) [.answer call false]
  | send {session : SessionId} {number : Nat} {token : ContinuationToken} {call : Nat}
      {task : String} {fields : List (String × String)} {w : Stance} {signals : List Effect}
      (phase : v.phase = .ready) (held : v.sessionId = some session)
      (current : v.continuation = some token) (used : v.active = some number)
      (offer : Offer number (Frame.outbound session token task fields) v accepting w signals) :
      Deed accepting v (some (.task call task fields)) w (signals ++ [.answer call accepting])
  | request {instanceId : InstanceId} (attempt : Nat) (known : v.instanceId = some instanceId) :
      Deed accepting v none v [.request attempt false instanceId]
  | reconnect {instanceId : InstanceId} (attempt : Nat) (known : v.instanceId = some instanceId) :
      Deed accepting v none (v.drop .reconnecting) [.request attempt true instanceId]

/-! ## What is not noticed -/

/-- What is made of noticed effects alone can be made of the signals. -/
theorem filterMap_signals {α : Type} {f : Effect → Option α}
    (unnoticed : ∀ effect, noticed effect = false → f effect = none) (effects : List Effect) :
    effects.filterMap f = (signals effects).filterMap f := by
  rw [signals, List.filterMap_filter]
  refine congrArg (List.filterMap · effects) (funext fun effect => ?_)
  cases notice : noticed effect with
  | true => rfl
  | false => exact unnoticed effect notice

theorem signals_revocation (timer : SessionTimer) (slot : TimerSlot) :
    signals (revocation timer slot) = [] := by
  unfold revocation
  cases slot.revoked <;> rfl

theorem signals_retirement (links : List Link) : signals (retirement links) = [] := by
  refine List.filter_eq_nil_iff.2 fun effect member => ?_
  obtain ⟨link, -, rfl⟩ := List.mem_map.1 member
  exact Bool.false_ne_true

theorem signals_withdrawal (s : Session) : signals s.withdrawal = [] := by
  unfold withdrawal
  split <;> rfl

theorem signals_verdict (feedback : Feedback) (s : Session) :
    signals (s.verdict feedback) = [] := by
  unfold verdict
  split <;> rfl

theorem signals_attention (setup : Setup) (s : Session) : signals (s.attention setup) = [] := by
  rw [attention, signals_append, signals_revocation]
  rfl

theorem signals_wreckage (s : Session) : signals s.wreckage = [] := by
  simp only [wreckage, signals_append, signals_retirement, signals_revocation, signals_verdict,
    List.nil_append]
  rfl

theorem signals_clearance (s : Session) : signals s.clearance = [] := by
  simp only [clearance, signals_append, signals_retirement, signals_revocation, signals_withdrawal,
    List.nil_append]

/-! ## What the acts come to -/

/-- The session stands so, and has given these signals. -/
structure Shows (s : Session) (v : Stance) (given : List Effect) : Prop where
  stands : s.stance = v
  gives : signals s.outbox = given

section Acts

variable (setup : Setup) {s : Session} {v : Stance} {given : List Effect}

/-- Effects that are not noticed are no signals. -/
theorem quiet {outbox more : List Effect} (shown : signals outbox = given)
    (unnoticed : signals more = []) : signals (outbox ++ more) = given := by
  rw [signals_append, shown, unnoticed, List.append_nil]

theorem Shows.perform (before : s.Shows v given) (effect : Effect) :
    (s.perform effect).Shows v (given ++ signals [effect]) :=
  ⟨before.stands, by rw [Session.perform, signals_append, before.gives]⟩

theorem Shows.teardown (before : s.Shows v given) {phase : Phase} (same : v.phase = phase) :
    s.teardown.Shows (v.drop phase) given := by
  obtain ⟨rfl, shown⟩ := before
  subst same
  rw [teardown_eq]
  exact ⟨rfl, quiet shown (signals_clearance s)⟩

theorem Shows.giveUp (before : s.Shows v given) : s.giveUp.Shows (v.drop .failed) given := by
  obtain ⟨rfl, shown⟩ := before
  rw [giveUp_eq]
  exact ⟨rfl, quiet (quiet shown (signals_clearance s)) rfl⟩

theorem Shows.fail (before : s.Shows v given) (alive : s.Alive) :
    ∃ phase, phase.Down ∧ (s.fail setup).Shows (v.drop phase) given := by
  obtain ⟨rfl, shown⟩ := before
  have counted : (s.wrecked.counted setup).Shows (s.stance.drop .reconnecting) given :=
    ⟨rfl, quiet shown (signals_wreckage s)⟩
  rw [fail_eq setup alive, countFailure_eq]
  split
  · exact ⟨.failed, .inr (.inr rfl), counted.giveUp⟩
  · refine ⟨.reconnecting, .inr (.inl rfl), ?_⟩
    rw [startRetry_eq]
    exact ⟨rfl, quiet (quiet counted.gives (signals_revocation ..)) rfl⟩

theorem Shows.init (before : s.Shows v given) {session : SessionId} {token : AccessToken}
    (usable : (session.isEmpty || token.isEmpty) = false) (forceFallback : Bool) :
    ∃ w more, Fresh (v.install session token) w more ∧
      (s.init setup session token forceFallback).Shows w (given ++ more) := by
  obtain ⟨rfl, shown⟩ := before
  have renewed : signals (s.renewed session token).outbox = given :=
    quiet (quiet (quiet shown (signals_revocation ..)) (signals_withdrawal s))
      (signals_revocation ..)
  rw [init_eq setup usable]
  split
  · refine ⟨_, [], .later, ?_, ?_⟩
    · rw [startSettle_eq]
      rfl
    · rw [startSettle_eq, List.append_nil]
      refine quiet (quiet (quiet renewed ?_) (signals_revocation ..)) rfl
      exact signals_retirement _
  · rename_i unused
    refine ⟨_, _, .now (s.chooseKind setup forceFallback), ?_, ?_⟩
    · rw [cancelSettle_eq]
      rfl
    · rw [cancelSettle_eq]
      show signals ((s.renewed session token).outbox ++ revocation .settle _ ++ [.open _]) = _
      rw [signals_append, quiet renewed (signals_revocation ..)]
      rfl

theorem Shows.touch (before : s.Shows v given) : (s.touch setup).Shows v given := by
  obtain ⟨rfl, shown⟩ := before
  rw [touch_eq]
  refine ⟨rfl, quiet (quiet shown (signals_attention setup s)) ?_⟩
  split <;> rfl

/-- A refused frame is a failure. -/
theorem Shows.refused (before : s.Shows v []) (alive : s.Alive)
    (number : Nat) (frame : String) :
    ∃ w given, Offer number frame v false w given ∧
      ((s.perform (.refused number frame)).fail setup).Shows w given := by
  obtain ⟨phase, down, after⟩ := (before.perform (.refused number frame)).fail setup alive
  exact ⟨_, _, .refused phase down, after⟩

end Acts

/-! ## What the handlers do -/

/-- What became of `s` is a deed. -/
def Does (accepting : Bool) (s : Session) (heard : Option Hearing) (t : Session) : Prop :=
  Deed accepting s.stance heard t.stance (signals t.outbox)

theorem Shows.does {accepting : Bool} {s t : Session} {heard : Option Hearing} {w : Stance}
    {given : List Effect} (after : t.Shows w given) (deed : Deed accepting s.stance heard w given) :
    s.Does accepting heard t := by
  obtain ⟨rfl, rfl⟩ := after
  exact deed

section Handlers

variable (setup : Setup) (accepting : Bool) {s : Session}

/-- A session that has asked for nothing yet. -/
theorem standing (empty : s.outbox = []) : s.Shows s.stance [] :=
  ⟨rfl, by rw [empty]; rfl⟩

theorem fail_does (empty : s.outbox = []) (alive : s.Alive) :
    s.Does accepting none (s.fail setup) := by
  obtain ⟨phase, down, after⟩ := (standing empty).fail setup alive
  exact after.does (.drop phase down)

theorem still_does (empty : s.outbox = []) : s.Does accepting none s :=
  (standing empty).does .still

theorem onOpened_does (coherent : s.Coherent False) (empty : s.outbox = []) {link : Link}
    (used : s.active = some link) :
    s.Does accepting (some (.opened link.number)) (s.onOpened setup accepting) := by
  by_cases phase : s.phase = .connecting
  · have opening := (arranged_connecting phase).1 coherent.arranged
    obtain ⟨session, held⟩ := Option.isSome_iff_exists.1 opening.sessionId
    obtain ⟨token, tokenHeld⟩ := Option.isSome_iff_exists.1 opening.accessToken
    have number : s.stance.active = some link.number := congrArg (Option.map Link.number) used
    have before : s.presenting.Shows s.stance.presenting [] := ⟨rfl, (standing empty).gives⟩
    rw [onOpened_eq setup accepting phase held tokenHeld used]
    cases accepting with
    | true => exact (before.perform _).does (.greet phase held tokenHeld number .sent)
    | false =>
        obtain ⟨w, given, offer, after⟩ := before.refused setup ⟨nofun, nofun⟩ link.number
          (Frame.handshake session token)
        exact after.does (.greet phase held tokenHeld number offer)
  · rw [onOpened_late setup accepting phase]
    exact (standing empty).does (.reopened link.number)

theorem onHandshakeReply_does (empty : s.outbox = []) (phase : s.phase = .handshaking)
    {number : Nat} (used : s.active.map (·.number) = some number) (data : String) :
    s.Does accepting (s.reads number data) (s.onHandshakeReply setup data) := by
  unfold reads
  rw [phase]
  dsimp only
  cases read : Frame.readHandshakeReply data with
  | ok parts =>
      obtain ⟨instanceId, token⟩ := parts
      rw [onHandshakeReply_ok setup read]
      have after : (s.welcomed setup instanceId token).Shows (s.stance.welcomed instanceId token)
          [] := by
        refine ⟨rfl, quiet (quiet (quiet (quiet (standing empty).gives ?_) rfl) ?_) rfl⟩
        · exact signals_attention setup s
        · exact signals_verdict .reconnectSucceeded s
      exact after.does (.welcome phase used instanceId token)
  | error fault =>
      rw [onHandshakeReply_error setup read]
      have alive : s.Alive := alive_of_phase phase ⟨nofun, nofun⟩
      have told := (standing empty).perform (.event (.fault (.handshake fault)))
      obtain ⟨phase, down, after⟩ := told.fail setup alive
      exact after.does (.drop phase down)

theorem onFrame_does (coherent : s.Coherent False) (empty : s.outbox = [])
    (phase : s.phase = .ready) {link : Link} (used : s.active = some link) (data : String) :
    s.Does accepting (s.reads link.number data) (s.onFrame setup accepting data) := by
  have flowing := (arranged_ready phase).1 coherent.arranged
  have number : s.stance.active = some link.number := congrArg (Option.map Link.number) used
  unfold reads
  rw [phase]
  dsimp only
  match read : Frame.readInbound data with
  | .ok (.framed token remainder) =>
      have rotated : (s.rotated token).Shows (s.stance.rotated token) [] :=
        ⟨rfl, (standing empty).gives⟩
      by_cases ping : remainder = Frame.ping
      · subst ping
        obtain ⟨session, held⟩ := Option.isSome_iff_exists.1 flowing.sessionId
        have alive : (s.rotated token).Alive := alive_of_phase phase ⟨nofun, nofun⟩
        rw [onFrame_ping setup accepting read held used]
        cases accepting with
        | true =>
            exact ((rotated.perform _).touch setup).does (.pong phase held number .sent)
        | false =>
            obtain ⟨w, given, offer, after⟩ := rotated.refused setup alive link.number
              (Frame.pong session token)
            exact after.does (.pong phase held number offer)
      · rw [onFrame_payload setup accepting read ping]
        have touched := rotated.touch setup
        show s.Does accepting (some (.frame link.number token remainder)) _
        split
        · exact touched.does (.frame phase number token ping)
        · exact (touched.perform _).does (.frame phase number token ping)
  | .ok .invalidRequest =>
      rw [onFrame_idle setup accepting (.inr read)]
      exact still_does accepting empty
  | .error fault =>
      by_cases nothing : fault = .empty
      · rw [onFrame_idle setup accepting (.inl (nothing ▸ read))]
        exact still_does accepting empty
      · rw [onFrame_broken setup accepting read nothing, onBrokenFrame_eq]
        refine Shows.does ⟨rfl, ?_⟩ (.drop .failed (.inr (.inr rfl)))
        exact quiet (quiet (standing empty).gives (signals_clearance s)) rfl

theorem onTransport_does (coherent : s.Coherent False) (empty : s.outbox = []) (number : Nat)
    (event : TransportEvent) :
    s.Does accepting (s.hears (.transport number event))
      (s.onTransport setup accepting number event) := by
  by_cases own : s.active.map (·.number) = some number
  · obtain ⟨link, used, rfl⟩ := Option.map_eq_some_iff.1 own
    have inUse : s.active ≠ none := by
      rw [used]
      exact nofun
    have alive := coherent.arranged.alive inUse
    unfold onTransport
    rw [if_pos own]
    cases event with
    | opened =>
        have heard : s.hears (.transport link.number .opened) = some (.opened link.number) :=
          if_pos own
        rw [heard]
        exact onOpened_does setup accepting coherent empty used
    | closed => exact fail_does setup accepting empty alive
    | failed => exact fail_does setup accepting empty alive
    | message data =>
        show s.Does accepting (if _ then s.reads link.number data else none) _
        rw [if_pos own]
        dsimp only
        split
        · exact onHandshakeReply_does setup accepting empty ‹_› own data
        · exact onFrame_does setup accepting coherent empty ‹_› used data
        · rename_i handshaking ready
          have unread : s.reads link.number data = none := by
            unfold reads
            split
            · exact absurd ‹_› handshaking
            · exact absurd ‹_› ready
            · rfl
          rw [unread]
          exact still_does accepting empty
  · have unheard : s.hears (.transport number event) = none := by
      cases event with
      | opened => exact if_neg own
      | message data => exact if_neg own
      | _ => rfl
    rw [onTransport_stale setup accepting own, unheard]
    exact still_does accepting empty

theorem send_does (coherent : s.Coherent False) (empty : s.outbox = []) (call : Nat)
    (task : String) (fields : List (String × String)) :
    s.Does accepting (some (.task call task fields))
      ((s.send setup accepting task fields).2.perform
        (.answer call (s.send setup accepting task fields).1)) := by
  have before := standing empty
  by_cases phase : s.phase = .ready
  · have flowing := (arranged_ready phase).1 coherent.arranged
    have alive : s.Alive := alive_of_phase phase ⟨nofun, nofun⟩
    cases gone : s.health.lost with
    | true =>
        obtain ⟨phase', down, after⟩ := before.fail setup alive
        rw [send_lost setup accepting task fields phase gone]
        exact (after.perform _).does (.lost phase' down call task fields)
    | false =>
        obtain ⟨session, held⟩ := Option.isSome_iff_exists.1 flowing.sessionId
        obtain ⟨token, current⟩ := Option.isSome_iff_exists.1 flowing.continuation
        obtain ⟨link, used⟩ := Option.isSome_iff_exists.1 flowing.active
        have number : s.stance.active = some link.number := congrArg (Option.map Link.number) used
        rw [send_ready setup accepting task fields phase gone held current used]
        cases accepting with
        | true =>
            exact ((before.perform _).perform _).does (.send phase held current number .sent)
        | false =>
            obtain ⟨w, given, offer, after⟩ := before.refused setup alive link.number
              (Frame.outbound session token task fields)
            exact (after.perform _).does (.send phase held current number offer)
  · rw [send_unready setup accepting task fields phase]
    exact (before.perform _).does (.unready phase call task fields)

/-- Starting over with what was heard, which is nothing if it is empty. -/
theorem Shows.init_does {t : Session} (before : t.Shows s.stance []) (session : SessionId)
    (token : AccessToken) (forceFallback : Bool) :
    s.Does accepting (presentable session token) (t.init setup session token forceFallback) := by
  unfold presentable
  cases usable : session.isEmpty || token.isEmpty with
  | true =>
      rw [if_pos rfl, init_empty setup usable]
      exact before.does .still
  | false =>
      obtain ⟨w, given, fresh, after⟩ := before.init setup usable forceFallback
      rw [if_neg Bool.false_ne_true]
      exact after.does (.install session token fresh)

theorem reconnect_does (empty : s.outbox = []) : s.Does accepting none s.reconnect := by
  have before := standing empty
  cases allowed : s.canReconnect with
  | false =>
      unfold reconnect
      rw [allowed]
      exact still_does accepting empty
  | true =>
      cases known : s.instanceId with
      | none =>
          unfold reconnect
          rw [if_pos allowed, known]
          exact (before.perform _).does .still
      | some instanceId =>
          rw [reconnect_eq allowed known, request_eq]
          refine Shows.does ⟨rfl, ?_⟩ (.reconnect (s.attempt + 1) known)
          rw [signals_append]
          refine congrArg (· ++ _) (quiet (quiet (quiet (quiet before.gives ?_) ?_) ?_) ?_)
          · exact signals_revocation ..
          · exact signals_retirement ..
          · exact signals_revocation ..
          · exact signals_withdrawal _

theorem onRetry_does (empty : s.outbox = []) : s.Does accepting none (s.onRetry setup) := by
  have before := standing empty
  unfold onRetry
  split
  · split
    · rename_i instanceId known
      rw [request_eq]
      refine Shows.does ⟨rfl, ?_⟩ (.request (s.attempt + 1) known)
      rw [signals_append, quiet before.gives (signals_withdrawal s)]
      rfl
    · split
      · rename_i session token held tokenHeld unspent
        cases usable : session.isEmpty || token.isEmpty with
        | true =>
            rw [init_empty setup usable]
            exact still_does accepting empty
        | false =>
            obtain ⟨w, given, fresh, after⟩ := before.init setup usable false
            exact after.does (.reinstall held tokenHeld unspent fresh)
      · exact before.giveUp.does (.drop .failed (.inr (.inr rfl)))
  · exact still_does accepting empty

theorem openPending_does (empty : s.outbox = []) (cleared : s.Cleared) (unused : s.active = none) :
    s.Does accepting none s.openPending := by
  have before := standing empty
  unfold openPending
  split
  · exact before.does .still
  · rename_i kind _
    dsimp only
    split
    · rename_i phase
      obtain ⟨session, held⟩ := Option.isSome_iff_exists.1 cleared.sessionId
      obtain ⟨token, tokenHeld⟩ := Option.isSome_iff_exists.1 cleared.accessToken
      have number : s.stance.active = none := congrArg (Option.map Link.number) unused
      refine Shows.does ⟨rfl, ?_⟩ (.settled phase held tokenHeld number kind)
      show signals (s.outbox ++ [_]) = _
      rw [empty]
      rfl
    · exact Shows.does ⟨rfl, before.gives⟩ .still

/-- An expiry that counts. -/
theorem onExpiry_does (coherent : s.Coherent False) (empty : s.outbox = []) (timer : SessionTimer)
    (pending : (s.slot timer).pending = true) :
    s.Does accepting none ((s.claimed timer).onExpiry setup timer) := by
  cases timer with
  | settle =>
      obtain ⟨phase, unused, -⟩ := coherent.arranged.awaits_settle pending
      have opening := (arranged_connecting phase).1 coherent.arranged
      exact openPending_does (s := s.claimed .settle) accepting empty { opening with } unused
  | retry => exact onRetry_does (s := s.claimed .retry) setup accepting empty
  | silence =>
      have lost : (s.claimed .silence).Shows s.stance [] := ⟨rfl, (standing empty).gives⟩
      exact (lost.perform _).does .still

/-- A reply that counts. -/
theorem onReply_does (coherent : s.Coherent False) (empty : s.outbox = [])
    (requesting : s.requesting = true) (manual : Bool) (reply : Option ReconnectReply) :
    s.Does accepting (s.hears (.resolved s.attempt manual reply))
      (s.answered.onReply setup manual reply) := by
  have before : s.answered.Shows s.stance [] := ⟨rfl, (standing empty).gives⟩
  match reply with
  | some (.credentials session token) =>
      have told : ({ s.answered with manualPending := manual } : Session).Shows s.stance [] :=
        ⟨rfl, before.gives⟩
      have heard : s.hears (.resolved s.attempt manual (some (.credentials session token))) =
          presentable session token := if_pos ⟨rfl, requesting⟩
      rw [heard]
      exact told.init_does setup accepting session token false
  | some .refresh =>
      have idle : ({ s.answered.teardown with phase := .idle } : Session).Shows
          (s.stance.drop .idle) [] := by
        rw [teardown_eq]
        exact ⟨rfl, quiet before.gives (signals_clearance _)⟩
      exact (idle.perform _).does (.drop .idle (.inl rfl))
  | none =>
      have phase := coherent.arranged.awaits_reply requesting
      have told : ({ s.answered with manualPending := manual } : Session).Shows s.stance [] :=
        ⟨rfl, before.gives⟩
      have alive : s.Alive := alive_of_phase phase ⟨nofun, nofun⟩
      obtain ⟨after, down, shows_⟩ := told.fail setup alive
      exact shows_.does (.drop after down)

/-- **Whatever a session hears leads to a deed.** -/
theorem handle_does (coherent : s.Coherent False) (empty : s.outbox = []) (input : Input) :
    s.Does accepting (s.hears input) (s.handle setup accepting input) := by
  cases input with
  | init session token forceFallback =>
      exact (standing empty).init_does setup accepting session token forceFallback
  | send call task fields => exact send_does setup accepting coherent empty call task fields
  | reconnect => exact reconnect_does accepting empty
  | close =>
      have idle : ({ s.teardown with phase := .idle, running := false } : Session).Shows
          (s.stance.drop .idle) [] := by
        rw [teardown_eq]
        exact ⟨rfl, quiet (standing empty).gives (signals_clearance s)⟩
      exact idle.does (.drop .idle (.inl rfl))
  | expired timer ticket =>
      rw [handle_expired]
      split
      · exact onExpiry_does setup accepting coherent empty timer (And.right ‹_›)
      · exact still_does accepting empty
  | resolved attempt manual reply =>
      rw [handle_resolved]
      split
      · rename_i current
        obtain ⟨rfl, requesting⟩ := current
        exact onReply_does setup accepting coherent empty requesting manual reply
      · rename_i late
        have unheard : s.hears (.resolved attempt manual reply) = none := by
          match reply with
          | some (.credentials session token) => exact if_neg late
          | some .refresh => rfl
          | none => rfl
        rw [unheard]
        exact still_does accepting empty
  | transport number event => exact onTransport_does setup accepting coherent empty number event

end Handlers

/-- **Every beat of a life is a deed.** -/
theorem beat_deed {config : SessionConfig} {past : List Beat} {s : Session}
    (life : Life config past s) (turn : Turn) :
    Deed turn.accepting s.stance (s.beat config turn).heard (s.beat config turn).after.stance
      (signals (s.beat config turn).effects) := by
  cases running : s.running with
  | false =>
      obtain ⟨after, effects⟩ := beat_stopped running turn
      have unheard : (s.beat config turn).heard = none := if_neg (Bool.eq_false_iff.1 running)
      rw [after, effects, unheard]
      exact .still
  | true =>
      obtain ⟨after, effects⟩ := beat_running running life.outbox turn
      have heard : (s.beat config turn).heard = s.hears turn.input := if_pos running
      rw [after, effects, heard]
      have coherent := life.coherent
      exact handle_does (turn.setup config) turn.accepting coherent life.outbox turn.input

theorem Life.deed {config : SessionConfig} {past : List Beat} {s : Session}
    (life : Life config past s) {k : Nat} {beat : Beat} (here : past[k]? = some beat) :
    Deed beat.turn.accepting beat.before.stance beat.heard beat.after.stance
      (signals beat.effects) := by
  obtain ⟨before, same⟩ := life.at here
  have deed := beat_deed before beat.turn
  rw [← same] at deed
  exact deed

end Session

end Tether
