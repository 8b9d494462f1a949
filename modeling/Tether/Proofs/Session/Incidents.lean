/-
# Tether.Proofs.Session.Incidents -- what befalls a session, and what comes of it

Whether a session gets through depends on a part of it only, its footing: the phase, the
failures counted, which transports there are and of what flavour, the settle and the
retry timer, and the reconnect request.  Credentials, tokens and the watch for silence
play no role.  Of its effects those are marked that concern transports, timers that are
started, requests and the verdict on the session.

An input is an incident, or nothing (`Incident`).  A failure is one of five: the
transport in use closes or errs, it refuses a frame, it brings a useless handshake
reply, a send finds the connection lost, or the reconnect request fails.  What comes of
an incident is one of a few upshots (`Upshot`), each of which says all that changes in
the footing and lists all the marked effects in order.  Whatever is claimed of the retry
budget, of fallbacks and of the transports opened and given up follows from the upshots;
no handler need be opened for it again.

* `Bears.fail` -- a failure that the budget allows sets the session back, one past it beats it.
* `handle_upshot` -- every input a session handles comes to one of the upshots.
* `beat_upshot` -- and so does every beat of a life.
-/
import Tether.Proofs.Session.Phases

set_option autoImplicit false

namespace Tether

/-! ## Incidents -/

/-- What an input can mean to the attempts of a session at a connection. -/
inductive Incident
  /-- The connection, or the attempt at one, broke down. -/
  | failure
  /-- The handshake succeeded. -/
  | welcome (instanceId : InstanceId)
  /-- A frame came, so the connection is not lost. -/
  | heard
  /-- A frame broke the protocol. -/
  | breach
  /-- The application brought credentials. -/
  | start (forced : Bool)
  /-- The reconnect request brought credentials. -/
  | credentials
  /-- The reconnect request brought the order to reload. -/
  | refresh
  /-- The user asked to reconnect. -/
  | reconnect
  /-- The settle delay has passed. -/
  | settled
  /-- The retry delay has passed. -/
  | retry
  | close
deriving DecidableEq

def Incident.ofTimer : SessionTimer → Option Incident
  | .settle => some .settled
  | .retry => some .retry
  | .silence => none

/-- The end of a reconnect request.  Empty credentials come to nothing. -/
def Incident.ofReply : Option ReconnectReply → Option Incident
  | some (.credentials session token) =>
      if (session.isEmpty || token.isEmpty) = true then none else some .credentials
  | some .refresh => some .refresh
  | none => some .failure

namespace Session

def tells (accepting : Bool) (s : Session) (data : String) : Option Incident :=
  match s.phase with
  | .handshaking =>
      match Frame.readHandshakeReply data with
      | .ok (instanceId, _) => some (.welcome instanceId)
      | .error _ => some .failure
  | .ready =>
      match Frame.readInbound data with
      | .ok (.framed _ remainder) =>
          if remainder = Frame.ping ∧ accepting = false then some .failure else some .heard
      | .ok .invalidRequest => none
      | .error fault => if fault = .empty then none else some .breach
  | _ => none

def suffers (accepting : Bool) (s : Session) : TransportEvent → Option Incident
  | .opened => if s.phase = .connecting ∧ accepting = false then some .failure else none
  | .message data => s.tells accepting data
  | .closed | .failed => some .failure

/-- What `input` comes to, if the transport in use takes frames as `accepting` says.  Empty
credentials, late answers and events of other transports come to nothing. -/
def befalls (accepting : Bool) (s : Session) : Input → Option Incident
  | .init session token forced =>
      if (session.isEmpty || token.isEmpty) = true then none else some (.start forced)
  | .send _ _ _ =>
      if s.phase = .ready ∧ (s.health.lost = true ∨ accepting = false) then some .failure else none
  | .reconnect =>
      if s.canReconnect = true ∧ s.instanceId.isSome = true then some .reconnect else none
  | .close => some .close
  | .expired timer ticket =>
      if ticket = (s.slot timer).ticket ∧ (s.slot timer).pending = true then Incident.ofTimer timer
      else none
  | .resolved attempt _ reply =>
      if attempt = s.attempt ∧ s.requesting = true then Incident.ofReply reply else none
  | .transport number event =>
      if s.active.map (·.number) = some number then s.suffers accepting event else none

/-- Events of a transport come to a failure, a handshake, a frame or a breach. -/
theorem suffers_cases {accepting : Bool} {s : Session} {event : TransportEvent}
    {incident : Incident} (suffers : s.suffers accepting event = some incident) :
    incident = .failure ∨ (∃ instanceId, incident = .welcome instanceId) ∨ incident = .heard ∨
      incident = .breach := by
  unfold Session.suffers tells at suffers
  repeat' split at suffers
  all_goals cases suffers
  all_goals simp

/-- Starting, reconnecting and closing come from the calls for it alone, credentials from the reply
to the current request, and a retry or the end of the settle delay from the expiry that the session
waits for. -/
def Causes (s : Session) (input : Input) : Incident → Prop
  | .start forced => ∃ session token, input = .init session token forced
  | .credentials =>
      ∃ manual session token,
        input = .resolved s.attempt manual (some (.credentials session token)) ∧
          s.requesting = true ∧ (session.isEmpty || token.isEmpty) = false
  | .reconnect => input = .reconnect
  | .close => input = .close
  | .settled => input = .expired .settle s.settle.ticket ∧ s.settle.pending = true
  | .retry => input = .expired .retry s.retry.ticket ∧ s.retry.pending = true
  | _ => True

theorem befalls_causes {accepting : Bool} {s : Session} {input : Input} {incident : Incident}
    (befell : s.befalls accepting input = some incident) : s.Causes input incident := by
  unfold befalls at befell
  cases input with
  | close =>
      cases befell
      rfl
  | init session token forced =>
      dsimp only at befell
      split at befell <;> cases befell
      exact ⟨session, token, rfl⟩
  | reconnect =>
      dsimp only at befell
      split at befell <;> cases befell
      rfl
  | send call task fields =>
      dsimp only at befell
      split at befell <;> cases befell
      trivial
  | expired timer ticket =>
      dsimp only at befell
      split at befell
      · rename_i current
        obtain ⟨rfl, pending⟩ := current
        cases timer <;> cases befell <;> exact ⟨rfl, pending⟩
      · cases befell
  | resolved attempt manual reply =>
      dsimp only at befell
      split at befell
      · rename_i current
        obtain ⟨rfl, requesting⟩ := current
        unfold Incident.ofReply at befell
        split at befell
        · rename_i session token
          split at befell <;> cases befell
          exact ⟨manual, session, token, rfl, requesting, Bool.eq_false_iff.2 ‹_›⟩
        · cases befell
          trivial
        · cases befell
          trivial
      · cases befell
  | transport number event =>
      dsimp only at befell
      split at befell
      · rcases suffers_cases befell with rfl | ⟨instanceId, rfl⟩ | rfl | rfl <;> trivial
      · cases befell

/-- What befell a session in a beat.  Nothing befalls one that stopped. -/
def Beat.befell (beat : Beat) : Option Incident :=
  if beat.before.running = true then beat.before.befalls beat.turn.accepting beat.turn.input
  else none

theorem befell_some {beat : Beat} {incident : Incident} (befell : beat.befell = some incident) :
    beat.before.running = true ∧
      beat.before.befalls beat.turn.accepting beat.turn.input = some incident := by
  unfold Beat.befell at befell
  split at befell
  · exact ⟨‹_›, befell⟩
  · cases befell

theorem befell_running {beat : Beat} (running : beat.before.running = true) :
    beat.befell = beat.before.befalls beat.turn.accepting beat.turn.input := if_pos running

theorem befell_stopped {beat : Beat} (stopped : beat.before.running = false) :
    beat.befell = none := if_neg (Bool.eq_false_iff.1 stopped)

/-! ## Footings and marks -/

/-- Where a session stands in its attempts at a connection. -/
structure Footing where
  running : Bool
  phase : Phase
  failures : UInt32
  fallback : Bool
  instanceId : Option InstanceId
  active : Option Link
  retired : Option Link
  pendingKind : Option TransportKind
  lastKind : Option TransportKind
  nextLink : Nat
  settle : TimerSlot
  retry : TimerSlot
  attempt : Nat
  requesting : Bool

def footing (s : Session) : Footing where
  running := s.running
  phase := s.phase
  failures := s.failures
  fallback := s.fallback
  instanceId := s.instanceId
  active := s.active
  retired := s.retired
  pendingKind := s.pendingKind
  lastKind := s.lastKind
  nextLink := s.nextLink
  settle := s.settle
  retry := s.retry
  attempt := s.attempt
  requesting := s.requesting

/-- What concerns transports, timers that are started, requests and fatal errors is marked. -/
def marked : Effect → Bool
  | .open _ | .retire _ | .start .. | .request .. => true
  | .show (.fatal _) => true
  | .event (.fault (.framing _)) | .event (.fault (.budgetExhausted _)) => true
  | _ => false

def marks (effects : List Effect) : List Effect := effects.filter marked

@[simp] theorem marks_append (first second : List Effect) :
    marks (first ++ second) = marks first ++ marks second := List.filter_append ..

theorem mem_marks {effects : List Effect} {effect : Effect} (bold : marked effect = true) :
    effect ∈ marks effects ↔ effect ∈ effects := by
  simp [marks, List.mem_filter, bold]

/-- A session that has given up says so, on screen and to the application. -/
def surrender (failures : UInt32) : List Effect :=
  [.show (.fatal .cannotConnect), .event (.fault (.budgetExhausted failures))]

namespace Footing

/-- The transports that have a successor to wait for. -/
def links (v : Footing) : List Link := v.active.toList ++ v.retired.toList

def ousted (v : Footing) : List Link :=
  match v.active with
  | none => []
  | some link => link :: v.retired.toList

def aside (v : Footing) : Footing := { v with active := none, retired := v.active.or v.retired }

def cleared (phase : Phase) (v : Footing) : Footing :=
  { v with
    phase := phase
    active := none
    retired := none
    pendingKind := none
    settle := v.settle.cancel
    retry := v.retry.cancel
    requesting := false }

def counted (budget : UInt32) (v : Footing) : Footing :=
  { v with
    failures := v.failures + 1
    fallback := v.fallback || (v.failures + 1 == budget && v.lastKind != some .polling) }

def setBack (budget : UInt32) (v : Footing) : Footing :=
  { v.aside.counted budget with
    phase := .reconnecting
    pendingKind := none
    settle := v.settle.cancel
    retry := v.retry.schedule
    requesting := false }

def beaten (budget : UInt32) (v : Footing) : Footing :=
  ({ v.aside.counted budget with settle := v.settle.cancel } : Footing).cleared .failed

def kind (persistent forced : Bool) (v : Footing) : TransportKind :=
  if persistent && !forced && !v.fallback then .persistent else .polling

def renewed (v : Footing) : Footing :=
  { v with phase := .connecting, retry := v.retry.cancel, requesting := false }

def opened (kind : TransportKind) (v : Footing) : Footing :=
  { v with
    active := some ⟨v.nextLink, kind⟩
    pendingKind := none
    lastKind := some kind
    nextLink := v.nextLink + 1 }

def asking (v : Footing) : Footing := { v with attempt := v.attempt + 1, requesting := true }

end Footing

/-! ## Upshots -/

/-- Starting over: the next transport is opened at once if there is none to wait for, else its
flavour is kept until the settle delay has passed. -/
inductive Anew (setup : Setup) (forced : Bool) (v : Footing) : Footing → List Effect → Prop
  | now (unused : v.active = none) (gone : v.retired = none) :
      Anew setup forced v
        (({ v.renewed with settle := v.settle.cancel } : Footing).opened
          (v.kind setup.persistent forced))
        [.open ⟨v.nextLink, v.kind setup.persistent forced⟩]
  | later :
      Anew setup forced v
        { v.renewed with
          active := none
          retired := none
          pendingKind := some (v.kind setup.persistent forced)
          settle := v.settle.schedule }
        (retirement v.links ++
          [.start .settle v.settle.schedule.ticket setup.config.settleDelay.toNat])

/-- What comes of an incident that befalls a session on footing `v`: the footing after, and the
marks. -/
inductive Upshot (setup : Setup) (v : Footing) :
    Option Incident → Footing → List Effect → Prop
  | still : Upshot setup v none v []
  /-- The transport opened and took the handshake. -/
  | greet (phase : v.phase = .connecting) (used : v.active.isSome = true) :
      Upshot setup v none { v with phase := .handshaking } []
  /-- A reply that brought empty credentials leaves nothing to wait for. -/
  | idle (phase : v.phase = .reconnecting) : Upshot setup v none { v with requesting := false } []
  | setBack (alive : v.phase ≠ .failed ∧ v.phase ≠ .idle)
      (within : ¬setup.config.retryBudget < v.failures + 1) :
      Upshot setup v (some .failure) (v.setBack setup.config.retryBudget)
        (retirement v.ousted ++
          [.start .retry v.retry.schedule.ticket setup.config.retryDelay.toNat])
  | beaten (alive : v.phase ≠ .failed ∧ v.phase ≠ .idle)
      (past : setup.config.retryBudget < v.failures + 1) :
      Upshot setup v (some .failure) (v.beaten setup.config.retryBudget)
        (retirement v.ousted ++ (retirement v.aside.links ++ surrender (v.failures + 1)))
  | welcome (phase : v.phase = .handshaking) (instanceId : InstanceId) (ticket : Ticket) :
      Upshot setup v (some (.welcome instanceId))
        { v with phase := .ready, failures := 0, instanceId := some instanceId }
        [.start .silence ticket setup.config.silenceTimeout.toNat]
  | heard (phase : v.phase = .ready) (ticket : Ticket) :
      Upshot setup v (some .heard) v [.start .silence ticket setup.config.silenceTimeout.toNat]
  | breach (phase : v.phase = .ready) (data : String) :
      Upshot setup v (some .breach) (v.cleared .failed)
        (retirement v.links ++
          [.show (.fatal (.invalidData data)), .event (.fault (.framing data))])
  | start {forced : Bool} {w : Footing} {marks : List Effect} (anew : Anew setup forced v w marks) :
      Upshot setup v (some (.start forced)) w marks
  | credentials {w : Footing} {marks : List Effect} (phase : v.phase = .reconnecting)
      (anew : Anew setup false v w marks) : Upshot setup v (some .credentials) w marks
  | refresh (phase : v.phase = .reconnecting) :
      Upshot setup v (some .refresh) (v.cleared .idle) (retirement v.links)
  /-- The user can ask once the session gave up, while it waits, and when the connection is lost. -/
  | reconnect {instanceId : InstanceId}
      (allowed : v.phase = .reconnecting ∨ v.phase = .failed ∨ v.phase = .ready)
      (known : v.instanceId = some instanceId) :
      Upshot setup v (some .reconnect)
        ({ v.aside with
            phase := .reconnecting
            failures := if v.phase = .failed then 0 else v.failures
            retry := v.retry.cancel } : Footing).asking
        (retirement v.ousted ++ [.request (v.attempt + 1) true instanceId])
  | settled {kind : TransportKind} (phase : v.phase = .connecting)
      (kept : v.pendingKind = some kind) (unused : v.active = none) :
      Upshot setup v (some .settled)
        (({ v with settle := { v.settle with pending := false } } : Footing).opened kind)
        [.open ⟨v.nextLink, kind⟩]
  | request {instanceId : InstanceId} (phase : v.phase = .reconnecting)
      (pending : v.retry.pending = true) (known : v.instanceId = some instanceId) :
      Upshot setup v (some .retry)
        ({ v with retry := { v.retry with pending := false } } : Footing).asking
        [.request (v.attempt + 1) false instanceId]
  /-- Without an instance to ask for, the credentials held are used again if they can be. -/
  | reuse {w : Footing} {marks : List Effect} (phase : v.phase = .reconnecting)
      (pending : v.retry.pending = true) (unknown : v.instanceId = none)
      (anew : Anew setup false v w marks) : Upshot setup v (some .retry) w marks
  | giveUp (phase : v.phase = .reconnecting) (pending : v.retry.pending = true)
      (unknown : v.instanceId = none) :
      Upshot setup v (some .retry) (v.cleared .failed)
        (retirement v.links ++ surrender v.failures)
  | close :
      Upshot setup v (some .close) { v.cleared .idle with running := false } (retirement v.links)

/-! ## What is not marked -/

theorem marks_revocation (timer : SessionTimer) (slot : TimerSlot) :
    marks (revocation timer slot) = [] := by
  unfold revocation
  cases slot.revoked <;> rfl

theorem marks_retirement (links : List Link) : marks (retirement links) = retirement links := by
  refine List.filter_eq_self.2 fun effect member => ?_
  obtain ⟨link, -, rfl⟩ := List.mem_map.1 member
  rfl

theorem marks_withdrawal (s : Session) : marks s.withdrawal = [] := by
  unfold withdrawal
  split <;> rfl

theorem marks_verdict_failed (s : Session) : marks (s.verdict .reconnectFailed) = [] := by
  unfold verdict
  split <;> rfl

theorem marks_verdict_succeeded (s : Session) : marks (s.verdict .reconnectSucceeded) = [] := by
  unfold verdict
  split <;> rfl

theorem marks_attention (setup : Setup) (s : Session) :
    marks (s.attention setup) =
      [.start .silence s.health.timer.schedule.ticket setup.config.silenceTimeout.toNat] := by
  rw [attention, marks_append, marks_revocation]
  rfl

theorem marks_wreckage (s : Session) : marks s.wreckage = retirement s.ousted := by
  simp only [wreckage, marks_append, marks_retirement, marks_revocation, marks_verdict_failed,
    List.append_nil]
  exact List.append_nil _

theorem marks_clearance (s : Session) :
    marks s.clearance = retirement (s.active.toList ++ s.retired.toList) := by
  simp only [clearance, marks_append, marks_retirement, marks_revocation, marks_withdrawal,
    List.append_nil]

/-! ## What the acts come to -/

/-- The session is on this footing, and has left these marks. -/
structure Bears (s : Session) (v : Footing) (given : List Effect) : Prop where
  stands : s.footing = v
  leaves : marks s.outbox = given

section Acts

variable (setup : Setup) {s : Session} {v : Footing} {given : List Effect}

/-- Effects that are not marked leave the marks as they are. -/
theorem unmarked {outbox more : List Effect} (left : marks outbox = given)
    (bare : marks more = []) : marks (outbox ++ more) = given := by
  rw [marks_append, left, bare, List.append_nil]

theorem Bears.perform (before : s.Bears v given) {effect : Effect}
    (bare : marked effect = false) : (s.perform effect).Bears v given := by
  refine ⟨before.stands, unmarked before.leaves ?_⟩
  exact List.filter_cons_of_neg (Bool.eq_false_iff.1 bare)

theorem Bears.touch (before : s.Bears v given) :
    (s.touch setup).Bears v (given ++
      [.start .silence s.health.timer.schedule.ticket setup.config.silenceTimeout.toNat]) := by
  obtain ⟨rfl, left⟩ := before
  rw [touch_eq]
  refine ⟨rfl, unmarked ?_ ?_⟩
  · rw [marks_append, left, marks_attention]
  · split <;> rfl

theorem Bears.teardown (before : s.Bears v given) (phase : Phase) :
    ({ s.teardown with phase := phase } : Session).Bears (v.cleared phase)
      (given ++ retirement v.links) := by
  obtain ⟨rfl, left⟩ := before
  rw [teardown_eq]
  refine ⟨rfl, ?_⟩
  show marks (s.outbox ++ s.clearance) = _
  rw [marks_append, left, marks_clearance]
  rfl

theorem Bears.giveUp (before : s.Bears v given) :
    s.giveUp.Bears (v.cleared .failed) (given ++ retirement v.links ++ surrender v.failures) := by
  have cleared := before.teardown .failed
  obtain ⟨rfl, -⟩ := before
  refine ⟨cleared.stands, ?_⟩
  show marks (s.teardown.outbox ++ [_] ++ [_]) = _
  rw [List.append_assoc, marks_append]
  have left : marks s.teardown.outbox = given ++ retirement s.footing.links := cleared.leaves
  rw [left]
  rfl

/-- A failure that the budget allows leads to a retry, one that it does not ends the session. -/
theorem Bears.fail (before : s.Bears v given) (alive : s.Alive) (quiet : s.requesting = false) :
    ∃ w more, Upshot setup v (some .failure) w more ∧ (s.fail setup).Bears w (given ++ more) := by
  obtain ⟨rfl, left⟩ := before
  have counted : marks (s.wrecked.counted setup).outbox = given ++ retirement s.footing.ousted := by
    show marks (s.outbox ++ s.wreckage) = _
    rw [marks_append, left, marks_wreckage]
    rfl
  rw [fail_eq setup alive, countFailure_eq]
  by_cases past : setup.config.retryBudget < s.failures + 1
  · have more : setup.config.retryBudget < s.wrecked.failures + 1 := past
    rw [if_pos more]
    refine ⟨_, _, .beaten alive past, ?_⟩
    have lost : (s.wrecked.counted setup).Bears (s.wrecked.counted setup).footing _ :=
      ⟨rfl, counted⟩
    have ended := lost.giveUp
    refine ⟨ended.stands, ended.leaves.trans ?_⟩
    simp only [List.append_assoc]
    rfl
  · have kept : ¬setup.config.retryBudget < s.wrecked.failures + 1 := past
    rw [if_neg kept]
    refine ⟨_, _, .setBack alive past, ?_⟩
    rw [startRetry_eq]
    constructor
    · simp only [Session.footing, Session.counted, wrecked, Footing.setBack, Footing.counted,
        Footing.aside, quiet]
    · rw [← List.append_assoc]
      show marks ((s.wrecked.counted setup).outbox ++ _ ++ _) = _
      rw [marks_append, unmarked counted (marks_revocation ..)]
      rfl

/-- Starting over with credentials that are not empty. -/
theorem Bears.init (before : s.Bears v given) {session : SessionId} {token : AccessToken}
    (usable : (session.isEmpty || token.isEmpty) = false) (forced : Bool) :
    ∃ w more, Anew setup forced v w more ∧
      (s.init setup session token forced).Bears w (given ++ more) := by
  obtain ⟨rfl, left⟩ := before
  have renewed : marks (s.renewed session token).outbox = given :=
    unmarked (unmarked (unmarked left (marks_revocation ..)) (marks_withdrawal s))
      (marks_revocation ..)
  rw [init_eq setup usable]
  split
  · refine ⟨_, _, .later, ?_⟩
    rw [startSettle_eq]
    refine ⟨rfl, ?_⟩
    show marks ((s.renewed session token).outbox ++ retirement s.footing.links ++ _ ++ [_]) = _
    rw [marks_append, unmarked ?_ (marks_revocation ..), List.append_assoc]
    · rfl
    · rw [marks_append, renewed, marks_retirement]
  · rename_i bare
    simp only [Bool.or_eq_true, Option.isSome_iff_ne_none, not_or, Decidable.not_not] at bare
    refine ⟨_, _, .now bare.1 bare.2, ?_⟩
    rw [cancelSettle_eq]
    refine ⟨rfl, ?_⟩
    show marks ((s.renewed session token).outbox ++ _ ++ [_]) = _
    rw [marks_append, unmarked renewed (marks_revocation ..)]
    rfl

end Acts

/-! ## What comes of the handlers -/

/-- What became of `s` is an upshot of the incident. -/
def Comes (setup : Setup) (s : Session) (incident : Option Incident) (t : Session) : Prop :=
  Upshot setup s.footing incident t.footing (marks t.outbox)

section Handlers

variable (setup : Setup) (accepting : Bool) {s : Session}

theorem Bears.comes {t : Session} {incident : Option Incident} {w : Footing} {given : List Effect}
    (after : t.Bears w given) (upshot : Upshot setup s.footing incident w given) :
    s.Comes setup incident t := by
  obtain ⟨rfl, rfl⟩ := after
  exact upshot

/-- A session that has asked for nothing yet. -/
theorem poised (empty : s.outbox = []) : s.Bears s.footing [] := ⟨rfl, by rw [empty]; rfl⟩

/-- A failure does not depend on the phase, once there is something that can fail, nor on a
request that came to its end. -/
theorem Upshot.reframed {v w : Footing} {phase : Phase} {given : List Effect}
    (upshot : Upshot setup { v with phase := phase, requesting := false } (some .failure) w given)
    (alive : v.phase ≠ .failed ∧ v.phase ≠ .idle) : Upshot setup v (some .failure) w given := by
  cases upshot with
  | setBack _ within => exact .setBack alive within
  | beaten _ past => exact .beaten alive past

theorem fail_comes {t : Session} (alive : s.Alive)
    (base : t.Bears { s.footing with phase := t.phase, requesting := false } []) (up : t.Alive) :
    s.Comes setup (some .failure) (t.fail setup) := by
  have quiet : t.requesting = false := congrArg Footing.requesting base.stands
  obtain ⟨w, given, upshot, after⟩ := base.fail setup up quiet
  exact after.comes setup (upshot.reframed setup alive)

/-- Without a request under way, a session stands as it does. -/
theorem footing_quiet (quiet : s.requesting = false) :
    { s.footing with phase := s.phase, requesting := false } = s.footing := by
  rw [← quiet]
  rfl

theorem onOpened_comes (coherent : s.Coherent False) (empty : s.outbox = []) {link : Link}
    (used : s.active = some link) :
    s.Comes setup (if s.phase = .connecting ∧ accepting = false then some .failure else none)
      (s.onOpened setup accepting) := by
  by_cases phase : s.phase = .connecting
  · have opening := (arranged_connecting phase).1 coherent.arranged
    obtain ⟨session, held⟩ := Option.isSome_iff_exists.1 opening.sessionId
    obtain ⟨token, tokenHeld⟩ := Option.isSome_iff_exists.1 opening.accessToken
    have before : s.presenting.Bears { s.footing with phase := .handshaking } [] :=
      ⟨rfl, (poised empty).leaves⟩
    rw [onOpened_eq setup accepting phase held tokenHeld used]
    cases accepting with
    | true =>
        rw [if_pos rfl, if_neg fun refused => Bool.noConfusion refused.2]
        refine (before.perform rfl).comes setup (.greet phase ?_)
        exact Option.isSome_iff_exists.2 ⟨link, used⟩
    | false =>
        rw [if_neg Bool.false_ne_true, if_pos ⟨phase, rfl⟩]
        have alive : s.Alive := alive_of_phase phase ⟨nofun, nofun⟩
        refine fail_comes setup alive ⟨?_, (before.perform rfl).leaves⟩ ⟨nofun, nofun⟩
        rw [← opening.requesting]
        rfl
  · rw [onOpened_late setup accepting phase, if_neg fun both => phase both.1]
    exact (poised empty).comes setup .still

theorem onHandshakeReply_comes (coherent : s.Coherent False) (empty : s.outbox = [])
    (phase : s.phase = .handshaking) (data : String) :
    s.Comes setup (s.tells accepting data) (s.onHandshakeReply setup data) := by
  have greeting := (arranged_handshaking phase).1 coherent.arranged
  unfold tells
  rw [phase]
  dsimp only
  cases read : Frame.readHandshakeReply data with
  | ok parts =>
      obtain ⟨instanceId, token⟩ := parts
      rw [onHandshakeReply_ok setup read]
      refine Bears.comes setup ⟨rfl, ?_⟩ (.welcome phase instanceId s.health.timer.schedule.ticket)
      refine unmarked (unmarked (unmarked ?_ rfl) ?_) ?_
      · rw [marks_append, (poised empty).leaves, marks_attention]
        rfl
      · exact marks_verdict_succeeded s
      · split <;> rfl
  | error fault =>
      rw [onHandshakeReply_error setup read]
      have alive : s.Alive := alive_of_phase phase ⟨nofun, nofun⟩
      have told : (s.report (.fault (.handshake fault))).Bears s.footing [] :=
        (poised empty).perform rfl
      refine fail_comes setup alive ⟨?_, told.leaves⟩ alive
      exact (footing_quiet greeting.requesting).symm

theorem onFrame_comes (coherent : s.Coherent False) (empty : s.outbox = [])
    (phase : s.phase = .ready) (data : String) :
    s.Comes setup (s.tells accepting data) (s.onFrame setup accepting data) := by
  have flowing := (arranged_ready phase).1 coherent.arranged
  have alive : s.Alive := alive_of_phase phase ⟨nofun, nofun⟩
  unfold tells
  rw [phase]
  dsimp only
  match read : Frame.readInbound data with
  | .ok (.framed token remainder) =>
      dsimp only
      have rotated : (s.rotated token).Bears s.footing [] := ⟨rfl, (poised empty).leaves⟩
      by_cases ping : remainder = Frame.ping
      · subst ping
        obtain ⟨session, held⟩ := Option.isSome_iff_exists.1 flowing.sessionId
        obtain ⟨link, used⟩ := Option.isSome_iff_exists.1 flowing.active
        rw [onFrame_ping setup accepting read held used]
        cases accepting with
        | true =>
            rw [if_pos rfl, if_neg fun refused => Bool.noConfusion refused.2]
            exact ((rotated.perform rfl).touch setup).comes setup (.heard phase _)
        | false =>
            rw [if_neg Bool.false_ne_true, if_pos ⟨rfl, rfl⟩]
            refine fail_comes setup alive ⟨?_, (rotated.perform rfl).leaves⟩ alive
            exact (footing_quiet flowing.requesting).symm
      · rw [onFrame_payload setup accepting read ping, if_neg fun both => ping both.1]
        have touched := rotated.touch setup
        split
        · exact touched.comes setup (.heard phase _)
        · exact (touched.perform rfl).comes setup (.heard phase _)
  | .ok .invalidRequest =>
      rw [onFrame_idle setup accepting (.inr read)]
      exact (poised empty).comes setup .still
  | .error fault =>
      dsimp only
      by_cases nothing : fault = .empty
      · rw [onFrame_idle setup accepting (.inl (nothing ▸ read)), if_pos nothing]
        exact (poised empty).comes setup .still
      · rw [onFrame_broken setup accepting read nothing, onBrokenFrame_eq, if_neg nothing]
        refine Bears.comes setup ⟨rfl, ?_⟩ (.breach phase data)
        show marks (s.outbox ++ s.clearance ++ [_, _]) = _
        rw [marks_append, marks_append, empty, marks_clearance]
        rfl

theorem onTransport_comes (coherent : s.Coherent False) (empty : s.outbox = []) (number : Nat)
    (event : TransportEvent) :
    s.Comes setup (s.befalls accepting (.transport number event))
      (s.onTransport setup accepting number event) := by
  rw [befalls]
  by_cases own : s.active.map (·.number) = some number
  · obtain ⟨link, used, rfl⟩ := Option.map_eq_some_iff.1 own
    have inUse : s.active ≠ none := by
      rw [used]
      exact nofun
    have other : s.phase ≠ .reconnecting := by
      intro phase
      exact inUse ((arranged_reconnecting phase).1 coherent.arranged).active
    have alive := coherent.arranged.alive inUse
    have down : s.Comes setup (some .failure) (s.fail setup) := by
      refine fail_comes setup alive ⟨?_, (poised empty).leaves⟩ alive
      exact (footing_quiet (coherent.arranged.unhurried other).2).symm
    unfold onTransport
    rw [if_pos own, if_pos own]
    cases event with
    | opened => exact onOpened_comes setup accepting coherent empty used
    | closed => exact down
    | failed => exact down
    | message data =>
        show s.Comes setup (s.tells accepting data) _
        dsimp only
        split
        · exact onHandshakeReply_comes setup accepting coherent empty ‹_› data
        · exact onFrame_comes setup accepting coherent empty ‹_› data
        · rename_i handshaking ready
          have nothing : s.tells accepting data = none := by
            unfold tells
            split
            · exact absurd ‹_› handshaking
            · exact absurd ‹_› ready
            · rfl
          rw [nothing]
          exact (poised empty).comes setup .still
  · rw [onTransport_stale setup accepting own, if_neg own]
    exact (poised empty).comes setup .still

theorem send_comes (coherent : s.Coherent False) (empty : s.outbox = []) (call : Nat)
    (task : String) (fields : List (String × String)) :
    s.Comes setup (s.befalls accepting (.send call task fields))
      ((s.send setup accepting task fields).2.perform
        (.answer call (s.send setup accepting task fields).1)) := by
  have before := poised empty
  have answered : ∀ {t : Session} {incident : Option Incident}, s.Comes setup incident t →
      s.Comes setup incident (t.perform (.answer call (s.send setup accepting task fields).1)) := by
    intro t incident comes
    have after : t.Bears t.footing (marks t.outbox) := ⟨rfl, rfl⟩
    exact (after.perform rfl).comes setup comes
  refine answered ?_
  rw [befalls]
  by_cases phase : s.phase = .ready
  · have flowing := (arranged_ready phase).1 coherent.arranged
    have alive : s.Alive := alive_of_phase phase ⟨nofun, nofun⟩
    have stands := (footing_quiet flowing.requesting).symm
    cases gone : s.health.lost with
    | true =>
        rw [send_lost setup accepting task fields phase gone, if_pos ⟨phase, .inl rfl⟩]
        exact fail_comes setup alive ⟨stands, before.leaves⟩ alive
    | false =>
        obtain ⟨session, held⟩ := Option.isSome_iff_exists.1 flowing.sessionId
        obtain ⟨token, current⟩ := Option.isSome_iff_exists.1 flowing.continuation
        obtain ⟨link, used⟩ := Option.isSome_iff_exists.1 flowing.active
        rw [send_ready setup accepting task fields phase gone held current used]
        cases accepting with
        | true =>
            rw [if_pos rfl, if_neg (by simp)]
            exact (before.perform rfl).comes setup .still
        | false =>
            rw [if_neg Bool.false_ne_true, if_pos ⟨phase, .inr rfl⟩]
            exact fail_comes setup alive ⟨stands, (before.perform rfl).leaves⟩ alive
  · rw [send_unready setup accepting task fields phase, if_neg fun both => phase both.1]
    exact before.comes setup .still

theorem reconnect_comes (empty : s.outbox = []) :
    s.Comes setup (s.befalls accepting .reconnect) s.reconnect := by
  have before := poised empty
  rw [befalls]
  cases allowed : s.canReconnect with
  | false =>
      unfold reconnect
      rw [allowed, if_neg fun both => Bool.noConfusion both.1]
      exact before.comes setup .still
  | true =>
      cases known : s.instanceId with
      | none =>
          unfold reconnect
          rw [if_pos allowed, known, if_neg fun both => Bool.noConfusion both.2]
          exact (before.perform rfl).comes setup .still
      | some instanceId =>
          have phase : s.phase = .reconnecting ∨ s.phase = .failed ∨ s.phase = .ready := by
            unfold canReconnect at allowed
            split at allowed <;> simp_all
          rw [if_pos ⟨rfl, rfl⟩, reconnect_eq allowed known, request_eq]
          refine Bears.comes setup ⟨rfl, ?_⟩ (.reconnect phase known)
          rw [marks_append]
          refine congrArg (· ++ _) (unmarked (unmarked ?_ ?_) ?_)
          · rw [marks_append, unmarked before.leaves (marks_revocation ..), marks_retirement]
            rfl
          · exact marks_revocation ..
          · exact marks_withdrawal _

/-- The retry delay has passed. -/
theorem onRetry_comes (coherent : s.Coherent False) (empty : s.outbox = [])
    (pending : s.retry.pending = true) :
    s.Comes setup (some .retry) ((s.claimed .retry).onRetry setup) := by
  have phase := coherent.arranged.awaits_retry pending
  have before : (s.claimed .retry).Bears
      { s.footing with retry := { s.retry with pending := false } } [] :=
    ⟨rfl, (poised empty).leaves⟩
  have due : (s.claimed .retry).phase = .reconnecting := phase
  unfold onRetry
  rw [if_pos due]
  split
  · rename_i instanceId known
    rw [request_eq]
    refine Bears.comes setup ⟨rfl, ?_⟩ (.request phase pending known)
    rw [marks_append, unmarked before.leaves (marks_withdrawal _)]
    rfl
  · rename_i unknown
    split
    · rename_i session token held tokenHeld _
      have usable : (session.isEmpty || token.isEmpty) = false := by
        rw [coherent.credited.1 session held, coherent.credited.2 token tokenHeld, Bool.or_false]
      obtain ⟨w, given, anew, after⟩ := before.init setup usable false
      refine after.comes setup (.reuse phase pending unknown ?_)
      cases anew with
      | now unused gone => exact .now unused gone
      | later => exact .later
    · exact before.giveUp.comes setup (.giveUp phase pending unknown)

/-- The settle delay has passed. -/
theorem openPending_comes (coherent : s.Coherent False) (empty : s.outbox = [])
    (pending : s.settle.pending = true) :
    s.Comes setup (some .settled) (s.claimed .settle).openPending := by
  obtain ⟨phase, unused, kept⟩ := coherent.arranged.awaits_settle pending
  obtain ⟨kind, kept⟩ := Option.isSome_iff_exists.1 kept
  have same : (s.claimed .settle).pendingKind = some kind := kept
  have due : (s.claimed .settle).phase = .connecting := phase
  unfold openPending
  rw [same]
  dsimp only
  rw [if_pos due]
  refine Bears.comes setup ⟨rfl, ?_⟩ (.settled phase kept unused)
  show marks (s.outbox ++ [_]) = _
  rw [empty]
  rfl

/-- The reconnect request came to an end. -/
theorem onReply_comes (coherent : s.Coherent False) (empty : s.outbox = [])
    (requesting : s.requesting = true) (manual : Bool) (reply : Option ReconnectReply) :
    s.Comes setup (Incident.ofReply reply) (s.answered.onReply setup manual reply) := by
  have phase := coherent.arranged.awaits_reply requesting
  have alive : s.Alive := alive_of_phase phase ⟨nofun, nofun⟩
  have told : ({ s.answered with manualPending := manual } : Session).Bears
      { s.footing with requesting := false } [] := ⟨rfl, (poised empty).leaves⟩
  match reply with
  | some (.credentials session token) =>
      show s.Comes setup (if _ then none else some .credentials)
        (({ s.answered with manualPending := manual } : Session).init setup session token false)
      cases usable : session.isEmpty || token.isEmpty with
      | true =>
          rw [if_pos rfl, init_empty setup usable]
          exact told.comes setup (.idle phase)
      | false =>
          rw [if_neg Bool.false_ne_true]
          obtain ⟨w, given, anew, after⟩ := told.init setup usable false
          refine after.comes setup (.credentials phase ?_)
          cases anew with
          | now unused gone => exact .now unused gone
          | later => exact .later
  | some .refresh =>
      have before : s.answered.Bears { s.footing with requesting := false } [] :=
        ⟨rfl, told.leaves⟩
      exact ((before.teardown .idle).perform rfl).comes setup (.refresh phase)
  | none => exact fail_comes setup alive told alive

/-- **Whatever befalls a session comes to one of the upshots.** -/
theorem handle_upshot (coherent : s.Coherent False) (empty : s.outbox = []) (input : Input) :
    s.Comes setup (s.befalls accepting input) (s.handle setup accepting input) := by
  cases input with
  | init session token forced =>
      show s.Comes setup (if _ then none else some (.start forced))
        (s.init setup session token forced)
      cases usable : session.isEmpty || token.isEmpty with
      | true =>
          rw [if_pos rfl, init_empty setup usable]
          exact (poised empty).comes setup .still
      | false =>
          rw [if_neg Bool.false_ne_true]
          obtain ⟨w, given, anew, after⟩ := (poised empty).init setup usable forced
          exact after.comes setup (.start anew)
  | send call task fields => exact send_comes setup accepting coherent empty call task fields
  | reconnect => exact reconnect_comes setup accepting empty
  | close =>
      have idle := (poised empty).teardown .idle
      refine Bears.comes setup ⟨?_, idle.leaves⟩ .close
      exact congrArg (fun w : Footing => { w with running := false }) idle.stands
  | expired timer ticket =>
      rw [handle_expired, befalls]
      split
      · rename_i current
        cases timer with
        | settle => exact openPending_comes setup coherent empty current.2
        | retry => exact onRetry_comes setup coherent empty current.2
        | silence =>
            have lost : (s.claimed .silence).Bears s.footing [] := ⟨rfl, (poised empty).leaves⟩
            exact (lost.perform rfl).comes setup .still
      · exact (poised empty).comes setup .still
  | resolved attempt manual reply =>
      rw [handle_resolved, befalls]
      split
      · rename_i current
        exact onReply_comes setup coherent empty current.2 manual reply
      · exact (poised empty).comes setup .still
  | transport number event => exact onTransport_comes setup accepting coherent empty number event

end Handlers

/-- **And so does whatever befalls it in a beat of a life.** -/
theorem beat_upshot {config : SessionConfig} {past : List Beat} {s : Session}
    (life : Life config past s) (turn : Turn) :
    Upshot (turn.setup config) s.footing (s.beat config turn).befell
      (s.beat config turn).after.footing (marks (s.beat config turn).effects) := by
  cases running : s.running with
  | false =>
      obtain ⟨after, effects⟩ := beat_stopped running turn
      have spared : (s.beat config turn).befell = none := befell_stopped running
      rw [after, effects, spared]
      exact .still
  | true =>
      obtain ⟨after, effects⟩ := beat_running running life.outbox turn
      have befell : (s.beat config turn).befell = s.befalls turn.accepting turn.input :=
        befell_running running
      rw [after, effects, befell]
      have coherent := life.coherent
      exact handle_upshot (turn.setup config) turn.accepting coherent life.outbox turn.input

theorem Life.upshot {config : SessionConfig} {past : List Beat} {s : Session}
    (life : Life config past s) {k : Nat} {beat : Beat} (here : past[k]? = some beat) :
    Upshot (beat.turn.setup config) beat.before.footing beat.befell beat.after.footing
      (marks beat.effects) := by
  obtain ⟨before, same⟩ := life.at here
  have upshot := beat_upshot before beat.turn
  rw [← same] at upshot
  exact upshot

/-- Closing is the only way to stop, and leads to `idle`. -/
theorem Upshot.stops {setup : Setup} {v w : Footing} {incident : Option Incident}
    {given : List Effect} (upshot : Upshot setup v incident w given) (before : v.running = true)
    (after : w.running = false) : w.phase = .idle := by
  have kept : ∀ {forced : Bool} {w : Footing} {given : List Effect},
      Anew setup forced v w given → w.running = true := by
    intro forced w given anew
    cases anew <;> exact before
  cases upshot with
  | close => rfl
  | start anew => cases after.symm.trans (kept anew)
  | credentials _ anew => cases after.symm.trans (kept anew)
  | reuse _ _ _ anew => cases after.symm.trans (kept anew)
  | _ => cases before.symm.trans after

/-- A session that has stopped is idle. -/
theorem life_stopped {config : SessionConfig} {past : List Beat} {s : Session}
    (life : Life config past s) (stopped : s.running = false) : s.phase = .idle := by
  induction life with
  | fresh => cases stopped
  | @beat past s life turn ih =>
      cases running : s.running with
      | false =>
          rw [(beat_stopped running turn).1]
          exact ih running
      | true => exact (beat_upshot life turn).stops running stopped

end Session

end Tether
