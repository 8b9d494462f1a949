/-
# Tether.Proofs.Session.Forms -- what each act of a session comes to

The acts of `Tether.Session` are written as chains of smaller ones.  Here each is one
record update: the fields that change, and what joins the outbox.  Everything proved of
a session later reads these equations and opens no act again.

* `revocation`, `retirement`, `ousted`, `wreckage` -- the effects of taking a timer back,
  of giving transports up, and of a failure before it is counted.
* `teardown_eq`, `giveUp_eq`, `fail_eq`, `init_eq` -- the acts the handlers end in.
-/
import Tether.Session

set_option autoImplicit false

namespace Tether.Session

/-! ## Effects -/

def withOutbox (effects : List Effect) (s : Session) : Session := { s with outbox := effects }

def revocation (timer : SessionTimer) (slot : TimerSlot) : List Effect :=
  slot.revoked.toList.map (.stop timer)

def retirement (links : List Link) : List Effect :=
  links.map fun link => .retire link.number

/-- Giving up a request, if one is under way. -/
def withdrawal (s : Session) : List Effect :=
  if s.requesting then [.abandon s.attempt] else []

/-- The transports that go when the one in use is set aside: it, and the one before. -/
def ousted (s : Session) : List Link :=
  match s.active with
  | none => []
  | some link => link :: s.retired.toList

def verdict (feedback : Feedback) (s : Session) : List Effect :=
  if s.manualPending then [.show feedback] else []

def attention (setup : Setup) (s : Session) : List Effect :=
  revocation .silence s.health.timer ++
    [.start .silence s.health.timer.schedule.ticket setup.config.silenceTimeout.toNat]

/-- What a failure asks for before it is counted. -/
def wreckage (s : Session) : List Effect :=
  retirement s.ousted ++ revocation .settle s.settle ++ revocation .silence s.health.timer ++
    s.verdict .reconnectFailed ++ [.show .connectionLost]

/-- What giving everything up asks for. -/
def clearance (s : Session) : List Effect :=
  retirement (s.active.toList ++ s.retired.toList) ++ revocation .settle s.settle ++
    revocation .retry s.retry ++ s.withdrawal ++ revocation .silence s.health.timer

/-! ## Timers -/

theorem revoke_eq (s : Session) (timer : SessionTimer) (slot : TimerSlot) :
    s.revoke timer slot = { s with outbox := s.outbox ++ revocation timer slot } := by
  unfold revoke revocation
  cases slot.revoked <;> simp [perform]

theorem cancelSettle_eq (s : Session) :
    s.cancelSettle =
      { s with settle := s.settle.cancel, outbox := s.outbox ++ revocation .settle s.settle } := by
  rw [cancelSettle, revoke_eq]

theorem cancelRetry_eq (s : Session) :
    s.cancelRetry =
      { s with retry := s.retry.cancel, outbox := s.outbox ++ revocation .retry s.retry } := by
  rw [cancelRetry, revoke_eq]

theorem disarm_eq (s : Session) :
    s.disarm =
      { s with
        health := s.health.disarm
        outbox := s.outbox ++ revocation .silence s.health.timer } := by
  rw [disarm, revoke_eq]

theorem startSettle_eq (setup : Setup) (s : Session) :
    s.startSettle setup =
      { s with
        settle := s.settle.schedule
        outbox := s.outbox ++ revocation .settle s.settle ++
          [.start .settle s.settle.schedule.ticket setup.config.settleDelay.toNat] } := by
  simp only [startSettle, revoke_eq, perform]

theorem startRetry_eq (setup : Setup) (s : Session) :
    s.startRetry setup =
      { s with
        retry := s.retry.schedule
        outbox := s.outbox ++ revocation .retry s.retry ++
          [.start .retry s.retry.schedule.ticket setup.config.retryDelay.toNat] } := by
  simp only [startRetry, revoke_eq, perform]

theorem watch_eq (setup : Setup) (s : Session) :
    s.watch setup =
      { s with
        health := { timer := s.health.timer.schedule, lost := false }
        outbox := s.outbox ++ s.attention setup } := by
  simp only [watch, revoke_eq, perform, HealthMonitor.frameReceived, attention, List.append_assoc]

theorem touch_eq (setup : Setup) (s : Session) :
    s.touch setup =
      { s with
        health := { timer := s.health.timer.schedule, lost := false }
        outbox := s.outbox ++ s.attention setup ++
          if s.health.lost then [.show .connectionRestored] else [] } := by
  unfold touch
  rw [watch_eq]
  split
  · rfl
  · rw [List.append_nil]

/-! ## Transports and requests -/

theorem setAside_eq (s : Session) :
    s.setAside =
      { s with
        active := none
        retired := s.active.or s.retired
        outbox := s.outbox ++ retirement s.ousted } := by
  unfold setAside
  cases active : s.active with
  | none =>
      simp only [ousted, active, retirement, List.map_nil, List.append_nil, Option.none_or]
      rw [← active]
  | some link =>
      cases retired : s.retired <;> simp [ousted, active, retired, retirement, perform]

theorem abandonRequest_eq (s : Session) :
    s.abandonRequest = { s with requesting := false, outbox := s.outbox ++ s.withdrawal } := by
  unfold abandonRequest withdrawal
  split
  · rfl
  · rename_i idle
    simp only [Bool.not_eq_true] at idle
    simp [← idle]

theorem settleManual_eq (feedback : Feedback) (s : Session) :
    s.settleManual feedback =
      { s with manualPending := false, outbox := s.outbox ++ s.verdict feedback } := by
  unfold settleManual verdict
  split
  · rfl
  · rename_i automatic
    simp only [Bool.not_eq_true] at automatic
    simp [← automatic]

theorem teardown_eq (s : Session) :
    s.teardown =
      { s with
        active := none
        retired := none
        pendingKind := none
        settle := s.settle.cancel
        retry := s.retry.cancel
        requesting := false
        health := s.health.disarm
        outbox := s.outbox ++ s.clearance } := by
  simp only [teardown, dropLinks, cancelSettle_eq, cancelRetry_eq, abandonRequest_eq, disarm_eq,
    clearance, withdrawal, retirement, List.append_assoc]

theorem request_eq (instanceId : InstanceId) (manual : Bool) (s : Session) :
    s.request instanceId manual =
      { s with
        attempt := s.attempt + 1
        requesting := true
        outbox := s.outbox ++ s.withdrawal ++ [.request (s.attempt + 1) manual instanceId] } := by
  simp only [request, abandonRequest_eq, perform]

/-! ## Failures -/

theorem giveUp_eq (s : Session) :
    s.giveUp =
      { s with
        active := none
        retired := none
        pendingKind := none
        settle := s.settle.cancel
        retry := s.retry.cancel
        requesting := false
        health := s.health.disarm
        phase := .failed
        outbox := s.outbox ++ s.clearance ++
          [.show (.fatal .cannotConnect), .event (.fault (.budgetExhausted s.failures))] } := by
  simp [giveUp, teardown_eq, display, report, perform]

def counted (setup : Setup) (s : Session) : Session :=
  { s with
    phase := .reconnecting
    failures := s.failures + 1
    fallback := s.fallback ||
      (s.failures + 1 == setup.config.retryBudget && s.lastKind != some .polling) }

theorem countFailure_eq (setup : Setup) (s : Session) :
    s.countFailure setup =
      if setup.config.retryBudget < s.failures + 1 then (s.counted setup).giveUp
      else (s.counted setup).startRetry setup := rfl

/-- The session a failure leaves before it is counted. -/
def wrecked (s : Session) : Session :=
  { s with
    active := none
    retired := s.active.or s.retired
    settle := s.settle.cancel
    pendingKind := none
    health := s.health.disarm
    manualPending := false
    outbox := s.outbox ++ s.wreckage }

def Alive (s : Session) : Prop := s.phase ≠ .failed ∧ s.phase ≠ .idle

theorem alive_of_phase {s : Session} {phase : Phase} (same : s.phase = phase)
    (up : phase ≠ .failed ∧ phase ≠ .idle) : s.Alive := by
  subst same
  exact up

theorem fail_eq (setup : Setup) {s : Session} (alive : s.Alive) :
    s.fail setup = s.wrecked.countFailure setup := by
  have opened : s.fail setup =
      ((({ s.setAside.cancelSettle with pendingKind := none } : Session).disarm.settleManual
        .reconnectFailed).display .connectionLost).countFailure setup := by
    unfold fail
    split
    · rename_i failed
      exact absurd failed alive.1
    · rename_i idle
      exact absurd idle alive.2
    · rfl
  rw [opened]
  congr 1
  simp [setAside_eq, cancelSettle_eq, disarm_eq, settleManual_eq, display, perform, wrecked,
    wreckage, verdict]

/-! ## Connecting -/

/-- The session with fresh credentials, nothing under way but its transports. -/
def renewed (session : SessionId) (token : AccessToken) (s : Session) : Session :=
  { s with
    sessionId := some session
    accessToken := some token
    spent := false
    continuation := none
    retry := s.retry.cancel
    requesting := false
    health := s.health.disarm
    phase := .connecting
    outbox := s.outbox ++ revocation .retry s.retry ++ s.withdrawal ++
      revocation .silence s.health.timer }

theorem init_eq (setup : Setup) {session : SessionId} {token : AccessToken}
    (given : (session.isEmpty || token.isEmpty) = false) (forceFallback : Bool) (s : Session) :
    s.init setup session token forceFallback =
      if s.active.isSome || s.retired.isSome then
        ({ (s.renewed session token).dropLinks with
            pendingKind := some (s.chooseKind setup forceFallback) } : Session).startSettle setup
      else
        ({ (s.renewed session token).cancelSettle with pendingKind := none } : Session).openLink
          (s.chooseKind setup forceFallback) := by
  simp only [init, given, Bool.false_eq_true, if_false, cancelRetry_eq, abandonRequest_eq,
    disarm_eq, renewed, withdrawal, chooseKind]

theorem init_empty (setup : Setup) {session : SessionId} {token : AccessToken}
    (missing : (session.isEmpty || token.isEmpty) = true) (forceFallback : Bool) (s : Session) :
    s.init setup session token forceFallback = s := by
  rw [init, if_pos missing]

/-! ## Handlers -/

section Handlers

variable (setup : Setup) (accepting : Bool) {s : Session}

theorem transmit_eq {link : Link} (used : s.active = some link) (frame : String) :
    s.transmit accepting frame =
      if accepting then (true, s.perform (.sent link.number frame))
      else (false, s.perform (.refused link.number frame)) := by
  unfold transmit
  rw [used]

/-- A frame that is offered is taken, or it is refused, which is a failure. -/
theorem offered_eq {link : Link} (used : s.active = some link) (frame : String)
    (go : Session → Session) :
    (if (s.transmit accepting frame).1 then go (s.transmit accepting frame).2
      else (s.transmit accepting frame).2.fail setup) =
      if accepting then go (s.perform (.sent link.number frame))
      else (s.perform (.refused link.number frame)).fail setup := by
  rw [transmit_eq accepting used]
  cases accepting <;> rfl

def presenting (s : Session) : Session := { s with spent := true, phase := .handshaking }

theorem onOpened_eq {session : SessionId} {token : AccessToken} {link : Link}
    (phase : s.phase = .connecting) (held : s.sessionId = some session)
    (tokenHeld : s.accessToken = some token) (used : s.active = some link) :
    s.onOpened setup accepting =
      if accepting then s.presenting.perform (.sent link.number (Frame.handshake session token))
      else (s.presenting.perform (.refused link.number (Frame.handshake session token))).fail
        setup := by
  unfold onOpened
  split
  · rename_i other otherToken _ otherHeld otherTokenHeld
    obtain rfl : other = session := Option.some.inj (otherHeld.symm.trans held)
    obtain rfl : otherToken = token := Option.some.inj (otherTokenHeld.symm.trans tokenHeld)
    exact offered_eq (s := s.presenting) setup accepting used _ id
  · rename_i missing
    exact (missing session token phase held tokenHeld).elim

/-- Only the first opening of a transport counts. -/
theorem onOpened_late (phase : s.phase ≠ .connecting) : s.onOpened setup accepting = s := by
  unfold onOpened
  split
  · rename_i connecting _ _
    exact absurd connecting phase
  · rfl

def welcomed (setup : Setup) (instance_ : InstanceId) (token : ContinuationToken)
    (s : Session) : Session :=
  { s with
    instanceId := some instance_
    continuation := some token
    failures := 0
    phase := .ready
    health := { timer := s.health.timer.schedule, lost := false }
    manualPending := false
    readyReported := true
    outbox := s.outbox ++ s.attention setup ++ [.show .connectionRestored] ++
      s.verdict .reconnectSucceeded ++ [.event (if s.readyReported then .reconnected else .ready)] }

theorem onHandshakeReply_ok {data : String} {instance_ : InstanceId} {token : ContinuationToken}
    (read : Frame.readHandshakeReply data = .ok (instance_, token)) :
    s.onHandshakeReply setup data = s.welcomed setup instance_ token := by
  unfold onHandshakeReply
  rw [read]
  dsimp only
  rw [settleManual_eq, watch_eq]
  cases reported : s.readyReported <;> simp [report, perform, display, welcomed, reported, verdict,
    attention]

theorem onHandshakeReply_error {data : String} {fault : Frame.Fault}
    (read : Frame.readHandshakeReply data = .error fault) :
    s.onHandshakeReply setup data = (s.report (.fault (.handshake fault))).fail setup := by
  unfold onHandshakeReply
  rw [read]

def rotated (token : ContinuationToken) (s : Session) : Session :=
  { s with continuation := some token }

theorem onFrame_ping {data : String} {token : ContinuationToken} {session : SessionId} {link : Link}
    (read : Frame.readInbound data = .ok (.framed token Frame.ping))
    (held : s.sessionId = some session) (used : s.active = some link) :
    s.onFrame setup accepting data =
      if accepting then
        ((s.rotated token).perform (.sent link.number (Frame.pong session token))).touch setup
      else
        ((s.rotated token).perform (.refused link.number (Frame.pong session token))).fail
          setup := by
  unfold onFrame
  rw [read]
  dsimp only
  rw [if_pos rfl]
  split
  · rename_i missing
    cases held.symm.trans missing
  · rename_i other otherHeld
    obtain rfl : other = session := Option.some.inj (otherHeld.symm.trans held)
    exact offered_eq (s := s.rotated token) setup accepting used _ (touch setup)

theorem onFrame_payload {data : String} {token : ContinuationToken} {remainder : String}
    (read : Frame.readInbound data = .ok (.framed token remainder))
    (payload : remainder ≠ Frame.ping) :
    s.onFrame setup accepting data =
      if remainder.isEmpty then (s.rotated token).touch setup
      else ((s.rotated token).touch setup).report (.message remainder) := by
  unfold onFrame
  rw [read]
  dsimp only
  rw [if_neg payload]
  rfl

/-- Frames that carry nothing are passed over. -/
theorem onFrame_idle {data : String}
    (read : Frame.readInbound data = .error .empty ∨
      Frame.readInbound data = .ok .invalidRequest) :
    s.onFrame setup accepting data = s := by
  unfold onFrame
  rcases read with empty | invalid
  · rw [empty]
  · rw [invalid]

theorem onFrame_broken {data : String} {fault : Frame.Fault}
    (read : Frame.readInbound data = .error fault) (broken : fault ≠ .empty) :
    s.onFrame setup accepting data = s.onBrokenFrame data := by
  unfold onFrame
  rw [read]
  cases fault with
  | empty => exact absurd rfl broken
  | _ => rfl

theorem onBrokenFrame_eq (data : String) (s : Session) :
    s.onBrokenFrame data =
      { s with
        active := none
        retired := none
        pendingKind := none
        settle := s.settle.cancel
        retry := s.retry.cancel
        requesting := false
        health := s.health.disarm
        phase := .failed
        outbox := s.outbox ++ s.clearance ++
          [.show (.fatal (.invalidData data)), .event (.fault (.framing data))] } := by
  simp [onBrokenFrame, teardown_eq, display, report, perform]

theorem send_unready (task : String) (fields : List (String × String)) (phase : s.phase ≠ .ready) :
    s.send setup accepting task fields = (false, s) := by
  rw [send, if_neg phase]

theorem send_lost (task : String) (fields : List (String × String)) (phase : s.phase = .ready)
    (lost : s.health.lost = true) :
    s.send setup accepting task fields = (false, s.fail setup) := by
  rw [send, if_pos phase, if_pos lost]

theorem send_ready {session : SessionId} {token : ContinuationToken} {link : Link} (task : String)
    (fields : List (String × String)) (phase : s.phase = .ready) (well : s.health.lost = false)
    (held : s.sessionId = some session) (current : s.continuation = some token)
    (used : s.active = some link) :
    s.send setup accepting task fields =
      if accepting then
        (true, s.perform (.sent link.number (Frame.outbound session token task fields)))
      else
        (false, (s.perform (.refused link.number
          (Frame.outbound session token task fields))).fail setup) := by
  rw [send, if_pos phase, well, held, current]
  dsimp only
  rw [transmit_eq accepting used]
  cases accepting <;> rfl

theorem reconnect_eq {instance_ : InstanceId} (allowed : s.canReconnect = true)
    (known : s.instanceId = some instance_) :
    s.reconnect =
      ({ s with
          failures := if s.phase = .failed then 0 else s.failures
          retry := s.retry.cancel
          active := none
          retired := s.active.or s.retired
          health := s.health.disarm
          phase := .reconnecting
          outbox := s.outbox ++ revocation .retry s.retry ++ retirement s.ousted ++
            revocation .silence s.health.timer } : Session).request instance_ true := by
  unfold reconnect
  rw [if_pos allowed, known]
  dsimp only
  congr 1
  split <;> simp [cancelRetry_eq, setAside_eq, disarm_eq, ousted, known]

end Handlers

/-! ## Expiries and replies -/

def slot (s : Session) : SessionTimer → TimerSlot
  | .settle => s.settle
  | .retry => s.retry
  | .silence => s.health.timer

def claimed (s : Session) : SessionTimer → Session
  | .settle => { s with settle := { s.settle with pending := false } }
  | .retry => { s with retry := { s.retry with pending := false } }
  | .silence =>
      { s with health := { timer := { s.health.timer with pending := false }, lost := true } }

def onExpiry (setup : Setup) (s : Session) : SessionTimer → Session
  | .settle => s.openPending
  | .retry => s.onRetry setup
  | .silence => s.display .connectionLost

/-- An expiry counts while the timer that ran out is the pending one of its slot. -/
theorem handle_expired (setup : Setup) (accepting : Bool) (s : Session) (timer : SessionTimer)
    (ticket : Ticket) :
    s.handle setup accepting (.expired timer ticket) =
      if ticket = (s.slot timer).ticket ∧ (s.slot timer).pending = true then
        (s.claimed timer).onExpiry setup timer
      else s := by
  split
  · rename_i current
    cases timer with
    | settle =>
        have taken : s.settle.take ticket = (true, _) := if_pos current
        simp only [handle, taken]
        rfl
    | retry =>
        have taken : s.retry.take ticket = (true, _) := if_pos current
        simp only [handle, taken]
        rfl
    | silence =>
        have taken : s.health.timer.take ticket = (true, _) := if_pos current
        simp only [handle, HealthMonitor.expire, taken]
        rfl
  · rename_i stale
    cases timer with
    | settle =>
        have left : s.settle.take ticket = (false, s.settle) := if_neg stale
        simp only [handle, left]
        rfl
    | retry =>
        have left : s.retry.take ticket = (false, s.retry) := if_neg stale
        simp only [handle, left]
        rfl
    | silence =>
        have left : s.health.timer.take ticket = (false, s.health.timer) := if_neg stale
        simp only [handle, HealthMonitor.expire, left]
        rfl

def answered (s : Session) : Session := { s with requesting := false }

/-- A reply counts while the request of the latest attempt is under way. -/
theorem handle_resolved (setup : Setup) (accepting : Bool) (s : Session) (attempt : Nat)
    (manual : Bool) (reply : Option ReconnectReply) :
    s.handle setup accepting (.resolved attempt manual reply) =
      if attempt = s.attempt ∧ s.requesting = true then s.answered.onReply setup manual reply
      else s := by
  by_cases current : attempt = s.attempt <;> cases asked : s.requesting <;>
    simp [handle, answered, current, asked]

end Tether.Session
