/-
# Tether.Session -- the session as a machine

A session keeps one identity alive over a sequence of transports, at most one of
them in use.  It is a pure machine: `step` takes one input and answers the session
after it, together with the effects it asks of its surroundings, in order.

    client                                    server
      |  open transport                         |
      |  sid=S&tok=T&                        -> |   handshake; the token is now spent
      |  <-                               I&K0  |   instance and first token
      |  sid=S&tok=K0&tsk=...&               -> |
      |  <-                            K1&...   |   every frame rotates the token
      |  <-                           K2&ping   |
      |  sid=S&tok=K2&tsk=pong&              -> |

A transport that closes or errs, a useless handshake reply, a frame the transport
does not take and a failed reconnect request each count as one failure.  The count
starts over with every handshake that succeeds.  At the budget the next transport
is a polling one, for good; past it the session gives up.  A retry never presents
an access token again: it asks the reconnect endpoint, by the last instance, for
fresh credentials.

Inputs that no longer matter are recognised and ignored: an event of a transport
that is not in use, an expiry with a stale ticket, the result of a superseded
request.

* `step_stopped` -- a session that has stopped does nothing.
* `onTransport_stale` -- an event of another transport changes nothing.
-/
import Tether.Feedback
import Tether.Frame.Reader
import Tether.Health
import Tether.Session.Basic

set_option autoImplicit false

namespace Tether

/-- What stays fixed for the life of a session. -/
structure Setup where
  config : SessionConfig := {}
  /-- Whether persistent transports can be built at all. -/
  persistent : Bool := true
deriving DecidableEq

inductive SessionTimer
  /-- Between resetting a transport and opening the next. -/
  | settle
  /-- Before a retry. -/
  | retry
  /-- Inbound silence. -/
  | silence
deriving DecidableEq

/-- A transport of the session, numbered in order of creation. -/
structure Link where
  number : Nat
  kind : TransportKind
deriving DecidableEq

inductive Input
  /-- Start with these credentials. -/
  | init (session : SessionId) (token : AccessToken) (forceFallback : Bool)
  /-- Send a task; the answer carries the number of the call. -/
  | send (call : Nat) (task : String) (fields : List (String × String))
  /-- Reconnect now. -/
  | reconnect
  | close
  | expired (timer : SessionTimer) (ticket : Ticket)
  /-- A reconnect request came to an end; no reply means that it failed. -/
  | resolved (attempt : Nat) (manual : Bool) (reply : Option ReconnectReply)
  | transport (number : Nat) (event : TransportEvent)
deriving DecidableEq

/-- What a session asks of its surroundings. -/
inductive Effect
  /-- Build a transport and open it. -/
  | open (link : Link)
  /-- The transport took the frame. -/
  | sent (number : Nat) (frame : String)
  /-- The transport did not take the frame. -/
  | refused (number : Nat) (frame : String)
  /-- Detach the transport's sink and reset it. -/
  | retire (number : Nat)
  | start (timer : SessionTimer) (ticket : Ticket) (delay : Nat)
  | stop (timer : SessionTimer) (ticket : Ticket)
  /-- Ask the reconnect endpoint for fresh credentials. -/
  | request (attempt : Nat) (manual : Bool) (instanceId : InstanceId)
  | abandon (attempt : Nat)
  | event (event : SessionEvent)
  | show (feedback : Feedback)
  | answer (call : Nat) (sent : Bool)
deriving DecidableEq

structure Session where
  running : Bool := true
  phase : Phase := .idle
  sessionId : Option SessionId := none
  accessToken : Option AccessToken := none
  /-- Whether the access token was put into a handshake. -/
  spent : Bool := false
  instanceId : Option InstanceId := none
  continuation : Option ContinuationToken := none
  /-- The transport in use. -/
  active : Option Link := none
  /-- The transport given up last, until its successor is set up. -/
  retired : Option Link := none
  /-- The flavour to open once the settle delay has passed. -/
  pendingKind : Option TransportKind := none
  /-- The flavour opened last. -/
  lastKind : Option TransportKind := none
  nextLink : Nat := 0
  failures : UInt32 := 0
  fallback : Bool := false
  /-- Whether `ready` was reported. -/
  readyReported : Bool := false
  /-- Whether the attempt under way was asked for by the user. -/
  manualPending : Bool := false
  health : HealthMonitor := {}
  settle : TimerSlot := {}
  retry : TimerSlot := {}
  attempt : Nat := 0
  /-- Whether the request of the latest attempt is under way. -/
  requesting : Bool := false
  /-- The effects asked for so far in this step. -/
  outbox : List Effect := []
deriving DecidableEq

namespace Session

def perform (s : Session) (effect : Effect) : Session :=
  { s with outbox := s.outbox ++ [effect] }

def report (s : Session) (event : SessionEvent) : Session := s.perform (.event event)

def display (s : Session) (feedback : Feedback) : Session := s.perform (.show feedback)

/-! ## Timers -/

/-- Stop the timer that setting or cancelling `slot` takes back. -/
def revoke (s : Session) (timer : SessionTimer) (slot : TimerSlot) : Session :=
  match slot.revoked with
  | some ticket => s.perform (.stop timer ticket)
  | none => s

def cancelSettle (s : Session) : Session :=
  { s.revoke .settle s.settle with settle := s.settle.cancel }

def cancelRetry (s : Session) : Session :=
  { s.revoke .retry s.retry with retry := s.retry.cancel }

def disarm (s : Session) : Session :=
  { s.revoke .silence s.health.timer with health := s.health.disarm }

def startSettle (setup : Setup) (s : Session) : Session :=
  let slot := s.settle.schedule
  { s.revoke .settle s.settle with settle := slot }.perform
    (.start .settle slot.ticket setup.config.settleDelay.toNat)

def startRetry (setup : Setup) (s : Session) : Session :=
  let slot := s.retry.schedule
  { s.revoke .retry s.retry with retry := slot }.perform
    (.start .retry slot.ticket setup.config.retryDelay.toNat)

def watch (setup : Setup) (s : Session) : Session :=
  let health := s.health.frameReceived.2
  { s.revoke .silence s.health.timer with health }.perform
    (.start .silence health.timer.ticket setup.config.silenceTimeout.toNat)

/-- A frame counted: watch anew, and take the indicator down if the connection was lost. -/
def touch (setup : Setup) (s : Session) : Session :=
  let watching := s.watch setup
  if s.health.lost then watching.display .connectionRestored else watching

/-! ## Transports and requests -/

/-- Give up the transport in use and keep it as the retired one; an older one goes. -/
def setAside (s : Session) : Session :=
  match s.active with
  | none => s
  | some link =>
      let given := s.perform (.retire link.number)
      let alone := match s.retired with
        | some older => given.perform (.retire older.number)
        | none => given
      { alone with active := none, retired := some link }

/-- Give up the transport in use and the retired one. -/
def dropLinks (s : Session) : Session :=
  let links := s.active.toList ++ s.retired.toList
  { s with
    outbox := s.outbox ++ links.map fun link => .retire link.number
    active := none
    retired := none }

def abandonRequest (s : Session) : Session :=
  if s.requesting then { s.perform (.abandon s.attempt) with requesting := false } else s

def teardown (s : Session) : Session :=
  let cleared : Session := { s.dropLinks with pendingKind := none }
  cleared.cancelSettle.cancelRetry.abandonRequest.disarm

def openLink (kind : TransportKind) (s : Session) : Session :=
  let link : Link := ⟨s.nextLink, kind⟩
  { s.perform (.open link) with
    active := some link
    lastKind := some kind
    nextLink := s.nextLink + 1 }

/-- Hand a frame to the transport in use, which takes frames if `accepting`. -/
def transmit (accepting : Bool) (frame : String) (s : Session) : Bool × Session :=
  match s.active with
  | none => (false, s)
  | some link =>
      if accepting then (true, s.perform (.sent link.number frame))
      else (false, s.perform (.refused link.number frame))

/-! ## Failures -/

def giveUp (s : Session) : Session :=
  let failed : Session := { s.teardown with phase := .failed }
  (failed.display (.fatal .cannotConnect)).report (.fault (.budgetExhausted s.failures))

/-- Settle how a manual attempt went. -/
def settleManual (feedback : Feedback) (s : Session) : Session :=
  if s.manualPending then { s with manualPending := false }.display feedback else s

/-- Count one more failure: at the budget after a persistent transport, fall back; past it,
give up; else retry after the delay. -/
def countFailure (setup : Setup) (s : Session) : Session :=
  let count := s.failures + 1
  let budget := setup.config.retryBudget
  let counted : Session :=
    { s with
      phase := .reconnecting
      failures := count
      fallback := s.fallback || (count == budget && s.lastKind != some .polling) }
  if budget < count then counted.giveUp else counted.startRetry setup

/-- The connection, or the attempt at one, broke down. -/
def fail (setup : Setup) (s : Session) : Session :=
  match s.phase with
  | .failed | .idle => s
  | _ =>
      let aside : Session := { s.setAside.cancelSettle with pendingKind := none }
      ((aside.disarm.settleManual .reconnectFailed).display .connectionLost).countFailure setup

/-! ## Connecting -/

def chooseKind (setup : Setup) (forceFallback : Bool) (s : Session) : TransportKind :=
  if setup.persistent && !forceFallback && !s.fallback then .persistent else .polling

/-- Start over with fresh credentials.  Empty ones are ignored.  A transport that is still
about is given up first, and the next one waits for the settle delay. -/
def init (setup : Setup) (session : SessionId) (token : AccessToken) (forceFallback : Bool)
    (s : Session) : Session :=
  if session.isEmpty || token.isEmpty then s
  else
    let fresh : Session :=
      { s with
        sessionId := some session
        accessToken := some token
        spent := false
        continuation := none }
    let kind := s.chooseKind setup forceFallback
    let clear : Session := { fresh.cancelRetry.abandonRequest.disarm with phase := .connecting }
    if s.active.isSome || s.retired.isSome then
      { clear.dropLinks with pendingKind := some kind }.startSettle setup
    else
      { clear.cancelSettle with pendingKind := none }.openLink kind

/-- The settle delay has passed. -/
def openPending (s : Session) : Session :=
  match s.pendingKind with
  | none => s
  | some kind =>
      let taken : Session := { s with pendingKind := none }
      if s.phase = .connecting then taken.openLink kind else taken

/-- The transport opened: present the credentials. -/
def onOpened (setup : Setup) (accepting : Bool) (s : Session) : Session :=
  match s.phase, s.sessionId, s.accessToken with
  | .connecting, some session, some token =>
      let (taken, after) :=
        { s with spent := true, phase := .handshaking }.transmit accepting
          (Frame.handshake session token)
      if taken then after else after.fail setup
  | _, _, _ => s

def onHandshakeReply (setup : Setup) (data : String) (s : Session) : Session :=
  match Frame.readHandshakeReply data with
  | .ok (instance_, token) =>
      let ready : Session :=
        { s with
          instanceId := some instance_
          continuation := some token
          failures := 0
          phase := .ready }
      let shown := ((ready.watch setup).display .connectionRestored).settleManual
        .reconnectSucceeded
      if s.readyReported then shown.report .reconnected
      else { shown with readyReported := true }.report .ready
  | .error fault => (s.report (.fault (.handshake fault))).fail setup

/-! ## Frames -/

/-- A frame that breaks the protocol ends the session. -/
def onBrokenFrame (data : String) (s : Session) : Session :=
  let failed : Session := { s.teardown with phase := .failed }
  (failed.display (.fatal (.invalidData data))).report (.fault (.framing data))

def onFrame (setup : Setup) (accepting : Bool) (data : String) (s : Session) : Session :=
  match Frame.readInbound data with
  | .error .empty => s
  | .error _ => s.onBrokenFrame data
  | .ok .invalidRequest => s
  | .ok (.framed token remainder) =>
      let rotated : Session := { s with continuation := some token }
      if remainder = Frame.ping then
        match s.sessionId with
        | none => rotated
        | some session =>
            let (taken, after) := rotated.transmit accepting (Frame.pong session token)
            if taken then after.touch setup else after.fail setup
      else
        let touched := rotated.touch setup
        if remainder.isEmpty then touched else touched.report (.message remainder)

def onTransport (setup : Setup) (accepting : Bool) (number : Nat) (event : TransportEvent)
    (s : Session) : Session :=
  if s.active.map (·.number) = some number then
    match event with
    | .opened => s.onOpened setup accepting
    | .message data =>
        match s.phase with
        | .handshaking => s.onHandshakeReply setup data
        | .ready => s.onFrame setup accepting data
        | _ => s
    | .closed | .failed => s.fail setup
  else s

/-- Send a task, and whether a frame was transmitted. -/
def send (setup : Setup) (accepting : Bool) (task : String) (fields : List (String × String))
    (s : Session) : Bool × Session :=
  if s.phase = .ready then
    if s.health.lost then (false, s.fail setup)
    else
      match s.sessionId, s.continuation with
      | some session, some token =>
          let (taken, after) := s.transmit accepting (Frame.outbound session token task fields)
          (taken, if taken then after else after.fail setup)
      | _, _ => (false, s)
  else (false, s)

/-! ## Reconnecting -/

def request (instanceId : InstanceId) (manual : Bool) (s : Session) : Session :=
  let free := s.abandonRequest
  { free.perform (.request (s.attempt + 1) manual instanceId) with
    attempt := s.attempt + 1
    requesting := true }

/-- The retry delay has passed: ask for fresh credentials, or use the ones never presented. -/
def onRetry (setup : Setup) (s : Session) : Session :=
  if s.phase = .reconnecting then
    match s.instanceId with
    | some instance_ => s.request instance_ false
    | none =>
        match s.sessionId, s.accessToken, s.spent with
        | some session, some token, false => s.init setup session token false
        | _, _, _ => s.giveUp
  else s

def onReply (setup : Setup) (manual : Bool) (reply : Option ReconnectReply) (s : Session) :
    Session :=
  match reply with
  | some (.credentials session token) =>
      { s with manualPending := manual }.init setup session token false
  | some .refresh => { s.teardown with phase := .idle }.report .reloadRequested
  | none => { s with manualPending := manual }.fail setup

/-- Whether the user can ask for a reconnect now. -/
def canReconnect (s : Session) : Bool :=
  match s.phase with
  | .reconnecting | .failed => true
  | .ready => s.health.lost
  | _ => false

def reconnect (s : Session) : Session :=
  if s.canReconnect then
    match s.instanceId with
    | none => s.display .reconnectFailed
    | some instance_ =>
        let counted : Session := if s.phase = .failed then { s with failures := 0 } else s
        { counted.cancelRetry.setAside.disarm with phase := .reconnecting }.request instance_ true
  else s

/-! ## One step -/

/-- Handle one input.  `accepting` says whether the transport in use takes frames now. -/
def handle (setup : Setup) (accepting : Bool) (s : Session) : Input → Session
  | .init session token forceFallback => s.init setup session token forceFallback
  | .send call task fields =>
      let (sent, after) := s.send setup accepting task fields
      after.perform (.answer call sent)
  | .reconnect => s.reconnect
  | .close => { s.teardown with phase := .idle, running := false }
  | .expired .settle ticket =>
      let (claimed, settle) := s.settle.take ticket
      if claimed then { s with settle }.openPending else s
  | .expired .retry ticket =>
      let (claimed, retry) := s.retry.take ticket
      if claimed then { s with retry }.onRetry setup else s
  | .expired .silence ticket =>
      let (claimed, health) := s.health.expire ticket
      if claimed then { s with health }.display .connectionLost else s
  | .resolved attempt manual reply =>
      if attempt = s.attempt && s.requesting then
        { s with requesting := false }.onReply setup manual reply
      else s
  | .transport number event => s.onTransport setup accepting number event

/-- The session after one input, and the effects asked for, in order. -/
def step (setup : Setup) (accepting : Bool) (s : Session) (input : Input) :
    Session × List Effect :=
  if s.running then
    let after := { s with outbox := [] }.handle setup accepting input
    ({ after with outbox := [] }, after.outbox)
  else (s, [])

def status (s : Session) : Status where
  phase := s.phase
  failures := s.failures
  connectionLost := s.health.lost
  transport := s.active.map (·.kind)
  fallback := s.fallback
  instanceId := s.instanceId

def shownOption (text : Option String) : String :=
  match text with
  | some text => "Some(" ++ text ++ ")"
  | none => "None"

/-- A session as a diagnostic shows it: no credential appears. -/
def shown (s : Session) : String :=
  "SessionManager \x7b state: " ++ s.phase.shown ++
    ", session_id: " ++ shownOption (s.sessionId.map SessionId.shown) ++
    ", instance_id: " ++ shownOption (s.instanceId.map InstanceId.shown) ++
    ", reconnect_count: " ++ toString s.failures.toNat ++
    ", fallback_engaged: " ++ (if s.fallback then "true" else "false") ++ ", .. \x7d"

theorem step_stopped (setup : Setup) (accepting : Bool) {s : Session} (stopped : s.running = false)
    (input : Input) : s.step setup accepting input = (s, []) := by
  simp [step, stopped]

theorem onTransport_stale (setup : Setup) (accepting : Bool) {s : Session} {number : Nat}
    (other : s.active.map (·.number) ≠ some number) (event : TransportEvent) :
    s.onTransport setup accepting number event = s := by
  simp [onTransport, other]

end Session

end Tether
