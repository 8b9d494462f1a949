/-
# Tether.Proofs.Session.Tidings -- what a session lets the application and the user know

The application and the user know a session by what it reports and what it displays.  On
this side of it bears its outlook: the phase, whether an instance is known, whether
`ready` was reported, whether the attempt under way was asked for by the user, and the
watch for silence.  Of its effects those are voiced that report or display something,
and those that start the watch anew.

The server has its say in two ways: it welcomes the session, or it sends a frame with
text after the token (`Word`).  What can follow an input is one of a few tellings
(`Telling`), each of which says all that changes in the outlook and lists all the voiced
effects in order.  Whatever is claimed of events, of the display and of silence follows
from the tellings; no handler need be opened for it again.

* `Voices.fail` -- a failure settles a manual attempt, shows the connection lost, and is fatal or not.
* `handle_tells` -- every input a session handles leads to a telling.
* `beat_tells` -- and so does every beat of a life.
* `Life.period` -- a session is ready since a welcome.
-/
import Tether.Proofs.Session.Deeds
import Tether.Proofs.Session.Incidents

set_option autoImplicit false

namespace Tether

/-! ## Words -/

inductive Word
  /-- The handshake succeeded. -/
  | welcome
  /-- A frame came, with this text after the token. -/
  | frame (remainder : String)
deriving DecidableEq

def Hearing.word : Hearing → Option Word
  | .welcome .. => some .welcome
  | .frame _ _ remainder => some (.frame remainder)
  | _ => none

namespace Session

def word (s : Session) (input : Input) : Option Word := (s.hears input).bind Hearing.word

def Beat.word (beat : Beat) : Option Word := beat.heard.bind Hearing.word

/-! ## Outlooks and tidings -/

/-- What bears on reports and on the display. -/
structure Outlook where
  phase : Phase
  /-- Whether there is an instance to reconnect to. -/
  known : Bool
  reported : Bool
  manual : Bool
  health : HealthMonitor

def outlook (s : Session) : Outlook where
  phase := s.phase
  known := s.instanceId.isSome
  reported := s.readyReported
  manual := s.manualPending
  health := s.health

/-- Reports, requests to the display, and the start of the watch for silence are voiced. -/
def voiced : Effect → Bool
  | .event _ | .show _ | .start .silence _ _ => true
  | _ => false

def tidings (effects : List Effect) : List Effect := effects.filter voiced

@[simp] theorem tidings_append (first second : List Effect) :
    tidings (first ++ second) = tidings first ++ tidings second := List.filter_append ..

namespace Outlook

def verdict (feedback : Feedback) (v : Outlook) : List Effect :=
  if v.manual then [.show feedback] else []

def disarmed (v : Outlook) : Outlook := { v with health := v.health.disarm }

def watching (v : Outlook) : Outlook :=
  { v with health := { timer := v.health.timer.schedule, lost := false } }

def watch (setup : Setup) (v : Outlook) : List Effect :=
  [.start .silence v.health.timer.schedule.ticket setup.config.silenceTimeout.toNat]

def relief (v : Outlook) : List Effect :=
  if v.health.lost then [.show .connectionRestored] else []

def silenced (v : Outlook) : Outlook :=
  { v with health := { timer := { v.health.timer with pending := false }, lost := true } }

def welcomed (v : Outlook) : Outlook :=
  { v.watching with phase := .ready, known := true, reported := true, manual := false }

/-- In another phase, with no watch for silence. -/
def cleared (phase : Phase) (v : Outlook) : Outlook := { v.disarmed with phase := phase }

end Outlook

/-- Reporting a payload.  A ping is none, and neither is an empty text. -/
def delivery (remainder : String) : List Effect :=
  if remainder = Frame.ping ∨ remainder.isEmpty = true then [] else [.event (.message remainder)]

/-! ## Tellings -/

/-- A failure: the session retries, or it gives up. -/
inductive Setback (v : Outlook) : Outlook → List Effect → Prop
  | again :
      Setback v { v.cleared .reconnecting with manual := false }
        (v.verdict .reconnectFailed ++ [.show .connectionLost])
  | beaten (failures : UInt32) :
      Setback v { v.disarmed.cleared .failed with manual := false }
        (v.verdict .reconnectFailed ++ .show .connectionLost :: surrender failures)

/-- What a session with outlook `v` lets know about `input`, in which the server said `word`: the
outlook after, and the tidings.  `accepting` says whether the transport in use takes frames. -/
inductive Telling (setup : Setup) (accepting : Bool) (v : Outlook) (input : Input) :
    Option Word → Outlook → List Effect → Prop
  | still : Telling setup accepting v input none v []
  /-- The transport opened and took the handshake. -/
  | greet (phase : v.phase = .connecting) :
      Telling setup accepting v input none { v with phase := .handshaking } []
  | renew : Telling setup accepting v input none (v.cleared .connecting) []
  /-- The reply to a request brought credentials. -/
  | granted {attempt : Nat} {manual : Bool} {reply : Option ReconnectReply}
      (answer : input = .resolved attempt manual reply) (phase : v.phase = .reconnecting) :
      Telling setup accepting v input none { v.cleared .connecting with manual := manual } []
  /-- The reply to a request brought credentials that are empty. -/
  | denied {attempt : Nat} {manual : Bool} {reply : Option ReconnectReply}
      (answer : input = .resolved attempt manual reply) (phase : v.phase = .reconnecting) :
      Telling setup accepting v input none { v with manual := manual } []
  | reconnect (asked : input = .reconnect) (known : v.known = true) :
      Telling setup accepting v input none (v.cleared .reconnecting) []
  /-- There is no instance to reconnect to. -/
  | unable (asked : input = .reconnect) (unknown : v.known = false) :
      Telling setup accepting v input none v [.show .reconnectFailed]
  | welcome (phase : v.phase = .handshaking) :
      Telling setup accepting v input (some .welcome) v.welcomed
        (v.watch setup ++ .show .connectionRestored :: v.verdict .reconnectSucceeded ++
          [.event (if v.reported then .reconnected else .ready)])
  | frame (phase : v.phase = .ready) (remainder : String)
      (taken : remainder = Frame.ping → accepting = true) :
      Telling setup accepting v input (some (.frame remainder)) v.watching
        (v.watch setup ++ v.relief ++ delivery remainder)
  /-- The transport did not take the answer to a ping. -/
  | choke (phase : v.phase = .ready) (refused : accepting = false) {w : Outlook}
      {tidings : List Effect} (setback : Setback v w tidings) :
      Telling setup accepting v input (some (.frame Frame.ping)) w tidings
  | setback {w : Outlook} {tidings : List Effect} (setback : Setback v w tidings) :
      Telling setup accepting v input none w tidings
  /-- The reply to the handshake was of no use. -/
  | rebuff (phase : v.phase = .handshaking) (fault : Frame.Fault) {w : Outlook}
      {tidings : List Effect} (setback : Setback v w tidings) :
      Telling setup accepting v input none w (.event (.fault (.handshake fault)) :: tidings)
  /-- The request failed. -/
  | unanswered {attempt : Nat} {manual : Bool} (answer : input = .resolved attempt manual none)
      (phase : v.phase = .reconnecting) {w : Outlook} {tidings : List Effect}
      (setback : Setback { v with manual := manual } w tidings) :
      Telling setup accepting v input none w tidings
  | breach (phase : v.phase = .ready) (data : String) :
      Telling setup accepting v input none (v.cleared .failed)
        [.show (.fatal (.invalidData data)), .event (.fault (.framing data))]
  | silence (due : input = .expired .silence v.health.timer.ticket)
      (pending : v.health.timer.pending = true) :
      Telling setup accepting v input none v.silenced [.show .connectionLost]
  | refresh (phase : v.phase = .reconnecting) (known : v.known = true) :
      Telling setup accepting v input none (v.cleared .idle) [.event .reloadRequested]
  | giveUp (phase : v.phase = .reconnecting) (unknown : v.known = false) (failures : UInt32) :
      Telling setup accepting v input none (v.cleared .failed) (surrender failures)
  | close (asked : input = .close) : Telling setup accepting v input none (v.cleared .idle) []

/-! ## What is not voiced -/

/-- What is made of voiced effects alone can be made of the tidings. -/
theorem filterMap_tidings {α : Type} {f : Effect → Option α}
    (silent : ∀ effect, voiced effect = false → f effect = none) (effects : List Effect) :
    effects.filterMap f = (tidings effects).filterMap f := by
  rw [tidings, List.filterMap_filter]
  refine congrArg (List.filterMap · effects) (funext fun effect => ?_)
  cases voice : voiced effect with
  | true => rfl
  | false => exact silent effect voice

theorem mem_tidings {effects : List Effect} {effect : Effect} (voice : voiced effect = true) :
    effect ∈ tidings effects ↔ effect ∈ effects := by
  simp [tidings, List.mem_filter, voice]

theorem tidings_revocation (timer : SessionTimer) (slot : TimerSlot) :
    tidings (revocation timer slot) = [] := by
  unfold revocation
  cases slot.revoked <;> rfl

theorem tidings_retirement (links : List Link) : tidings (retirement links) = [] := by
  refine List.filter_eq_nil_iff.2 fun effect member => ?_
  obtain ⟨link, -, rfl⟩ := List.mem_map.1 member
  exact Bool.false_ne_true

theorem tidings_withdrawal (s : Session) : tidings s.withdrawal = [] := by
  unfold withdrawal
  split <;> rfl

theorem tidings_verdict (feedback : Feedback) (s : Session) :
    tidings (s.verdict feedback) = s.outlook.verdict feedback := by
  unfold verdict Outlook.verdict outlook
  split <;> rfl

theorem tidings_attention (setup : Setup) (s : Session) :
    tidings (s.attention setup) = s.outlook.watch setup := by
  rw [attention, tidings_append, tidings_revocation]
  rfl

theorem tidings_wreckage (s : Session) :
    tidings s.wreckage = s.outlook.verdict .reconnectFailed ++ [.show .connectionLost] := by
  simp only [wreckage, tidings_append, tidings_retirement, tidings_revocation, tidings_verdict,
    List.nil_append]
  rfl

theorem tidings_clearance (s : Session) : tidings s.clearance = [] := by
  simp only [clearance, tidings_append, tidings_retirement, tidings_revocation,
    tidings_withdrawal, List.nil_append]

/-! ## What the acts come to -/

/-- The session has this outlook, and has let this much know. -/
structure Voices (s : Session) (v : Outlook) (given : List Effect) : Prop where
  stands : s.outlook = v
  gives : tidings s.outbox = given

section Acts

variable (setup : Setup) {s : Session} {v : Outlook} {given : List Effect}

/-- Effects that are not voiced leave the tidings as they are. -/
theorem unvoiced {outbox more : List Effect} (told : tidings outbox = given)
    (silent : tidings more = []) : tidings (outbox ++ more) = given := by
  rw [tidings_append, told, silent, List.append_nil]

theorem Voices.perform (before : s.Voices v given) (effect : Effect) :
    (s.perform effect).Voices v (given ++ tidings [effect]) :=
  ⟨before.stands, by rw [Session.perform, tidings_append, before.gives]⟩

theorem Voices.quiet (before : s.Voices v given) {effect : Effect}
    (silent : voiced effect = false) : (s.perform effect).Voices v given := by
  refine ⟨before.stands, unvoiced before.gives ?_⟩
  exact List.filter_cons_of_neg (Bool.eq_false_iff.1 silent)

theorem Voices.teardown (before : s.Voices v given) (phase : Phase) :
    ({ s.teardown with phase := phase } : Session).Voices (v.cleared phase) given := by
  obtain ⟨rfl, told⟩ := before
  rw [teardown_eq]
  exact ⟨rfl, unvoiced told (tidings_clearance s)⟩

theorem Voices.giveUp (before : s.Voices v given) :
    s.giveUp.Voices (v.cleared .failed) (given ++ surrender s.failures) := by
  have cleared := before.teardown .failed
  have shown := (cleared.perform (.show (.fatal .cannotConnect))).perform
    (.event (.fault (.budgetExhausted s.failures)))
  rw [List.append_assoc] at shown
  exact shown

/-- A failure settles a manual attempt and shows the connection lost; past the budget it is
fatal. -/
theorem Voices.fail (before : s.Voices v given) (alive : s.Alive) :
    ∃ w more, Setback v w more ∧ (s.fail setup).Voices w (given ++ more) := by
  obtain ⟨rfl, told⟩ := before
  have counted : (s.wrecked.counted setup).Voices
      { s.outlook.cleared .reconnecting with manual := false }
      (given ++ (s.outlook.verdict .reconnectFailed ++ [.show .connectionLost])) := by
    refine ⟨rfl, ?_⟩
    show tidings (s.outbox ++ s.wreckage) = _
    rw [tidings_append, told, tidings_wreckage]
  rw [fail_eq setup alive, countFailure_eq]
  split
  · refine ⟨_, _, .beaten (s.wrecked.counted setup).failures, ?_⟩
    have ended := counted.giveUp
    refine ⟨ended.stands, ended.gives.trans ?_⟩
    simp only [List.append_assoc, List.cons_append, List.nil_append]
  · refine ⟨_, _, .again, ?_⟩
    rw [startRetry_eq]
    exact ⟨rfl, unvoiced (unvoiced counted.gives (tidings_revocation ..)) rfl⟩

/-- Starting over with credentials that are not empty. -/
theorem Voices.init (before : s.Voices v given) {session : SessionId} {token : AccessToken}
    (usable : (session.isEmpty || token.isEmpty) = false) (forced : Bool) :
    (s.init setup session token forced).Voices (v.cleared .connecting) given := by
  obtain ⟨rfl, told⟩ := before
  have renewed : tidings (s.renewed session token).outbox = given :=
    unvoiced (unvoiced (unvoiced told (tidings_revocation ..)) (tidings_withdrawal s))
      (tidings_revocation ..)
  rw [init_eq setup usable]
  split
  · rw [startSettle_eq]
    refine ⟨rfl, unvoiced (unvoiced (unvoiced renewed ?_) (tidings_revocation ..)) rfl⟩
    exact tidings_retirement _
  · rw [cancelSettle_eq]
    exact ⟨rfl, unvoiced (unvoiced renewed (tidings_revocation ..)) rfl⟩

theorem Voices.touch (before : s.Voices v given) :
    (s.touch setup).Voices v.watching (given ++ (v.watch setup ++ v.relief)) := by
  obtain ⟨rfl, told⟩ := before
  have shown : tidings (if s.health.lost then [.show .connectionRestored] else []) =
      s.outlook.relief := by
    unfold Outlook.relief outlook
    split <;> rfl
  rw [touch_eq]
  refine ⟨rfl, ?_⟩
  show tidings (s.outbox ++ s.attention setup ++ _) = _
  rw [tidings_append, tidings_append, told, tidings_attention, shown, List.append_assoc]

end Acts

/-! ## What the handlers let know -/

/-- What became of `s` is a telling. -/
def Tells (setup : Setup) (accepting : Bool) (s : Session) (input : Input) (word : Option Word)
    (t : Session) : Prop :=
  Telling setup accepting s.outlook input word t.outlook (tidings t.outbox)

section Handlers

variable (setup : Setup) (accepting : Bool) {s : Session} {input : Input}

theorem Voices.tells {t : Session} {word : Option Word} {w : Outlook} {given : List Effect}
    (after : t.Voices w given) (telling : Telling setup accepting s.outlook input word w given) :
    s.Tells setup accepting input word t := by
  obtain ⟨rfl, rfl⟩ := after
  exact telling

/-- A session that has asked for nothing yet. -/
theorem mute (empty : s.outbox = []) : s.Voices s.outlook [] := ⟨rfl, by rw [empty]; rfl⟩

theorem still_tells (empty : s.outbox = []) : s.Tells setup accepting input none s :=
  (mute empty).tells setup accepting .still

/-- A failure of what stands as `s` does. -/
theorem fail_tells {t : Session} (before : t.Voices s.outlook []) (alive : t.Alive) :
    s.Tells setup accepting input none (t.fail setup) := by
  obtain ⟨w, given, setback, after⟩ := before.fail setup alive
  exact after.tells setup accepting (.setback setback)

theorem onOpened_tells (coherent : s.Coherent False) (empty : s.outbox = []) {link : Link}
    (used : s.active = some link) :
    s.Tells setup accepting input none (s.onOpened setup accepting) := by
  by_cases phase : s.phase = .connecting
  · have opening := (arranged_connecting phase).1 coherent.arranged
    obtain ⟨session, held⟩ := Option.isSome_iff_exists.1 opening.sessionId
    obtain ⟨token, tokenHeld⟩ := Option.isSome_iff_exists.1 opening.accessToken
    have before : s.presenting.Voices { s.outlook with phase := .handshaking } [] :=
      ⟨rfl, (mute empty).gives⟩
    rw [onOpened_eq setup accepting phase held tokenHeld used]
    cases accepting with
    | true => exact (before.quiet rfl).tells setup true (.greet phase)
    | false =>
        have alive : (s.presenting.perform
            (.refused link.number (Frame.handshake session token))).Alive := ⟨nofun, nofun⟩
        obtain ⟨w, given, setback, after⟩ := (before.quiet rfl).fail setup alive
        -- A failure leaves nothing of the phase it came in.
        have same : Setback s.outlook w given := by
          cases setback with
          | again => exact .again
          | beaten failures => exact .beaten failures
        exact after.tells setup false (.setback same)
  · rw [onOpened_late setup accepting phase]
    exact still_tells setup accepting empty

theorem onHandshakeReply_tells (empty : s.outbox = []) (phase : s.phase = .handshaking)
    (number : Nat) (data : String) :
    s.Tells setup accepting input ((s.reads number data).bind Hearing.word)
      (s.onHandshakeReply setup data) := by
  unfold reads
  rw [phase]
  dsimp only
  cases read : Frame.readHandshakeReply data with
  | ok parts =>
      obtain ⟨instanceId, token⟩ := parts
      rw [onHandshakeReply_ok setup read]
      refine Voices.tells setup accepting ⟨rfl, ?_⟩ (.welcome phase)
      show tidings (s.outbox ++ s.attention setup ++ [_] ++ s.verdict _ ++ [_]) = _
      simp only [tidings_append, (mute empty).gives, tidings_attention, tidings_verdict,
        List.append_assoc, List.nil_append]
      unfold outlook
      split <;> rfl
  | error fault =>
      rw [onHandshakeReply_error setup read]
      have alive : s.Alive := alive_of_phase phase ⟨nofun, nofun⟩
      have told := (mute empty).perform (.event (.fault (.handshake fault)))
      obtain ⟨w, given, setback, after⟩ := told.fail setup alive
      exact after.tells setup accepting (.rebuff phase fault setback)

theorem onFrame_tells (coherent : s.Coherent False) (empty : s.outbox = [])
    (phase : s.phase = .ready) (number : Nat) (data : String) :
    s.Tells setup accepting input ((s.reads number data).bind Hearing.word)
      (s.onFrame setup accepting data) := by
  have flowing := (arranged_ready phase).1 coherent.arranged
  have alive : s.Alive := alive_of_phase phase ⟨nofun, nofun⟩
  unfold reads
  rw [phase]
  dsimp only
  match read : Frame.readInbound data with
  | .ok (.framed token remainder) =>
      have rotated : (s.rotated token).Voices s.outlook [] := ⟨rfl, (mute empty).gives⟩
      by_cases ping : remainder = Frame.ping
      · subst ping
        obtain ⟨session, held⟩ := Option.isSome_iff_exists.1 flowing.sessionId
        obtain ⟨link, used⟩ := Option.isSome_iff_exists.1 flowing.active
        rw [onFrame_ping setup accepting read held used]
        cases accepting with
        | true =>
            have sent : ((s.rotated token).perform
                (.sent link.number (Frame.pong session token))).Voices s.outlook [] :=
              rotated.quiet rfl
            have touched := sent.touch setup
            have nothing : s.outlook.watch setup ++ s.outlook.relief =
                s.outlook.watch setup ++ s.outlook.relief ++ delivery Frame.ping :=
              (List.append_nil _).symm
            rw [List.nil_append, nothing] at touched
            exact touched.tells setup true (.frame phase Frame.ping fun _ => rfl)
        | false =>
            have refused : ((s.rotated token).perform
                (.refused link.number (Frame.pong session token))).Voices s.outlook [] :=
              rotated.quiet rfl
            obtain ⟨w, given, setback, after⟩ := refused.fail setup alive
            exact after.tells setup false (.choke phase rfl setback)
      · have touched := rotated.touch setup
        have frame : Telling setup accepting s.outlook input (some (.frame remainder)) _ _ :=
          .frame phase remainder fun same => absurd same ping
        rw [onFrame_payload setup accepting read ping]
        cases nothing : remainder.isEmpty with
        | true =>
            have undelivered : delivery remainder = [] := if_pos (.inr nothing)
            rw [undelivered, List.append_nil] at frame
            exact touched.tells setup accepting frame
        | false =>
            have delivered : delivery remainder = [.event (.message remainder)] :=
              if_neg (not_or.2 ⟨ping, Bool.eq_false_iff.1 nothing⟩)
            rw [delivered] at frame
            exact (touched.perform (.event (.message remainder))).tells setup accepting frame
  | .ok .invalidRequest =>
      rw [onFrame_idle setup accepting (.inr read)]
      exact still_tells setup accepting empty
  | .error fault =>
      by_cases nothing : fault = .empty
      · rw [onFrame_idle setup accepting (.inl (nothing ▸ read))]
        exact still_tells setup accepting empty
      · rw [onFrame_broken setup accepting read nothing, onBrokenFrame_eq]
        refine Voices.tells setup accepting ⟨rfl, ?_⟩ (.breach phase data)
        show tidings (s.outbox ++ s.clearance ++ [_, _]) = _
        rw [tidings_append, unvoiced (mute empty).gives (tidings_clearance s)]
        rfl

theorem onTransport_tells (coherent : s.Coherent False) (empty : s.outbox = []) (number : Nat)
    (event : TransportEvent) :
    s.Tells setup accepting (.transport number event) (s.word (.transport number event))
      (s.onTransport setup accepting number event) := by
  unfold word
  by_cases own : s.active.map (·.number) = some number
  · obtain ⟨link, used, rfl⟩ := Option.map_eq_some_iff.1 own
    have inUse : s.active ≠ none := by
      rw [used]
      exact nofun
    have alive := coherent.arranged.alive inUse
    unfold onTransport
    rw [if_pos own]
    cases event with
    | opened =>
        have heard : s.hears (.transport link.number .opened) = some (.opened link.number) :=
          if_pos own
        rw [heard]
        exact onOpened_tells setup accepting coherent empty used
    | closed => exact fail_tells setup accepting (mute empty) alive
    | failed => exact fail_tells setup accepting (mute empty) alive
    | message data =>
        have heard : s.hears (.transport link.number (.message data)) =
            s.reads link.number data := if_pos own
        rw [heard]
        dsimp only
        split
        · exact onHandshakeReply_tells setup accepting empty ‹_› link.number data
        · exact onFrame_tells setup accepting coherent empty ‹_› link.number data
        · rename_i handshaking ready
          have unread : s.reads link.number data = none := by
            unfold reads
            split
            · exact absurd ‹_› handshaking
            · exact absurd ‹_› ready
            · rfl
          rw [unread]
          exact still_tells setup accepting empty
  · have unheard : s.hears (.transport number event) = none := by
      cases event with
      | opened => exact if_neg own
      | message data => exact if_neg own
      | _ => rfl
    rw [onTransport_stale setup accepting own, unheard]
    exact still_tells setup accepting empty

theorem send_tells (coherent : s.Coherent False) (empty : s.outbox = []) (call : Nat)
    (task : String) (fields : List (String × String)) :
    s.Tells setup accepting input none
      ((s.send setup accepting task fields).2.perform
        (.answer call (s.send setup accepting task fields).1)) := by
  have before := mute empty
  by_cases phase : s.phase = .ready
  · have flowing := (arranged_ready phase).1 coherent.arranged
    have alive : s.Alive := alive_of_phase phase ⟨nofun, nofun⟩
    cases gone : s.health.lost with
    | true =>
        obtain ⟨w, given, setback, after⟩ := before.fail setup alive
        rw [send_lost setup accepting task fields phase gone]
        exact (after.quiet rfl).tells setup accepting (.setback setback)
    | false =>
        obtain ⟨session, held⟩ := Option.isSome_iff_exists.1 flowing.sessionId
        obtain ⟨token, current⟩ := Option.isSome_iff_exists.1 flowing.continuation
        obtain ⟨link, used⟩ := Option.isSome_iff_exists.1 flowing.active
        rw [send_ready setup accepting task fields phase gone held current used]
        cases accepting with
        | true => exact ((before.quiet rfl).quiet rfl).tells setup true .still
        | false =>
            have refused : (s.perform (.refused link.number
                (Frame.outbound session token task fields))).Voices s.outlook [] :=
              before.quiet rfl
            obtain ⟨w, given, setback, after⟩ := refused.fail setup alive
            exact (after.quiet rfl).tells setup false (.setback setback)
  · rw [send_unready setup accepting task fields phase]
    exact (before.quiet rfl).tells setup accepting .still

theorem reconnect_tells (empty : s.outbox = []) :
    s.Tells setup accepting .reconnect none s.reconnect := by
  have before := mute empty
  cases allowed : s.canReconnect with
  | false =>
      unfold reconnect
      rw [allowed]
      exact still_tells setup accepting empty
  | true =>
      cases known : s.instanceId with
      | none =>
          unfold reconnect
          rw [if_pos allowed, known]
          refine (before.perform (.show .reconnectFailed)).tells setup accepting (.unable rfl ?_)
          exact congrArg Option.isSome known
      | some instanceId =>
          rw [reconnect_eq allowed known, request_eq]
          refine Voices.tells setup accepting ⟨rfl, ?_⟩
            (.reconnect rfl (congrArg Option.isSome known))
          refine unvoiced (unvoiced (unvoiced (unvoiced (unvoiced before.gives ?_) ?_) ?_) ?_) rfl
          · exact tidings_revocation ..
          · exact tidings_retirement _
          · exact tidings_revocation ..
          · exact tidings_withdrawal _

/-- The retry delay has passed. -/
theorem onRetry_tells (coherent : s.Coherent False) (empty : s.outbox = [])
    (pending : s.retry.pending = true) :
    s.Tells setup accepting input none ((s.claimed .retry).onRetry setup) := by
  have phase := coherent.arranged.awaits_retry pending
  have before : (s.claimed .retry).Voices s.outlook [] := ⟨rfl, (mute empty).gives⟩
  have due : (s.claimed .retry).phase = .reconnecting := phase
  unfold onRetry
  rw [if_pos due]
  split
  · rw [request_eq]
    refine Voices.tells setup accepting ⟨rfl, ?_⟩ .still
    exact unvoiced (unvoiced before.gives (tidings_withdrawal _)) rfl
  · rename_i unknown
    split
    · rename_i session token held tokenHeld _
      have usable : (session.isEmpty || token.isEmpty) = false := by
        rw [coherent.credited.1 session held, coherent.credited.2 token tokenHeld, Bool.or_false]
      exact (before.init setup usable false).tells setup accepting .renew
    · refine before.giveUp.tells setup accepting (.giveUp phase ?_ _)
      exact congrArg Option.isSome unknown

theorem openPending_tells (empty : s.outbox = []) :
    s.Tells setup accepting input none (s.claimed .settle).openPending := by
  have before : (s.claimed .settle).Voices s.outlook [] := ⟨rfl, (mute empty).gives⟩
  unfold openPending
  split
  · exact before.tells setup accepting .still
  · dsimp only
    split
    · exact Voices.tells setup accepting ⟨rfl, unvoiced before.gives rfl⟩ .still
    · exact Voices.tells setup accepting ⟨rfl, before.gives⟩ .still

/-- A reply that counts. -/
theorem onReply_tells (coherent : s.Coherent False) (empty : s.outbox = [])
    (requesting : s.requesting = true) (known : s.instanceId.isSome = true) (manual : Bool)
    (reply : Option ReconnectReply) :
    s.Tells setup accepting (.resolved s.attempt manual reply)
      (s.word (.resolved s.attempt manual reply)) (s.answered.onReply setup manual reply) := by
  have phase := coherent.arranged.awaits_reply requesting
  have told : ({ s.answered with manualPending := manual } : Session).Voices
      { s.outlook with manual := manual } [] := ⟨rfl, (mute empty).gives⟩
  match reply with
  | some (.credentials session token) =>
      have heard : s.hears (.resolved s.attempt manual (some (.credentials session token))) =
          presentable session token := if_pos ⟨rfl, requesting⟩
      unfold word
      rw [heard, presentable]
      cases usable : session.isEmpty || token.isEmpty with
      | true =>
          have ignored := init_empty setup usable false { s.answered with manualPending := manual }
          rw [if_pos rfl]
          show s.Tells setup accepting _ _
            (({ s.answered with manualPending := manual } : Session).init setup session token false)
          rw [ignored]
          exact told.tells setup accepting (.denied rfl phase)
      | false =>
          rw [if_neg Bool.false_ne_true]
          exact (told.init setup usable false).tells setup accepting (.granted rfl phase)
  | some .refresh =>
      have before : s.answered.Voices s.outlook [] := ⟨rfl, (mute empty).gives⟩
      exact ((before.teardown .idle).perform (.event .reloadRequested)).tells setup accepting
        (.refresh phase known)
  | none =>
      have alive : s.Alive := alive_of_phase phase ⟨nofun, nofun⟩
      obtain ⟨w, given, setback, after⟩ := told.fail setup alive
      exact after.tells setup accepting (.unanswered rfl phase setback)

/-- **Whatever a session takes in leads to a telling.** -/
theorem handle_tells (coherent : s.Coherent False) (empty : s.outbox = [])
    (asks : s.requesting = true → s.instanceId.isSome = true) (input : Input) :
    s.Tells setup accepting input (s.word input) (s.handle setup accepting input) := by
  cases input with
  | init session token forced =>
      have unsaid : s.word (.init session token forced) = none := by
        show (presentable session token).bind Hearing.word = none
        unfold presentable
        split <;> rfl
      rw [unsaid]
      show s.Tells setup accepting _ none (s.init setup session token forced)
      cases usable : session.isEmpty || token.isEmpty with
      | true =>
          rw [init_empty setup usable]
          exact still_tells setup accepting empty
      | false => exact ((mute empty).init setup usable forced).tells setup accepting .renew
  | send call task fields => exact send_tells setup accepting coherent empty call task fields
  | reconnect => exact reconnect_tells setup accepting empty
  | close =>
      have idle := (mute empty).teardown .idle
      exact Voices.tells setup accepting ⟨idle.stands, idle.gives⟩ (.close rfl)
  | expired timer ticket =>
      rw [handle_expired]
      split
      · rename_i current
        obtain ⟨rfl, pending⟩ := current
        cases timer with
        | settle => exact openPending_tells setup accepting empty
        | retry => exact onRetry_tells setup accepting coherent empty pending
        | silence =>
            have lost : (s.claimed .silence).Voices s.outlook.silenced [] :=
              ⟨rfl, (mute empty).gives⟩
            exact (lost.perform (.show .connectionLost)).tells setup accepting
              (.silence rfl pending)
      · exact still_tells setup accepting empty
  | resolved attempt manual reply =>
      rw [handle_resolved]
      split
      · rename_i current
        obtain ⟨rfl, requesting⟩ := current
        exact onReply_tells setup accepting coherent empty requesting (asks requesting) manual reply
      · rename_i late
        have unsaid : s.word (.resolved attempt manual reply) = none := by
          match reply with
          | some (.credentials session token) =>
              exact congrArg (Option.bind · Hearing.word) (if_neg late)
          | some .refresh => rfl
          | none => rfl
        rw [unsaid]
        exact still_tells setup accepting empty
  | transport number event => exact onTransport_tells setup accepting coherent empty number event

end Handlers

/-! ## Lives -/

section Lives

variable {config : SessionConfig} {past : List Beat} {s : Session}

/-- An instance that is known stays so, and a request is made of a known one only. -/
theorem Upshot.known {setup : Setup} {v w : Footing} {incident : Option Incident}
    {given : List Effect} (upshot : Upshot setup v incident w given)
    (before : v.requesting = true → v.instanceId.isSome = true) :
    w.requesting = true → w.instanceId.isSome = true := by
  have anew : ∀ {forced : Bool} {v w : Footing} {given : List Effect},
      Anew setup forced v w given → w.requesting = true → w.instanceId.isSome = true := by
    intro forced v w given anew requesting
    cases anew <;> cases requesting
  cases upshot with
  | still | greet | heard | settled => exact before
  | idle | setBack | beaten | breach | refresh | giveUp | close =>
      intro requesting
      cases requesting
  | welcome => exact fun _ => rfl
  | start given => exact anew given
  | credentials _ given => exact anew given
  | reuse _ _ _ given => exact anew given
  | reconnect _ known => exact fun _ => Option.isSome_iff_exists.2 ⟨_, known⟩
  | request _ _ known => exact fun _ => Option.isSome_iff_exists.2 ⟨_, known⟩

theorem life_known (life : Life config past s) :
    s.requesting = true → s.instanceId.isSome = true := by
  induction life with
  | fresh => exact nofun
  | beat life turn ih => exact (beat_upshot life turn).known ih

/-- **Every beat of a life is a telling.** -/
theorem beat_tells (life : Life config past s) (turn : Turn) :
    Telling (turn.setup config) turn.accepting s.outlook turn.input (s.beat config turn).word
      (s.beat config turn).after.outlook (tidings (s.beat config turn).effects) := by
  cases running : s.running with
  | false =>
      obtain ⟨after, effects⟩ := beat_stopped running turn
      have unheard : (s.beat config turn).heard = none := if_neg (Bool.eq_false_iff.1 running)
      rw [after, effects, Beat.word, unheard]
      exact .still
  | true =>
      obtain ⟨after, effects⟩ := beat_running running life.outbox turn
      have heard : (s.beat config turn).heard = s.hears turn.input := if_pos running
      rw [after, effects, Beat.word, heard]
      have coherent := life.coherent
      exact handle_tells (turn.setup config) turn.accepting coherent life.outbox (life_known life)
        turn.input

theorem Life.telling (life : Life config past s) {k : Nat} {beat : Beat}
    (here : past[k]? = some beat) :
    Telling (beat.turn.setup config) beat.turn.accepting beat.before.outlook beat.turn.input
      beat.word beat.after.outlook (tidings beat.effects) := by
  obtain ⟨before, same⟩ := life.at here
  have telling := beat_tells before beat.turn
  rw [← same] at telling
  exact telling

/-! ### Ready periods -/

/-- The beats of a ready period so far: the handshake succeeded in `start`, and every beat since
found the session ready. -/
structure Period (start : Beat) (period : List Beat) : Prop where
  welcome : start.word = some .welcome
  ready : ∀ beat ∈ period, beat.before.phase = .ready

theorem Period.concat {start beat : Beat} {period : List Beat} (within : Period start period)
    (ready : beat.before.phase = .ready) : Period start (period ++ [beat]) := by
  refine ⟨within.welcome, fun other member => ?_⟩
  rcases List.mem_append.1 member with earlier | last
  · exact within.ready other earlier
  · obtain rfl := List.mem_singleton.1 last
    exact ready

/-- A session gets ready by a welcome, and in no other way. -/
theorem Telling.ready {setup : Setup} {accepting : Bool} {v w : Outlook} {input : Input}
    {word : Option Word} {given : List Effect}
    (telling : Telling setup accepting v input word w given) (after : w.phase = .ready) :
    word = some .welcome ∨ v.phase = .ready := by
  have down : ∀ {v w : Outlook} {given : List Effect}, Setback v w given → w.phase ≠ .ready := by
    intro v w given setback
    cases setback <;> exact nofun
  cases telling with
  | welcome => exact .inl rfl
  | still => exact .inr after
  | denied => exact .inr after
  | unable => exact .inr after
  | silence => exact .inr after
  | frame phase => exact .inr phase
  | choke phase => exact .inr phase
  | breach phase => exact .inr phase
  | setback setback => exact absurd after (down setback)
  | rebuff _ _ setback => exact absurd after (down setback)
  | unanswered _ _ setback => exact absurd after (down setback)
  | greet | renew | granted | reconnect | refresh | giveUp | close => cases after

/-- A session that is ready is in a ready period. -/
theorem Life.period (life : Life config past s) (ready : s.phase = .ready) :
    ∃ first start period, past = first ++ start :: period ∧ Period start period := by
  induction life with
  | fresh => cases ready
  | @beat past s life turn ih =>
      have telling := beat_tells life turn
      generalize same : s.beat config turn = beat at telling ready ⊢
      have after : beat.after.outlook.phase = .ready := ready
      rcases telling.ready after with welcome | before
      · exact ⟨past, beat, [], rfl, welcome, fun _ member => (List.not_mem_nil member).elim⟩
      · obtain ⟨first, start, period, rfl, within⟩ := ih before
        refine ⟨first, start, period ++ [beat], ?_, within.concat ?_⟩
        · rw [List.append_assoc, List.cons_append]
        · rw [← same]
          exact before

end Lives

end Session

end Tether
