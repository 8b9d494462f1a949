/-
# Tether.Proofs.Session.Ledger -- what the surroundings can answer

The surroundings know a session by numbers: a timer by the generation of its slot, a
reconnect request by its attempt, a transport by the order of its creation.  A ledger
keeps the numbers that are in force, together with the log of everything that was taken
in and asked for.  The timers and the request are *errands*: each is begun under a
number, and its answer counts while that number is the latest and still awaited.

Whatever a handler does, its ledger moves by a few acts (`Ledger.Act`), so a law of the
numbers is proved once for each act and then holds of every handler, whichever other
handlers it calls.

* `handle_leads` -- an input is noted, and then the ledger moves by acts alone.
-/
import Mathlib.Logic.Relation
import Tether.Proofs.Session.Run

set_option autoImplicit false

namespace Tether

/-! ## Errands -/

/-- What the surroundings answer in their own time. -/
inductive Errand
  | timer (timer : SessionTimer)
  | request
deriving DecidableEq

theorem Errand.forall {p : Errand → Prop} :
    (∀ errand, p errand) ↔
      p (.timer .settle) ∧ p (.timer .retry) ∧ p (.timer .silence) ∧ p .request := by
  constructor
  · intro all
    exact ⟨all _, all _, all _, all _⟩
  · rintro ⟨settle, retry, silence, request⟩ (timer | _)
    · cases timer <;> assumption
    · exact request

/-- The errand that an input answers, and the number under which it was begun. -/
def Input.answers : Input → Option (Errand × Nat)
  | .expired timer ticket => some (.timer timer, ticket.generation)
  | .resolved attempt _ _ => some (.request, attempt)
  | _ => none

def Effect.Plain : Effect → Prop
  | .open _ | .retire _ | .start .. | .stop .. | .request .. | .abandon _ => False
  | _ => True

/-- What was taken in, or asked for in return. -/
inductive Entry
  | taken (input : Input)
  | asked (effect : Effect)
deriving DecidableEq

namespace Session

/-- The entries of a beat: its input, then its effects. -/
def Beat.entries (beat : Beat) : List Entry :=
  .taken beat.turn.input :: beat.effects.map .asked

def log (past : List Beat) : List Entry := past.flatMap Beat.entries

theorem log_concat (past : List Beat) (beat : Beat) :
    log (past ++ [beat]) = log past ++ [.taken beat.turn.input] ++ beat.effects.map .asked := by
  simp [log, Beat.entries]

/-- The latest number of an errand, and whether its answer is awaited. -/
def errand (s : Session) : Errand → TimerSlot
  | .timer timer => s.slot timer
  | .request => { generation := s.attempt, pending := s.requesting }

end Session

/-! ## Ledgers -/

/-- The numbers in force, and how they came about. -/
@[ext] structure Ledger where
  running : Bool
  errand : Errand → TimerSlot
  active : Option Link
  retired : Option Link
  nextLink : Nat
  log : List Entry

namespace Ledger

def ask (effects : List Effect) (l : Ledger) : Ledger :=
  { l with log := l.log ++ effects.map .asked }

def renumber (errand : Errand) (slot : TimerSlot) (l : Ledger) : Ledger :=
  { l with errand := fun other => if other = errand then slot else l.errand other }

/-- The ledger that has noted an input: the answer that it brings, if any, is awaited no longer. -/
def hear (input : Input) (l : Ledger) : Ledger :=
  { l with
    errand := fun errand =>
      if l.running = true ∧ input.answers = some (errand, (l.errand errand).generation) then
        { l.errand errand with pending := false }
      else l.errand errand
    log := l.log ++ [.taken input] }

/-- One act of a session, as far as numbers go. -/
inductive Act : Ledger → Ledger → Prop
  | say {l : Ledger} (effect : Effect) (plain : effect.Plain) : Act l (l.ask [effect])
  | cancel {l : Ledger} (timer : SessionTimer) :
      Act l ((l.renumber (.timer timer) (l.errand (.timer timer)).cancel).ask
        (Session.revocation timer (l.errand (.timer timer))))
  | start {l : Ledger} (timer : SessionTimer) (delay : Nat) :
      Act l ((l.renumber (.timer timer) (l.errand (.timer timer)).schedule).ask
        (Session.revocation timer (l.errand (.timer timer)) ++
          [.start timer (l.errand (.timer timer)).schedule.ticket delay]))
  | abandon {l : Ledger} (pending : (l.errand .request).pending = true) :
      Act l ((l.renumber .request { l.errand .request with pending := false }).ask
        [.abandon (l.errand .request).generation])
  | request {l : Ledger} (manual : Bool) (instanceId : InstanceId)
      (free : (l.errand .request).pending = false) :
      Act l ((l.renumber .request (l.errand .request).schedule).ask
        [.request ((l.errand .request).generation + 1) manual instanceId])
  | setAside {l : Ledger} {link : Link} (used : l.active = some link) :
      Act l ({ l with active := none, retired := some link }.ask
        (Session.retirement (link :: l.retired.toList)))
  | dropLinks {l : Ledger} :
      Act l ({ l with active := none, retired := none }.ask
        (Session.retirement (l.active.toList ++ l.retired.toList)))
  | openLink {l : Ledger} (kind : TransportKind) :
      Act l ({ l with active := some ⟨l.nextLink, kind⟩, nextLink := l.nextLink + 1 }.ask
        [.open ⟨l.nextLink, kind⟩])
  | stop {l : Ledger} : Act l ({ l with running := false }.ask [])

abbrev Path : Ledger → Ledger → Prop := Relation.ReflTransGen Act

theorem Path.keeps {P : Ledger → Prop} {l m : Ledger} (path : Path l m)
    (act : ∀ l m, Act l m → P l → P m) (held : P l) : P m := by
  induction path with
  | refl => exact held
  | tail _ next ih => exact act _ _ next ih

end Ledger

namespace Session

/-- The ledger of a session that was called on with `past` in the log. -/
def ledger (past : List Entry) (s : Session) : Ledger where
  running := s.running
  errand := s.errand
  active := s.active
  retired := s.retired
  nextLink := s.nextLink
  log := past ++ s.outbox.map .asked

def Leads (past : List Entry) (s t : Session) : Prop := Ledger.Path (s.ledger past) (t.ledger past)

/-! ## Single acts -/

section Single

variable {past : List Entry} {s t : Session}

theorem Leads.start (past : List Entry) (s : Session) : s.Leads past s := Relation.ReflTransGen.refl

/-- One act more, if it makes the ledger that of `u`. -/
theorem Leads.act {u : Session} {l : Ledger} {effects : List Effect} (leads : s.Leads past t)
    (act : (t.ledger past).Act (l.ask effects)) (log : l.log = (t.ledger past).log)
    (outbox : u.outbox = t.outbox ++ effects)
    (errands : ∀ errand, l.errand errand = u.errand errand)
    (active : l.active = u.active) (retired : l.retired = u.retired)
    (nextLink : l.nextLink = u.nextLink) (running : l.running = u.running) : s.Leads past u := by
  have same : l.ask effects = u.ledger past := by
    refine Ledger.ext running (funext errands) active retired nextLink ?_
    show l.log ++ effects.map .asked = past ++ u.outbox.map .asked
    rw [log, outbox, List.map_append, ← List.append_assoc]
    rfl
  rw [same] at act
  exact leads.tail act

theorem Leads.perform (leads : s.Leads past t) {effect : Effect} (plain : effect.Plain) :
    s.Leads past (t.perform effect) :=
  leads.act (.say effect plain) rfl rfl (fun _ => rfl) rfl rfl rfl rfl

theorem Leads.report (leads : s.Leads past t) (event : SessionEvent) :
    s.Leads past (t.report event) := leads.perform trivial

theorem Leads.display (leads : s.Leads past t) (feedback : Feedback) :
    s.Leads past (t.display feedback) := leads.perform trivial

theorem Leads.cancelSettle (leads : s.Leads past t) : s.Leads past t.cancelSettle := by
  rw [cancelSettle_eq]
  exact leads.act (.cancel .settle) rfl rfl (Errand.forall.2 ⟨rfl, rfl, rfl, rfl⟩) rfl
    rfl rfl rfl

theorem Leads.cancelRetry (leads : s.Leads past t) : s.Leads past t.cancelRetry := by
  rw [cancelRetry_eq]
  exact leads.act (.cancel .retry) rfl rfl (Errand.forall.2 ⟨rfl, rfl, rfl, rfl⟩) rfl
    rfl rfl rfl

theorem Leads.disarm (leads : s.Leads past t) : s.Leads past t.disarm := by
  rw [disarm_eq]
  exact leads.act (.cancel .silence) rfl rfl (Errand.forall.2 ⟨rfl, rfl, rfl, rfl⟩) rfl
    rfl rfl rfl

theorem Leads.startSettle (leads : s.Leads past t) (setup : Setup) :
    s.Leads past (t.startSettle setup) := by
  rw [startSettle_eq, List.append_assoc]
  exact leads.act (.start .settle setup.config.settleDelay.toNat) rfl rfl (Errand.forall.2
    ⟨rfl, rfl, rfl, rfl⟩) rfl rfl rfl rfl

theorem Leads.startRetry (leads : s.Leads past t) (setup : Setup) :
    s.Leads past (t.startRetry setup) := by
  rw [startRetry_eq, List.append_assoc]
  exact leads.act (.start .retry setup.config.retryDelay.toNat) rfl rfl (Errand.forall.2
    ⟨rfl, rfl, rfl, rfl⟩) rfl rfl rfl rfl

theorem Leads.watch (leads : s.Leads past t) (setup : Setup) : s.Leads past (t.watch setup) := by
  rw [watch_eq]
  exact leads.act (.start .silence setup.config.silenceTimeout.toNat) rfl rfl (Errand.forall.2
    ⟨rfl, rfl, rfl, rfl⟩) rfl rfl rfl rfl

theorem Leads.setAside (leads : s.Leads past t) : s.Leads past t.setAside := by
  rw [setAside_eq]
  cases used : t.active with
  | none =>
      unfold Leads ledger
      simp only [ousted, used, retirement, List.map_nil, List.append_nil, Option.none_or]
      rw [← used]
      exact leads
  | some link =>
      refine leads.act (.setAside used) rfl ?_ (fun _ => rfl) rfl rfl rfl rfl
      rw [ousted, used]
      rfl

theorem Leads.dropLinks (leads : s.Leads past t) : s.Leads past t.dropLinks :=
  leads.act .dropLinks rfl rfl (fun _ => rfl) rfl rfl rfl rfl

theorem Leads.openLink (leads : s.Leads past t) (kind : TransportKind) :
    s.Leads past (t.openLink kind) :=
  leads.act (.openLink kind) rfl rfl (fun _ => rfl) rfl rfl rfl rfl

theorem Leads.abandonRequest (leads : s.Leads past t) : s.Leads past t.abandonRequest := by
  cases asked : t.requesting with
  | false =>
      unfold Session.abandonRequest
      rw [asked]
      exact leads
  | true =>
      unfold Session.abandonRequest
      rw [asked]
      exact leads.act (.abandon asked) rfl rfl
        (fun errand => by cases errand <;> rfl) rfl rfl rfl rfl

theorem Leads.request (leads : s.Leads past t) (instanceId : InstanceId) (manual : Bool) :
    s.Leads past (t.request instanceId manual) := by
  have free : t.abandonRequest.requesting = false := by rw [abandonRequest_eq]
  have counted : t.abandonRequest.attempt = t.attempt := by rw [abandonRequest_eq]
  refine leads.abandonRequest.act (.request manual instanceId free) rfl ?_
    (Errand.forall.2 ⟨rfl, rfl, rfl, ?_⟩) rfl rfl rfl rfl
  · show t.abandonRequest.outbox ++ [.request (t.attempt + 1) manual instanceId] =
      t.abandonRequest.outbox ++ [.request (t.abandonRequest.attempt + 1) manual instanceId]
    rw [counted]
  · show TimerSlot.mk (t.abandonRequest.attempt + 1) true = TimerSlot.mk (t.attempt + 1) true
    rw [counted]

end Single

/-! ## Acts made of others -/

section Composite

variable {past : List Entry} {s t : Session}

theorem Leads.touch (leads : s.Leads past t) (setup : Setup) : s.Leads past (t.touch setup) := by
  unfold Session.touch
  split
  · exact (leads.watch setup).display _
  · exact leads.watch setup

theorem Leads.settleManual (leads : s.Leads past t) (feedback : Feedback) :
    s.Leads past (t.settleManual feedback) := by
  unfold Session.settleManual
  split
  · have settled : s.Leads past { t with manualPending := false } := leads
    exact settled.display feedback
  · exact leads

theorem Leads.transmit (leads : s.Leads past t) (accepting : Bool) (frame : String) :
    s.Leads past (t.transmit accepting frame).2 := by
  unfold Session.transmit
  split
  · exact leads
  · split
    · exact leads.perform trivial
    · exact leads.perform trivial

theorem Leads.teardown (leads : s.Leads past t) : s.Leads past t.teardown := by
  have cleared : s.Leads past { t.dropLinks with pendingKind := none } := leads.dropLinks
  exact cleared.cancelSettle.cancelRetry.abandonRequest.disarm

theorem Leads.giveUp (leads : s.Leads past t) : s.Leads past t.giveUp := by
  have failed : s.Leads past { t.teardown with phase := .failed } := leads.teardown
  exact (failed.display _).report _

theorem Leads.countFailure (leads : s.Leads past t) (setup : Setup) :
    s.Leads past (t.countFailure setup) := by
  have counted : s.Leads past (t.counted setup) := leads
  rw [countFailure_eq]
  split
  · exact counted.giveUp
  · exact counted.startRetry setup

theorem Leads.fail (leads : s.Leads past t) (setup : Setup) : s.Leads past (t.fail setup) := by
  unfold Session.fail
  split
  · exact leads
  · exact leads
  · have aside : s.Leads past { t.setAside.cancelSettle with pendingKind := none } :=
      leads.setAside.cancelSettle
    exact ((aside.disarm.settleManual _).display _).countFailure setup

theorem Leads.renewed (leads : s.Leads past t) (session : SessionId) (token : AccessToken) :
    s.Leads past (t.renewed session token) := by
  have cleared := leads.cancelRetry.abandonRequest.disarm
  rw [disarm_eq, abandonRequest_eq, cancelRetry_eq] at cleared
  exact cleared

theorem Leads.init (leads : s.Leads past t) (setup : Setup) (session : SessionId)
    (token : AccessToken) (forceFallback : Bool) :
    s.Leads past (t.init setup session token forceFallback) := by
  cases given : session.isEmpty || token.isEmpty with
  | true =>
      rw [init_empty setup given]
      exact leads
  | false =>
      have renewed := leads.renewed session token
      rw [init_eq setup given]
      split
      · have dropped : s.Leads past
            { (t.renewed session token).dropLinks with
              pendingKind := some (t.chooseKind setup forceFallback) } := renewed.dropLinks
        exact dropped.startSettle setup
      · have free : s.Leads past
            { (t.renewed session token).cancelSettle with pendingKind := none } :=
          renewed.cancelSettle
        exact free.openLink _

theorem Leads.openPending (leads : s.Leads past t) : s.Leads past t.openPending := by
  unfold Session.openPending
  split
  · exact leads
  · dsimp only
    split
    · have taken : s.Leads past { t with pendingKind := none } := leads
      exact taken.openLink _
    · exact leads

theorem Leads.onRetry (leads : s.Leads past t) (setup : Setup) :
    s.Leads past (t.onRetry setup) := by
  unfold Session.onRetry
  split
  · split
    · exact leads.request _ false
    · split
      · exact leads.init setup _ _ false
      · exact leads.giveUp
  · exact leads

theorem Leads.onReply (leads : s.Leads past t) (setup : Setup) (manual : Bool)
    (reply : Option ReconnectReply) : s.Leads past (t.onReply setup manual reply) := by
  match reply with
  | some (.credentials session token) =>
      have told : s.Leads past { t with manualPending := manual } := leads
      exact told.init setup session token false
  | some .refresh =>
      have idle : s.Leads past { t.teardown with phase := .idle } := leads.teardown
      exact idle.report _
  | none =>
      have told : s.Leads past { t with manualPending := manual } := leads
      exact told.fail setup

end Composite

/-! ## Handlers -/

section Handlers

variable (past : List Entry) (s : Session) (setup : Setup) (accepting : Bool)

theorem onOpened_leads : s.Leads past (s.onOpened setup accepting) := by
  unfold onOpened
  split
  · have handed := Leads.transmit (t := { s with spent := true, phase := .handshaking })
      (.start past s) accepting
    dsimp only
    split
    · exact handed _
    · exact (handed _).fail setup
  · exact .start past s

theorem onHandshakeReply_leads (data : String) :
    s.Leads past (s.onHandshakeReply setup data) := by
  unfold onHandshakeReply
  split
  · rename_i instance_ token _
    have ready : s.Leads past
        { s with instanceId := some instance_, continuation := some token, failures := 0,
                 phase := .ready } := .start past s
    have shown := ((ready.watch setup).display .connectionRestored).settleManual
      .reconnectSucceeded
    dsimp only
    split
    · exact shown.report _
    · exact Leads.report shown _
  · exact ((Leads.start past s).report _).fail setup

theorem onFrame_leads (data : String) : s.Leads past (s.onFrame setup accepting data) := by
  unfold onFrame
  split
  · exact .start past s
  · have failed : s.Leads past { s.teardown with phase := .failed } := (Leads.start past s).teardown
    exact (failed.display _).report _
  · exact .start past s
  · rename_i token remainder _
    have rotated : s.Leads past { s with continuation := some token } := .start past s
    dsimp only
    split
    · split
      · exact rotated
      · have handed := rotated.transmit accepting
        split
        · exact (handed _).touch setup
        · exact (handed _).fail setup
    · split
      · exact rotated.touch setup
      · exact (rotated.touch setup).report _

theorem onTransport_leads (number : Nat) (event : TransportEvent) :
    s.Leads past (s.onTransport setup accepting number event) := by
  unfold onTransport
  split
  · split
    · exact onOpened_leads past s setup accepting
    · split
      · exact onHandshakeReply_leads past s setup _
      · exact onFrame_leads past s setup accepting _
      · exact .start past s
    · exact (Leads.start past s).fail setup
    · exact (Leads.start past s).fail setup
  · exact .start past s

theorem send_leads (task : String) (fields : List (String × String)) :
    s.Leads past (s.send setup accepting task fields).2 := by
  unfold send
  split
  · split
    · exact (Leads.start past s).fail setup
    · split
      · have handed := (Leads.start past s).transmit accepting
        dsimp only
        split
        · exact handed _
        · exact (handed _).fail setup
      · exact .start past s
  · exact .start past s

theorem reconnect_leads : s.Leads past s.reconnect := by
  unfold reconnect
  split
  · split
    · exact (Leads.start past s).display _
    · have counted : s.Leads past (if s.phase = .failed then { s with failures := 0 } else s) := by
        split
        · exact Leads.start past s
        · exact .start past s
      have free : s.Leads past
          { (if s.phase = .failed then { s with failures := 0 }
              else s).cancelRetry.setAside.disarm with
            phase := .reconnecting } := counted.cancelRetry.setAside.disarm
      exact free.request _ true
  · exact .start past s

end Handlers

/-! ## Inputs -/

/-- The session that has looked whether an answer counts. -/
def received (s : Session) : Input → Session
  | .expired timer ticket =>
      if ticket = (s.slot timer).ticket ∧ (s.slot timer).pending = true then s.claimed timer else s
  | .resolved attempt _ _ =>
      if attempt = s.attempt ∧ s.requesting = true then s.answered else s
  | _ => s

theorem received_cases (s : Session) (input : Input) :
    s.received input = s ∨ s.received input = s.answered ∨
      ∃ timer, s.received input = s.claimed timer := by
  cases input with
  | expired timer ticket =>
      by_cases current : ticket = (s.slot timer).ticket ∧ (s.slot timer).pending = true
      · exact .inr (.inr ⟨timer, if_pos current⟩)
      · exact .inl (if_neg current)
  | resolved attempt manual reply =>
      by_cases current : attempt = s.attempt ∧ s.requesting = true
      · exact .inr (.inl (if_pos current))
      · exact .inl (if_neg current)
  | _ => exact .inl rfl

theorem claimed_errand (s : Session) (timer : SessionTimer) (errand : Errand) :
    (s.claimed timer).errand errand =
      if errand = .timer timer then { s.errand errand with pending := false }
      else s.errand errand := by
  revert errand
  rw [Errand.forall]
  cases timer <;> exact ⟨rfl, rfl, rfl, rfl⟩

theorem answered_errand (s : Session) (errand : Errand) :
    s.answered.errand errand =
      if errand = .request then { s.errand errand with pending := false }
      else s.errand errand := by
  revert errand
  rw [Errand.forall]
  exact ⟨rfl, rfl, rfl, rfl⟩

/-- An answer that is not awaited leaves its errand alone. -/
theorem unawaited {slot : TimerSlot} (idle : slot.pending = false) :
    slot = { slot with pending := false } := by
  rw [← idle]

theorem received_errand (s : Session) (input : Input) (errand : Errand) :
    (s.received input).errand errand =
      if input.answers = some (errand, (s.errand errand).generation) then
        { s.errand errand with pending := false }
      else s.errand errand := by
  cases input with
  | expired timer ticket =>
      by_cases current : ticket = (s.slot timer).ticket ∧ (s.slot timer).pending = true
      · have claimed : s.received (.expired timer ticket) = s.claimed timer := if_pos current
        rw [claimed, claimed_errand]
        refine ite_congr (propext ⟨?_, ?_⟩) (fun _ => rfl) fun _ => rfl
        · rintro rfl
          rw [current.1]
          rfl
        · intro answered
          exact (Prod.mk.inj (Option.some.inj answered)).1.symm
      · have ignored : s.received (.expired timer ticket) = s := if_neg current
        rw [ignored]
        split
        · rename_i answered
          obtain ⟨rfl, number⟩ := Prod.mk.inj (Option.some.inj answered)
          have latest : ticket = (s.slot timer).ticket := congrArg Ticket.mk number
          exact unawaited (Bool.eq_false_iff.2 fun pending => current ⟨latest, pending⟩)
        · rfl
  | resolved attempt manual reply =>
      by_cases current : attempt = s.attempt ∧ s.requesting = true
      · have answered : s.received (.resolved attempt manual reply) = s.answered := if_pos current
        rw [answered, answered_errand]
        refine ite_congr (propext ⟨?_, ?_⟩) (fun _ => rfl) fun _ => rfl
        · rintro rfl
          rw [current.1]
          rfl
        · intro answered
          exact (Prod.mk.inj (Option.some.inj answered)).1.symm
      · have ignored : s.received (.resolved attempt manual reply) = s := if_neg current
        rw [ignored]
        split
        · rename_i answered
          obtain ⟨rfl, number⟩ := Prod.mk.inj (Option.some.inj answered)
          exact unawaited (Bool.eq_false_iff.2 fun pending => current ⟨number, pending⟩)
        · rfl
  | _ => exact (if_neg nofun).symm

/-- Looking whether an answer counts touches no transport, and asks for nothing. -/
theorem received_links (s : Session) (input : Input) :
    (s.received input).running = s.running ∧ (s.received input).active = s.active ∧
      (s.received input).retired = s.retired ∧ (s.received input).nextLink = s.nextLink ∧
      (s.received input).outbox = s.outbox := by
  rcases s.received_cases input with same | same | ⟨timer, same⟩
  · rw [same]
    exact ⟨rfl, rfl, rfl, rfl, rfl⟩
  · rw [same]
    exact ⟨rfl, rfl, rfl, rfl, rfl⟩
  · rw [same]
    cases timer <;> exact ⟨rfl, rfl, rfl, rfl, rfl⟩

theorem received_ledger {s : Session} (up : s.running = true) (empty : s.outbox = [])
    (past : List Entry) (input : Input) :
    (s.received input).ledger (past ++ [.taken input]) = (s.ledger past).hear input := by
  obtain ⟨running, active, retired, nextLink, outbox⟩ := s.received_links input
  refine Ledger.ext running (funext fun errand => ?_) active retired nextLink ?_
  · show (s.received input).errand errand = if s.running = true ∧ _ then _ else _
    rw [received_errand]
    exact ite_congr (propext ⟨fun answered => ⟨up, answered⟩, And.right⟩) (fun _ => rfl)
      fun _ => rfl
  · show past ++ [.taken input] ++ (s.received input).outbox.map .asked =
      past ++ s.outbox.map .asked ++ [.taken input]
    rw [outbox, empty, List.map_nil, List.append_nil, List.append_nil]

theorem stopped_ledger {s : Session} (down : s.running = false) (empty : s.outbox = [])
    (past : List Entry) (input : Input) :
    s.ledger (past ++ [.taken input]) = (s.ledger past).hear input := by
  refine Ledger.ext rfl (funext fun errand => ?_) rfl rfl rfl ?_
  · refine (if_neg fun up => ?_).symm
    cases down.symm.trans up.1
  · show past ++ [.taken input] ++ s.outbox.map .asked =
      past ++ s.outbox.map .asked ++ [.taken input]
    rw [empty, List.map_nil, List.append_nil, List.append_nil]

/-- **An input is noted, and then the ledger moves by acts alone.** -/
theorem handle_leads (past : List Entry) (s : Session) (setup : Setup) (accepting : Bool)
    (input : Input) : (s.received input).Leads past (s.handle setup accepting input) := by
  cases input with
  | init session token forceFallback => exact (Leads.start past s).init setup _ _ _
  | send call task fields =>
      exact Leads.perform (send_leads past s setup accepting task fields) trivial
  | reconnect => exact reconnect_leads past s
  | close =>
      exact (Leads.start past s).teardown.act .stop rfl (List.append_nil _).symm (fun _ => rfl)
        rfl rfl rfl rfl
  | expired timer ticket =>
      rw [handle_expired, received]
      split
      · have claimed := Leads.start past (s.claimed timer)
        cases timer with
        | settle => exact claimed.openPending
        | retry => exact claimed.onRetry setup
        | silence => exact claimed.display _
      · exact .start past s
  | resolved attempt manual reply =>
      rw [handle_resolved, received]
      split
      · exact (Leads.start past s.answered).onReply setup manual reply
      · exact .start past s
  | transport number event => exact onTransport_leads past s setup accepting number event

/-! ## Lives -/

/-- What was asked for in a beat joins the log. -/
theorem withOutbox_ledger (past : List Entry) (s : Session) :
    (s.withOutbox []).ledger (past ++ s.outbox.map .asked) = s.ledger past := by
  refine Ledger.ext rfl rfl rfl rfl rfl ?_
  exact List.append_nil _

/-- **What every act and every noted input keeps holds of the ledger of every life.** -/
theorem Life.keeps {config : SessionConfig} {past : List Beat} {s : Session}
    (life : Life config past s) {P : Ledger → Prop} (fresh : P (({} : Session).ledger []))
    (hear : ∀ l input, P l → P (l.hear input))
    (act : ∀ l m, Ledger.Act l m → P l → P m) : P (s.ledger (log past)) := by
  induction life with
  | fresh => exact fresh
  | @beat past s life turn ih =>
      rw [log_concat]
      have noted := hear _ turn.input ih
      cases up : s.running with
      | false =>
          obtain ⟨after, effects⟩ := beat_stopped up turn
          rw [after, effects, List.map_nil, List.append_nil]
          rw [← stopped_ledger up life.outbox] at noted
          exact noted
      | true =>
          obtain ⟨after, effects⟩ := beat_running up life.outbox turn
          rw [after, effects, withOutbox_ledger]
          rw [← received_ledger up life.outbox] at noted
          have path := handle_leads (log past ++ [.taken turn.input]) s (turn.setup config)
            turn.accepting turn.input
          exact Ledger.Path.keeps path act noted

end Session

end Tether
