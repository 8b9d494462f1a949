/-
# Tether.Proofs.Session.Quiescence -- a session that has come to rest

A session comes to rest when it gives up, when the server asks for a reload, and when it is
closed.  It then has no transport, awaits no timer, and has no request under way; so
whatever still arrives from outside, be it the expiry of a timer, the end of a request or
an event of a transport, finds nothing to answer to.  Only a call of the application can
wake it.

    failed    the budget is exhausted, a frame broke the protocol, no credentials are left
    idle      the server asked for a reload, or the session was closed

Giving up is reported once: on the way into `failed`, and at no other time, there is one
notice and one fault (`Farewell`).

* `Inert.beat` -- what arrives from outside leaves a session that awaits nothing as it is.
* `Upshot.farewell` -- what is said on the way into `failed`.
* `rests_for_good` -- all of this, of every run that comes to rest.
* `rehearsal_rests` -- the same among hand-driven transports, on a clock.
-/
import Tether.Proofs.Session.Rehearsed
import Tether.Proofs.Session.Retries
import Tether.Proofs.Session.Tenure

set_option autoImplicit false

namespace Tether

/-- The input comes from outside: it is no call of the application. -/
def Input.Outside : Input → Prop
  | .expired .. | .resolved .. | .transport .. => True
  | _ => False

namespace Session

/-- The session has given up, or has no session to keep alive. -/
def Resting (s : Session) : Prop := s.phase = .failed ∨ s.phase = .idle ∨ s.running = false

/-! ## Nothing wakes it -/

section Resting

variable {config : SessionConfig} {past : List Beat} {s : Session}

/-- A session at rest has nothing under way. -/
theorem Resting.bare (resting : s.Resting) (life : Life config past s) : s.Bare := by
  have coherent := life.coherent
  rcases resting with failed | idle | stopped
  · exact (arranged_failed failed).1 coherent.arranged
  · exact (arranged_idle idle).1 coherent.arranged
  · exact (arranged_idle (life_stopped life stopped)).1 coherent.arranged

/-- Nothing that can arrive from outside is awaited. -/
structure Inert (s : Session) : Prop where
  active : s.active = none
  settle : s.settle.pending = false
  retry : s.retry.pending = false
  silence : s.health.timer.pending = false
  requesting : s.requesting = false

theorem Bare.inert (bare : s.Bare) : s.Inert := { bare with }

/-- What arrives from outside finds nothing to answer to. -/
theorem Inert.handle (inert : s.Inert) (setup : Setup) (accepting : Bool) {input : Input}
    (outside : input.Outside) : s.handle setup accepting input = s := by
  cases input with
  | expired timer ticket =>
      rw [handle_expired, if_neg]
      rintro ⟨-, pending⟩
      cases timer with
      | settle => cases inert.settle.symm.trans pending
      | retry => cases inert.retry.symm.trans pending
      | silence => cases inert.silence.symm.trans pending
  | resolved attempt manual reply =>
      rw [handle_resolved, if_neg]
      rintro ⟨-, requesting⟩
      cases inert.requesting.symm.trans requesting
  | transport number event =>
      refine onTransport_stale setup accepting ?_ event
      rw [inert.active]
      exact nofun
  | _ => exact outside.elim

/-- What arrives from outside leaves such a session as it is, and makes it ask for nothing. -/
theorem Inert.beat (inert : s.Inert) (life : Life config past s) {turn : Turn}
    (outside : turn.input.Outside) :
    (s.beat config turn).after = s ∧ (s.beat config turn).effects = [] := by
  cases running : s.running with
  | false => exact beat_stopped running turn
  | true =>
      obtain ⟨after, effects⟩ := beat_running running life.outbox turn
      have same := inert.handle (turn.setup config) turn.accepting outside
      rw [same] at after effects
      rw [after, effects, withOutbox, ← life.outbox]
      exact ⟨rfl, rfl⟩

theorem Inert.run (inert : s.Inert) (life : Life config past s) {more : List Turn}
    (outside : ∀ turn ∈ more, turn.input.Outside) :
    reachedFrom config s more = s ∧
      ∀ beat ∈ historyFrom config s more, beat.effects = [] ∧ beat.after = s :=
  run_unmoved fun turn member => inert.beat life (outside turn member)

/-- A session at rest is such a session. -/
theorem Resting.beat (resting : s.Resting) (life : Life config past s) {turn : Turn}
    (outside : turn.input.Outside) :
    (s.beat config turn).after = s ∧ (s.beat config turn).effects = [] :=
  (resting.bare life).inert.beat life outside

theorem Resting.run (resting : s.Resting) (life : Life config past s) {more : List Turn}
    (outside : ∀ turn ∈ more, turn.input.Outside) :
    reachedFrom config s more = s ∧
      ∀ beat ∈ historyFrom config s more, beat.effects = [] ∧ beat.after = s :=
  (resting.bare life).inert.run life outside

/-- A session at rest has given up every transport, after it was opened. -/
theorem Resting.retired (resting : s.Resting) (life : Life config past s)
    {first rest : List Effect} {link : Link} (split : asked past = first ++ .open link :: rest) :
    .retire link.number ∈ rest := by
  have tenures := life_tenures life
  have opened : .open link ∈ asked past := by
    rw [split]
    exact List.mem_append_right _ (List.mem_cons_self ..)
  have retired : .retire link.number ∈ asked past := by
    refine (tenures.ended link opened).resolve_left fun used => ?_
    cases (resting.bare life).active.symm.trans used
  rw [split] at retired
  rcases List.mem_append.1 retired with early | late
  · exact absurd early (tenures.orderly first link rest split).fresh
  · exact (List.mem_cons.1 late).resolve_left nofun

end Resting

/-! ## What is said on the way -/

/-- What is said when a session gives up: a notice, and the fault. -/
inductive Farewell : List Effect → Prop
  | broken (data : String) :
      Farewell [.show (.fatal (.invalidData data)), .event (.fault (.framing data))]
  | exhausted (failures : UInt32) :
      Farewell [.show (.fatal .cannotConnect), .event (.fault (.budgetExhausted failures))]

/-- The effect is a fatal notice, or a fault that ends the session. -/
def grave : Effect → Bool
  | .show (.fatal _) => true
  | .event (.fault (.framing _)) | .event (.fault (.budgetExhausted _)) => true
  | _ => false

theorem filter_grave (effects : List Effect) :
    effects.filter grave = (marks effects).filter grave := by
  refine (filter_marks ?_ effects).symm
  intro effect picked
  unfold grave at picked
  split at picked
  · rfl
  · rfl
  · rfl
  · cases picked

theorem Anew.undecided {setup : Setup} {forced : Bool} {v w : Footing} {given : List Effect}
    (anew : Anew setup forced v w given) : w.phase ≠ .failed ∧ given.filter grave = [] := by
  cases anew with
  | now => exact ⟨nofun, rfl⟩
  | later => exact ⟨nofun, filter_retirement (fun _ => rfl) v.links _⟩

/-- There is a farewell on the way into `failed`, and at no other time. -/
theorem Upshot.farewell {setup : Setup} {v w : Footing} {incident : Option Incident}
    {given : List Effect} (upshot : Upshot setup v incident w given) :
    (v.phase ≠ .failed ∧ w.phase = .failed ∧ Farewell (given.filter grave)) ∨
      (w.phase = .failed → v.phase = .failed) ∧ given.filter grave = [] := by
  have spares : ∀ number, grave (.retire number) = false := fun _ => rfl
  have other : ∀ {phase : Phase}, v.phase = phase → phase ≠ .failed → v.phase ≠ .failed := by
    rintro phase rfl other
    exact other
  cases upshot with
  | still => exact .inr ⟨id, rfl⟩
  | idle => exact .inr ⟨id, rfl⟩
  | heard => exact .inr ⟨id, rfl⟩
  | settled => exact .inr ⟨id, rfl⟩
  | request => exact .inr ⟨id, rfl⟩
  | greet | welcome => exact .inr ⟨(fun failed => by cases failed), rfl⟩
  | setBack => exact .inr ⟨(fun failed => by cases failed), filter_retirement spares v.ousted _⟩
  | reconnect => exact .inr ⟨(fun failed => by cases failed), filter_retirement spares v.ousted _⟩
  | refresh | close =>
      refine .inr ⟨(fun failed => by cases failed), ?_⟩
      simp [retirement, List.filter_eq_nil_iff, spares]
  | start anew => exact .inr ⟨fun failed => absurd failed anew.undecided.1, anew.undecided.2⟩
  | credentials _ anew => exact .inr ⟨fun failed => absurd failed anew.undecided.1, anew.undecided.2⟩
  | reuse _ _ _ anew => exact .inr ⟨fun failed => absurd failed anew.undecided.1, anew.undecided.2⟩
  | beaten alive =>
      refine .inl ⟨alive.1, rfl, ?_⟩
      rw [filter_retirement spares, filter_retirement spares]
      exact .exhausted _
  | breach phase data =>
      refine .inl ⟨other phase (by simp), rfl, ?_⟩
      rw [filter_retirement spares]
      exact .broken data
  | giveUp phase =>
      refine .inl ⟨other phase (by simp), rfl, ?_⟩
      rw [filter_retirement spares]
      exact .exhausted _

/-- **At rest for good.**  Once a run has come to rest, every transport was given up after it was
opened; there was one notice and one fault each time the session gave up, and none at other times;
and whatever arrives from outside, however much of it, leaves the session as it is and makes it ask
for nothing. -/
theorem rests_for_good (config : SessionConfig) (turns more : List Turn)
    (resting : (reached config turns).Resting) (outside : ∀ turn ∈ more, turn.input.Outside) :
    (∀ first link rest, asked (history config turns) = first ++ .open link :: rest →
      .retire link.number ∈ rest) ∧
    (∀ beat ∈ history config turns,
      if beat.before.phase ≠ .failed ∧ beat.after.phase = .failed then
        Farewell (beat.effects.filter grave)
      else beat.effects.filter grave = []) ∧
    reachedFrom config (reached config turns) more = reached config turns ∧
    ∀ beat ∈ historyFrom config (reached config turns) more,
      beat.effects = [] ∧ beat.after = reached config turns := by
  have life := life_of config turns
  refine ⟨fun first link rest => resting.retired life, ?_, resting.run life outside⟩
  intro beat member
  obtain ⟨k, here⟩ := List.mem_iff_getElem?.1 member
  rw [filter_grave]
  rcases (life.upshot here).farewell with ⟨before, after, farewell⟩ | ⟨kept, nothing⟩
  · rw [if_pos ⟨before, after⟩]
    exact farewell
  · rw [if_neg fun entered => entered.1 (kept entered.2)]
    exact nothing

def hopeless : List Turn :=
  [{ input := .init ⟨"S"⟩ ⟨"T"⟩ false }, { input := .transport 0 .failed }]

def belated : List Turn :=
  [{ input := .transport 0 .opened }, { input := .transport 0 (.message "I&K") },
    { input := .expired .retry ⟨1⟩ }, { input := .expired .silence ⟨0⟩ },
    { input := .resolved 0 false none }]

theorem hopeless_rests :
    (reached { retryBudget := 0 } hopeless).phase = .failed ∧
      (∀ turn ∈ belated, turn.input.Outside) ∧
        reachedFrom { retryBudget := 0 } (reached { retryBudget := 0 } hopeless) belated =
          reached { retryBudget := 0 } hopeless := by
  have gaveUp : (reached { retryBudget := 0 } hopeless).phase = .failed := by decide
  have outside : ∀ turn ∈ belated, turn.input.Outside := by
    simp [belated, Input.Outside]
  exact ⟨gaveUp, outside, (rests_for_good _ hopeless belated (.inl gaveUp) outside).2.2.1⟩

end Session

/-! ## Among hand-driven transports -/

namespace Rehearsal

open Session

/-- The command is no call of the application: a transport or the reconnect endpoint acts, or time
passes. -/
def Command.Outside : Command → Prop
  | .init .. | .send .. | .reconnect | .close => False
  | _ => True

structure View where
  session : Session
  record : Record
  puppets : List (TransportKind × Nat × Nat)
  answers : List (Nat × Bool)

def view (r : Rehearsal) : View where
  session := r.session
  record := r.record
  puppets := r.puppets.map fun puppet => (puppet.kind, puppet.opens, puppet.resets)
  answers := r.answers

structure Hushed (v : View) (r : Rehearsal) : Prop where
  same : r.view = v
  inputs : ∀ input ∈ r.inbox, input.Outside
  results : ∀ result ∈ r.results, result.Outside

theorem handle_resting {r : Rehearsal} {past : List Beat} (life : Life r.setup.config past r.session)
    (resting : r.session.Resting) {input : Input} (outside : input.Outside) :
    r.handle input = r := by
  have outside : (r.turn input).input.Outside := outside
  obtain ⟨after, effects⟩ := resting.beat life outside
  show (r.session.beat r.setup.config (r.turn input)).effects.foldl absorb
    { r with session := (r.session.beat r.setup.config (r.turn input)).after } = r
  rw [after, effects]
  rfl

section Hushed

variable {setup : Setup} {v : View} {r : Rehearsal}

theorem Hushed.tick (hushed : Hushed v r) (staged : Staged setup r) (resting : v.session.Resting)
    {limit : Nat} {after : Rehearsal} (ticks : r.tick limit = some after) : Hushed v after := by
  have session : r.session = v.session := congrArg View.session hushed.same
  cases ticked_of_tick ticks with
  | @handle input rest first =>
      obtain ⟨rfl, -, past, line⟩ := staged
      have here : input ∈ r.inbox := by
        rw [first]
        exact List.mem_cons_self ..
      have unmoved : Rehearsal.handle { r with inbox := rest } input = { r with inbox := rest } := by
        refine handle_resting (r := { r with inbox := rest }) line.life ?_
          (hushed.inputs input here)
        rw [← session] at resting
        exact resting
      rw [unmoved]
      refine ⟨hushed.same, fun other member => hushed.inputs other ?_, hushed.results⟩
      rw [first]
      exact List.mem_cons_of_mem _ member
  | @answer result rest idle waits =>
      refine ⟨hushed.same, fun other member => ?_, fun other member => hushed.results other ?_⟩
      · obtain rfl := List.mem_singleton.1 member
        refine hushed.results other ?_
        rw [waits]
        exact List.mem_cons_self ..
      · rw [waits]
        exact List.mem_cons_of_mem _ member
  | ring =>
      refine ⟨hushed.same, fun other member => ?_, hushed.results⟩
      obtain rfl := List.mem_singleton.1 member
      trivial

theorem Hushed.runUntil (hushed : Hushed v r) (staged : Staged setup r)
    (resting : v.session.Resting) (limit : Nat) : Hushed v (r.runUntil limit) := by
  have both : Staged setup (r.runUntil limit) ∧ Hushed v (r.runUntil limit) :=
    runFor_keeps (P := fun r => Staged setup r ∧ Hushed v r)
      (fun r after before ticks => ⟨before.1.tick ticks, before.2.tick before.1 resting ticks⟩)
      r.work ⟨staged, hushed⟩
  exact both.2

theorem Hushed.arrive (hushed : Hushed v r) (input : Input) (outside : input.Outside) :
    Hushed v { r with inbox := r.inbox ++ [input] } := by
  refine ⟨hushed.same, fun other member => ?_, hushed.results⟩
  rcases List.mem_append.1 member with old | new
  · exact hushed.inputs other old
  · obtain rfl := List.mem_singleton.1 new
    exact outside

/-- A transport that is changed by hand is neither opened nor reset. -/
theorem faces_modify (puppets : List Puppet) (number : Nat) (change : Puppet → Puppet)
    (spares : ∀ puppet, (change puppet).kind = puppet.kind ∧
      (change puppet).opens = puppet.opens ∧ (change puppet).resets = puppet.resets) :
    (puppets.modify number change).map (fun puppet => (puppet.kind, puppet.opens, puppet.resets)) =
      puppets.map fun puppet => (puppet.kind, puppet.opens, puppet.resets) := by
  induction puppets generalizing number with
  | nil => rw [List.modify_nil]
  | cons puppet puppets ih =>
      cases number with
      | zero =>
          obtain ⟨kind, opens, resets⟩ := spares puppet
          rw [List.modify_zero_cons, List.map_cons, List.map_cons, kind, opens, resets]
      | succ number => rw [List.modify_succ_cons, List.map_cons, List.map_cons, ih]

theorem Hushed.fire (hushed : Hushed v r) (transport : Option Nat) (change : Puppet → Puppet)
    (spares : ∀ puppet, (change puppet).kind = puppet.kind ∧
      (change puppet).opens = puppet.opens ∧ (change puppet).resets = puppet.resets)
    (event : TransportEvent) : Hushed v (r.fire transport change event).1 := by
  unfold Rehearsal.fire
  dsimp only
  split
  · exact hushed
  · rename_i puppet found
    have faces := faces_modify r.puppets (r.target transport)
      (fun p => { change p with sink := (puppet.sink.emit event).2 }) spares
    have moved : Hushed v (r.updatePuppet (r.target transport) fun p =>
        { change p with sink := (puppet.sink.emit event).2 }) := by
      refine ⟨?_, hushed.inputs, hushed.results⟩
      rw [← hushed.same]
      unfold view updatePuppet
      rw [faces]
    dsimp only
    split
    · exact moved.arrive (.transport (r.target transport) event) trivial
    · exact moved

theorem Hushed.act (hushed : Hushed v r) (staged : Staged setup r) (resting : v.session.Resting)
    {command : Command} (outside : command.Outside) : Hushed v (r.act command).1 := by
  have same : ∀ puppet : Puppet, puppet.kind = puppet.kind ∧ puppet.opens = puppet.opens ∧
      puppet.resets = puppet.resets := fun _ => ⟨rfl, rfl, rfl⟩
  cases command with
  | opened transport => exact hushed.fire transport (fun p => { p with opened := true }) same .opened
  | message transport data => exact hushed.fire transport id same (.message data)
  | down transport => exact hushed.fire transport (fun p => { p with closed := true }) same .closed
  | breakDown transport => exact hushed.fire transport (fun p => { p with closed := true }) same .failed
  | force transport event =>
      unfold Rehearsal.act
      dsimp only
      split
      · split
        · exact hushed.arrive (.transport (r.target transport) event) trivial
        · exact hushed
      · exact hushed
  | prepare | dropEvents => exact ⟨hushed.same, hushed.inputs, hushed.results⟩
  | resolve number reply =>
      unfold Rehearsal.act
      dsimp only
      split
      · split
        · split
          · refine ⟨hushed.same, hushed.inputs, fun result member => ?_⟩
            rcases List.mem_append.1 member with old | new
            · exact hushed.results result old
            · rw [List.mem_singleton.1 new]
              trivial
          · exact ⟨hushed.same, hushed.inputs, hushed.results⟩
        · exact hushed
      · exact hushed
  | advance ms =>
      have late := hushed.runUntil staged resting (r.clock.now + ms)
      exact ⟨late.same, late.inputs, late.results⟩
  | init | send | reconnect | close => exact outside.elim

theorem Hushed.actAll (hushed : Hushed v r) (staged : Staged setup r) (resting : v.session.Resting)
    {commands : List Command} (outside : ∀ command ∈ commands, command.Outside) :
    Hushed v (r.actAll commands).1 := by
  induction commands generalizing r with
  | nil => exact hushed
  | cons command commands ih =>
      have first := hushed.act staged resting (outside command (List.mem_cons_self ..))
      exact ih first (staged.act command) fun other member =>
        outside other (List.mem_cons_of_mem _ member)

end Hushed

/-- **Nothing moves any more.**  When a rehearsal has come to rest, however often the transports
report something, past their sinks or not, requests are answered and the clock moves on: the session
stays as it is, nothing is reported, displayed, asked, sent or answered, and no transport is
created, opened or reset. -/
theorem rehearsal_rests (setup : Setup) (batches more : List (List Command))
    (resting : (plays setup batches).session.Resting)
    (outside : ∀ commands ∈ more, ∀ command ∈ commands, command.Outside) :
    (plays setup (batches ++ more)).view = (plays setup batches).view := by
  obtain ⟨staged, calm, idle⟩ := staged_of_plays setup batches
  have hushed : Hushed (plays setup batches).view (plays setup batches) := by
    refine ⟨rfl, fun input member => ?_, fun result member => ?_⟩
    · have empty : (plays setup batches).inbox = [] := calm.1
      rw [empty] at member
      cases member
    · rw [idle] at member
      cases member
  have resting : (plays setup batches).view.session.Resting := resting
  rw [plays, List.foldl_append]
  show (more.foldl _ (plays setup batches)).view = _
  generalize (plays setup batches).view = v at hushed resting ⊢
  generalize plays setup batches = r at staged hushed
  induction more generalizing r with
  | nil => exact hushed.same
  | cons commands more ih =>
      have queued := staged.actAll commands
      have kept := hushed.actAll staged resting (outside commands (List.mem_cons_self ..))
      exact ih (fun others member => outside others (List.mem_cons_of_mem _ member)) _
        (queued.runUntil _) (kept.runUntil queued resting _)

end Rehearsal

end Tether
