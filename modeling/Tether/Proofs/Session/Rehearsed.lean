/-
# Tether.Proofs.Session.Rehearsed -- a rehearsal is a timeline

A rehearsal drives a session step by step: it hands out inputs, lets alarms ring and moves
its clock.  Its steps are those of a timeline, if the clock moves past no alarm.  That is so
because `calm` and `advance` run until nothing more can run: the work they allow for is
enough.

Every input, result and alarm is worth some ticks, an alarm more than its expiry and an input
more than all the alarms it can lead to (`load`, `weight`).  What befalls the session says
which timers it starts, so every tick takes more off the total (`potential`) than it puts
back.

* `ticked_of_tick` -- what a tick can do.
* `tick_lt` -- every tick lowers the potential.
* `runUntil_tick` -- no tick is left at the end of a run.
* `timeline_of_plays` -- every rehearsal is a timeline, and at its end all is calm.
-/
import Mathlib.Algebra.GroupWithZero.Nat
import Mathlib.Algebra.Order.BigOperators.Group.List
import Mathlib.Algebra.Order.Group.Nat
import Tether.Proofs.Alarms
import Tether.Proofs.Session.Incidents
import Tether.Proofs.Session.Timeline
import Tether.Session.Rehearsal

set_option autoImplicit false

namespace Tether

namespace Rehearsal

open Session

/-! ## Steps of a rehearsal -/

inductive Ticked (limit : Nat) (r : Rehearsal) : Rehearsal → Prop
  | handle {input : Input} {rest : List Input} (first : r.inbox = input :: rest) :
      Ticked limit r ({ r with inbox := rest }.handle input)
  | answer {result : Input} {rest : List Input} (idle : r.inbox = [])
      (waits : r.results = result :: rest) :
      Ticked limit r { r with results := rest, inbox := [result] }
  | ring {due : Nat} {timer : SessionTimer} {ticket : Ticket}
      {first rest : List (Nat × SessionTimer × Ticket)} (idle : r.inbox = [])
      (split : r.clock.alarms = first ++ (due, timer, ticket) :: rest) (reached : due ≤ limit)
      (least : ∀ alarm ∈ r.clock.alarms, due ≤ alarm.1) :
      Ticked limit r
        { r with
          clock := { now := max r.clock.now due, alarms := first ++ rest }
          inbox := [.expired timer ticket] }

theorem ticked_of_tick {r after : Rehearsal} {limit : Nat} (ticks : r.tick limit = some after) :
    Ticked limit r after := by
  unfold Rehearsal.tick at ticks
  split at ticks
  · rename_i input rest first
    cases ticks
    exact .handle first
  · rename_i idle
    split at ticks
    · rename_i result rest waits
      cases ticks
      exact .answer idle waits
    · split at ticks
      · rename_i timer ticket clock fires
        cases ticks
        unfold Clock.next? at fires
        split at fires
        · cases fires
        · rename_i due tag others found
          cases fires
          obtain ⟨reached, least, first, rest, split, rfl⟩ := Clock.soonest_some found
          exact .ring idle split reached least
      · cases ticks

/-- When no tick is left, nothing waits and nothing is due. -/
theorem idle_of_tick {r : Rehearsal} {limit : Nat} (none : r.tick limit = none) :
    r.inbox = [] ∧ ∀ alarm ∈ r.clock.alarms, limit < alarm.1 := by
  unfold Rehearsal.tick at none
  split at none
  · cases none
  · rename_i idle
    refine ⟨idle, ?_⟩
    split at none
    · cases none
    · split at none
      · cases none
      · rename_i still
        unfold Clock.next? at still
        split at still
        · rename_i found
          exact Clock.soonest_none found
        · cases still

theorem results_of_tick {r : Rehearsal} {limit : Nat} (none : r.tick limit = none) :
    r.results = [] := by
  unfold Rehearsal.tick at none
  split at none
  · cases none
  · split at none
    · cases none
    · assumption

/-! ## They are steps of a timeline -/

/-- What of a rehearsal a timeline knows. -/
def scene (r : Rehearsal) : Scene where
  session := r.session
  clock := r.clock
  inbox := r.inbox

theorem absorb_scene (r : Rehearsal) (effect : Effect) :
    (r.absorb effect).scene = { r.scene with clock := obey r.clock effect } ∧
      (r.absorb effect).setup = r.setup := by
  cases effect with
  | request attempt manual instanceId =>
      unfold absorb
      dsimp only
      split <;> exact ⟨rfl, rfl⟩
  | event event =>
      unfold absorb
      dsimp only
      split <;> exact ⟨rfl, rfl⟩
  | _ => exact ⟨rfl, rfl⟩

theorem foldl_absorb_scene (r : Rehearsal) (effects : List Effect) :
    (effects.foldl absorb r).scene = { r.scene with clock := effects.foldl obey r.clock } ∧
      (effects.foldl absorb r).setup = r.setup := by
  induction effects generalizing r with
  | nil => exact ⟨rfl, rfl⟩
  | cons effect effects ih =>
      obtain ⟨scene, setup⟩ := r.absorb_scene effect
      have clock : (r.absorb effect).clock = obey r.clock effect := congrArg Scene.clock scene
      obtain ⟨later, same⟩ := ih (r.absorb effect)
      rw [List.foldl_cons, later, scene, clock]
      exact ⟨rfl, same.trans setup⟩

/-- The results that wait are ends of requests. -/
def Answers (r : Rehearsal) : Prop :=
  ∀ result ∈ r.results, ∀ timer ticket, result ≠ .expired timer ticket

theorem Answers.absorb {r : Rehearsal} (answers : r.Answers) (effect : Effect) :
    (r.absorb effect).Answers := by
  cases effect with
  | request attempt manual instanceId =>
      unfold Rehearsal.absorb
      dsimp only
      split
      · intro result member
        rcases List.mem_append.1 member with old | new
        · exact answers result old
        · rw [List.mem_singleton.1 new]
          exact nofun
      · exact answers
  | event event =>
      unfold Rehearsal.absorb
      dsimp only
      split <;> exact answers
  | _ => exact answers

theorem Answers.foldl {r : Rehearsal} (answers : r.Answers) (effects : List Effect) :
    (effects.foldl Rehearsal.absorb r).Answers := by
  induction effects generalizing r with
  | nil => exact answers
  | cons effect effects ih => exact ih (answers.absorb effect)

def turn (r : Rehearsal) (input : Input) : Turn where
  input := input
  accepting := r.accepting
  persistent := r.setup.persistent

theorem handle_scene (r : Rehearsal) (input : Input) :
    (r.handle input).scene =
        { session := (r.session.beat r.setup.config (r.turn input)).after
          clock := (r.session.beat r.setup.config (r.turn input)).effects.foldl obey r.clock
          inbox := r.inbox } ∧
      (r.handle input).setup = r.setup ∧ (r.Answers → (r.handle input).Answers) := by
  obtain ⟨scene, setup⟩ := foldl_absorb_scene
    { r with session := (r.session.beat r.setup.config (r.turn input)).after }
    (r.session.beat r.setup.config (r.turn input)).effects
  refine ⟨scene, setup, fun answers => ?_⟩
  have before : Answers
      { r with session := (r.session.beat r.setup.config (r.turn input)).after } := answers
  exact before.foldl (r.session.beat r.setup.config (r.turn input)).effects

/-- A timeline leads to where the rehearsal stands. -/
structure Staged (setup : Setup) (r : Rehearsal) : Prop where
  same : r.setup = setup
  answers : r.Answers
  line : ∃ line, Timeline setup.config line r.scene

theorem Staged.arrive {setup : Setup} {r : Rehearsal} (staged : Staged setup r) {input : Input}
    (outside : ∀ timer ticket, input ≠ .expired timer ticket) :
    Staged setup { r with inbox := r.inbox ++ [input] } := by
  obtain ⟨same, answers, past, line⟩ := staged
  exact ⟨same, answers, past, line.arrive input outside⟩

theorem Staged.handle {setup : Setup} {r : Rehearsal} (staged : Staged setup r) {input : Input}
    {rest : List Input} (first : r.inbox = input :: rest) :
    Staged setup ({ r with inbox := rest }.handle input) := by
  obtain ⟨same, answers, past, line⟩ := staged
  subst same
  obtain ⟨scene, setup, kept⟩ := handle_scene { r with inbox := rest } input
  have next := line.handle (Rehearsal.turn { r with inbox := rest } input) first
  refine ⟨setup, kept answers, ?_⟩
  rw [scene]
  exact ⟨_, next⟩

/-- The clock comes to the time of the alarm that is due first, and then it rings. -/
theorem Staged.ring {setup : Setup} {r : Rehearsal} (staged : Staged setup r)
    {due : Nat} {timer : SessionTimer} {ticket : Ticket}
    {first rest : List (Nat × SessionTimer × Ticket)} (idle : r.inbox = [])
    (split : r.clock.alarms = first ++ (due, timer, ticket) :: rest)
    (least : ∀ alarm ∈ r.clock.alarms, due ≤ alarm.1) :
    Staged setup
      { r with
        clock := { now := max r.clock.now due, alarms := first ++ rest }
        inbox := [.expired timer ticket] } := by
  obtain ⟨same, answers, past, line⟩ := staged
  have ahead : ∀ alarm ∈ r.clock.alarms, max r.clock.now due ≤ alarm.1 := by
    intro alarm member
    exact Nat.max_le.2 ⟨line.timely.ahead alarm member, least alarm member⟩
  have waited := line.wait (max r.clock.now due) idle (Nat.le_max_left ..) ahead
  have rung := waited.ring split (Nat.le_max_right ..)
  rw [show r.scene.inbox = [] from idle] at rung
  exact ⟨same, answers, past, rung⟩

/-- A result that waits arrives. -/
theorem Staged.answer {setup : Setup} {r : Rehearsal} (staged : Staged setup r) {result : Input}
    {rest : List Input} (idle : r.inbox = []) (waits : r.results = result :: rest) :
    Staged setup { r with results := rest, inbox := [result] } := by
  have outside := staged.answers result (by rw [waits]; exact List.mem_cons_self ..)
  obtain ⟨same, answers, past, line⟩ := staged
  have arrived := line.arrive result outside
  rw [show r.scene.inbox = [] from idle] at arrived
  refine ⟨same, fun other member => answers other ?_, past, arrived⟩
  rw [waits]
  exact List.mem_cons_of_mem _ member

theorem Staged.tick {setup : Setup} {r after : Rehearsal} (staged : Staged setup r) {limit : Nat}
    (ticks : r.tick limit = some after) : Staged setup after := by
  cases ticked_of_tick ticks with
  | handle first => exact staged.handle first
  | answer idle waits => exact staged.answer idle waits
  | ring idle split _ least => exact staged.ring idle split least

/-! ## Enough work -/

/-- What an alarm is worth: more than its expiry. -/
def weight : SessionTimer → Nat
  | .retry => 4
  | .settle | .silence => 2

/-- What an input is worth: more than the timers that it can start. -/
def load : Input → Nat
  | .expired timer _ => weight timer - 1
  | _ => 5

def cost : Effect → Nat
  | .start timer _ _ => weight timer
  | _ => 0

def allowance : Option Incident → Nat
  | some .failure => 4
  | some (.welcome _) | some .heard | some (.start _) | some .credentials | some .retry => 2
  | _ => 0

def potential (r : Rehearsal) : Nat :=
  (r.inbox.map load).sum + 6 * r.results.length +
    (r.clock.alarms.map fun alarm => weight alarm.2.1).sum + 6 * r.prepared.length

theorem load_pos (input : Input) : 0 < load input := by
  cases input with
  | expired timer ticket => cases timer <;> exact Nat.succ_pos _
  | _ => exact Nat.succ_pos _

theorem load_le (input : Input) : load input ≤ 5 := by
  cases input with
  | expired timer ticket => cases timer <;> simp [load, weight]
  | _ => exact Nat.le_refl _

/-- The work allowed for covers all that waits. -/
theorem potential_le_work (r : Rehearsal) : r.potential ≤ r.work := by
  have inputs : (r.inbox.map load).sum ≤ r.inbox.length * 5 := by
    induction r.inbox with
    | nil => exact Nat.le_refl _
    | cons input rest ih =>
        have first := load_le input
        simp only [List.map_cons, List.sum_cons, List.length_cons]
        omega
  have alarms : (r.clock.alarms.map fun alarm => weight alarm.2.1).sum ≤
      r.clock.alarms.length * 4 := by
    induction r.clock.alarms with
    | nil => exact Nat.le_refl _
    | cons alarm rest ih =>
        have first : weight alarm.2.1 ≤ 4 := by cases alarm.2.1 <;> decide
        simp only [List.map_cons, List.sum_cons, List.length_cons]
        omega
  unfold potential work
  omega

/-! ### What an input can start -/

theorem cost_marks (effects : List Effect) :
    ((marks effects).map cost).sum = (effects.map cost).sum := by
  induction effects with
  | nil => rfl
  | cons effect effects ih =>
      unfold marks at ih ⊢
      rw [List.filter_cons]
      cases bold : marked effect with
      | true => simp [ih]
      | false =>
          have free : cost effect = 0 := by
            cases effect with
            | start => cases bold
            | _ => rfl
          simp [ih, free]

theorem cost_retirement (links : List Link) : ((retirement links).map cost).sum = 0 := by
  induction links with
  | nil => rfl
  | cons link links ih => simpa [retirement, cost] using ih

theorem cost_anew {setup : Setup} {forced : Bool} {v w : Footing} {given : List Effect}
    (anew : Anew setup forced v w given) : (given.map cost).sum ≤ 2 := by
  cases anew with
  | now => exact Nat.zero_le _
  | later =>
      rw [List.map_append, List.sum_append, cost_retirement]
      exact Nat.le_refl _

/-- The timers that an incident starts are worth no more than it is allowed. -/
theorem cost_upshot {setup : Setup} {v w : Footing} {incident : Option Incident}
    {given : List Effect} (upshot : Upshot setup v incident w given) :
    (given.map cost).sum ≤ allowance incident := by
  cases upshot with
  | start anew => exact cost_anew anew
  | credentials _ anew => exact cost_anew anew
  | reuse _ _ _ anew => exact cost_anew anew
  | setBack =>
      rw [List.map_append, List.sum_append, cost_retirement]
      exact Nat.le_refl _
  | beaten | breach | refresh | reconnect | giveUp | close =>
      simp [cost_retirement, cost, surrender]
  | _ => simp [cost, weight, allowance]

/-- An input is worth more than what befalls the session is allowed. -/
theorem allowance_lt (accepting : Bool) (s : Session) (input : Input) :
    allowance (s.befalls accepting input) < load input := by
  cases input with
  | expired timer ticket =>
      unfold befalls
      dsimp only
      split
      · cases timer <;> simp [Incident.ofTimer, allowance, load, weight]
      · exact load_pos _
  | _ =>
      refine Nat.lt_succ_of_le ?_
      unfold allowance
      split <;> simp

/-- A beat starts timers that are worth less than its input. -/
theorem cost_beat {config : SessionConfig} {past : List Beat} {s : Session}
    (life : Life config past s) (turn : Turn) :
    ((s.beat config turn).effects.map cost).sum < load turn.input := by
  have spent := cost_upshot (beat_upshot life turn)
  rw [cost_marks] at spent
  refine Nat.lt_of_le_of_lt spent ?_
  cases running : s.running with
  | false =>
      have spared : (s.beat config turn).befell = none := befell_stopped running
      rw [spared]
      exact load_pos _
  | true =>
      have befell : (s.beat config turn).befell = s.befalls turn.accepting turn.input :=
        befell_running running
      rw [befell]
      exact allowance_lt turn.accepting s turn.input

/-! ### Every tick takes more than it gives -/

theorem potential_absorb (r : Rehearsal) (effect : Effect) :
    (r.absorb effect).potential ≤ r.potential + cost effect := by
  cases effect with
  | start timer ticket delay =>
      unfold absorb potential Clock.set
      dsimp only [cost]
      split
      · simp only [List.map_append, List.sum_append, List.map_singleton, List.sum_singleton]
        omega
      · omega
  | stop timer ticket =>
      have fewer : (((r.clock.alarms.filter fun alarm => !(alarm.2 == (timer, ticket))).map
          fun alarm => weight alarm.2.1)).sum ≤
          (r.clock.alarms.map fun alarm => weight alarm.2.1).sum :=
        (List.filter_sublist.map _).sum_le_sum fun _ _ => Nat.zero_le _
      unfold absorb potential Clock.cancel
      dsimp only [cost]
      omega
  | request attempt manual instanceId =>
      unfold absorb
      dsimp only
      split
      · -- A prepared answer turns into a result, which is worth as much.
        rename_i reply rest waits
        unfold potential
        rw [waits]
        simp only [List.length_append, List.length_cons, List.length_nil]
        omega
      · exact Nat.le_add_right ..
  | event event =>
      unfold absorb
      dsimp only
      split <;> exact Nat.le_refl _
  | _ => exact Nat.le_refl _

theorem potential_foldl (r : Rehearsal) (effects : List Effect) :
    (effects.foldl absorb r).potential ≤ r.potential + (effects.map cost).sum := by
  induction effects generalizing r with
  | nil => exact Nat.le_refl _
  | cons effect effects ih =>
      have first := r.potential_absorb effect
      have others := ih (r.absorb effect)
      rw [List.foldl_cons, List.map_cons, List.sum_cons]
      omega

theorem potential_handle (r : Rehearsal) (input : Input) :
    (r.handle input).potential ≤
      r.potential + ((r.session.beat r.setup.config (r.turn input)).effects.map cost).sum :=
  potential_foldl { r with session := (r.session.beat r.setup.config (r.turn input)).after }
    (r.session.beat r.setup.config (r.turn input)).effects

/-- Every tick lowers the potential. -/
theorem tick_lt {setup : Setup} {r after : Rehearsal} (staged : Staged setup r) {limit : Nat}
    (ticks : r.tick limit = some after) : after.potential < r.potential := by
  cases ticked_of_tick ticks with
  | @handle input rest first =>
      obtain ⟨rfl, -, past, line⟩ := staged
      have given := cost_beat line.life (Rehearsal.turn { r with inbox := rest } input)
      have taken : potential { r with inbox := rest } + load input = r.potential := by
        unfold potential
        rw [first, List.map_cons, List.sum_cons]
        dsimp only
        omega
      exact Nat.lt_of_le_of_lt (potential_handle _ input)
        (Nat.lt_of_lt_of_eq (Nat.add_lt_add_left given _) taken)
  | @answer result rest idle waits =>
      have small := load_le result
      unfold potential
      rw [idle, waits]
      simp only [List.map_nil, List.sum_nil, List.map_singleton, List.sum_singleton,
        List.length_cons]
      omega
  | @ring due timer ticket first rest idle split =>
      have paid : load (.expired timer ticket) < weight timer := by
        cases timer <;> exact Nat.lt_succ_self _
      unfold potential
      rw [idle, split]
      simp only [List.map_nil, List.sum_nil, List.map_append, List.sum_append, List.map_cons,
        List.sum_cons]
      omega

/-! ## Runs -/

section Runs

variable {setup : Setup} {r : Rehearsal} {limit : Nat}

/-- What every tick keeps, a run keeps. -/
theorem runFor_keeps {P : Rehearsal → Prop}
    (tick : ∀ r after, P r → r.tick limit = some after → P after) (fuel : Nat) (start : P r) :
    P (runFor limit fuel r) := by
  induction fuel generalizing r with
  | zero => exact start
  | succ fuel ih =>
      unfold runFor
      split
      · exact start
      · rename_i after ticks
        exact ih (tick r after start ticks)

theorem Staged.runUntil (staged : Staged setup r) (limit : Nat) :
    Staged setup (r.runUntil limit) :=
  runFor_keeps (fun _ _ before ticks => before.tick ticks) r.work staged

/-- A tick takes the clock no further than the limit. -/
theorem tick_now {after : Rehearsal} (early : r.clock.now ≤ limit)
    (ticks : r.tick limit = some after) : after.clock.now ≤ limit := by
  cases ticked_of_tick ticks with
  | @handle input rest first =>
      obtain ⟨scene, -⟩ := handle_scene { r with inbox := rest } input
      have clock := congrArg (·.clock.now) scene
      dsimp only at clock
      rw [foldl_obey_now] at clock
      exact Nat.le_trans (Nat.le_of_eq clock) early
  | answer => exact early
  | ring _ _ reached => exact Nat.max_le.2 ⟨early, reached⟩

theorem runUntil_now (early : r.clock.now ≤ limit) : (r.runUntil limit).clock.now ≤ limit :=
  runFor_keeps (P := fun r => r.clock.now ≤ limit) (fun _ _ => tick_now) r.work early

theorem runFor_tick (staged : Staged setup r) {fuel : Nat} (enough : r.potential ≤ fuel) :
    (runFor limit fuel r).tick limit = none := by
  induction fuel generalizing r with
  | zero =>
      cases ticks : r.tick limit with
      | none => exact ticks
      | some after => exact absurd (tick_lt staged ticks) (Nat.not_lt.2 (by omega))
  | succ fuel ih =>
      unfold runFor
      split
      · assumption
      · rename_i after ticks
        exact ih (staged.tick ticks) (by have := tick_lt staged ticks; omega)

/-- No tick is left at the end of a run. -/
theorem runUntil_tick (staged : Staged setup r) (limit : Nat) :
    (r.runUntil limit).tick limit = none :=
  runFor_tick staged r.potential_le_work

/-- At the end of a run all is calm. -/
theorem calm_scene (staged : Staged setup r) : r.calm.scene.Calm := by
  obtain ⟨idle, ahead⟩ := idle_of_tick (runUntil_tick staged r.clock.now)
  refine ⟨idle, fun alarm member => ?_⟩
  exact Nat.lt_of_le_of_lt (runUntil_now (Nat.le_refl r.clock.now)) (ahead alarm member)

end Runs

/-! ## Commands -/

section Commands

variable {setup : Setup} {r : Rehearsal}

/-- What no timeline knows of does not matter. -/
theorem Staged.other {changed : Rehearsal} (staged : Staged setup r)
    (unchanged : changed.setup = r.setup) (results : changed.results = r.results)
    (scene : changed.scene = r.scene) : Staged setup changed := by
  obtain ⟨same, answers, line⟩ := staged
  refine ⟨unchanged.trans same, fun result member => answers result (results ▸ member), ?_⟩
  rw [scene]
  exact line

theorem transport_outside (number : Nat) (event : TransportEvent) :
    ∀ timer ticket, Input.transport number event ≠ .expired timer ticket :=
  fun _ _ => nofun

theorem send_outside (call : Nat) (task : String) (fields : List (String × String)) :
    ∀ timer ticket, Input.send call task fields ≠ .expired timer ticket :=
  fun _ _ => nofun

theorem Staged.submit (staged : Staged setup r) {input : Input}
    (outside : ∀ timer ticket, input ≠ .expired timer ticket) :
    Staged setup (r.submit input).1 := by
  unfold Rehearsal.submit
  split
  · exact staged.arrive outside
  · exact staged

theorem Staged.fire (staged : Staged setup r) (transport : Option Nat) (change : Puppet → Puppet)
    (event : TransportEvent) : Staged setup (r.fire transport change event).1 := by
  unfold Rehearsal.fire
  dsimp only
  split
  · exact staged
  · dsimp only
    split
    · exact (staged.arrive (transport_outside (r.target transport) event)).other rfl rfl rfl
    · exact staged.other rfl rfl rfl

/-- The clock moves on once nothing is due. -/
theorem Staged.advance (staged : Staged setup r) (ms : Nat) :
    Staged setup (r.act (.advance ms)).1 := by
  obtain ⟨idle, ahead⟩ := idle_of_tick (runUntil_tick staged (r.clock.now + ms))
  obtain ⟨same, answers, past, line⟩ := staged.runUntil (r.clock.now + ms)
  refine ⟨same, answers, past, ?_⟩
  refine line.wait (max _ (r.clock.now + ms)) idle (Nat.le_max_left ..) fun alarm member => ?_
  exact Nat.max_le.2 ⟨line.timely.ahead alarm member, Nat.le_of_lt (ahead alarm member)⟩

theorem Staged.act (staged : Staged setup r) (command : Command) :
    Staged setup (r.act command).1 := by
  cases command with
  | init session token forced => exact staged.submit fun _ _ => nofun
  | reconnect => exact staged.submit fun _ _ => nofun
  | close => exact staged.submit fun _ _ => nofun
  | send task fields =>
      unfold Rehearsal.act
      dsimp only
      split
      · exact (staged.arrive (send_outside r.calls task fields)).other rfl rfl rfl
      · exact staged
  | opened | message | down | breakDown => exact staged.fire ..
  | force transport event =>
      unfold Rehearsal.act
      dsimp only
      split
      · split
        · exact staged.arrive (transport_outside (r.target transport) event)
        · exact staged
      · exact staged
  | prepare | dropEvents => exact staged.other rfl rfl rfl
  | resolve number reply =>
      unfold Rehearsal.act
      dsimp only
      split
      · split
        · split
          · refine ⟨staged.same, fun result member => ?_, staged.line⟩
            rcases List.mem_append.1 member with old | new
            · exact staged.answers result old
            · rw [List.mem_singleton.1 new]
              exact fun _ _ => nofun
          · exact staged.other rfl rfl rfl
        · exact staged
      · exact staged
  | advance ms => exact staged.advance ms

theorem Staged.actAll (staged : Staged setup r) (commands : List Command) :
    Staged setup (r.actAll commands).1 := by
  induction commands generalizing r with
  | nil => exact staged
  | cons command commands ih => exact ih (staged.act command)

end Commands

def plays (setup : Setup) (batches : List (List Command)) : Rehearsal :=
  batches.foldl (fun r commands => (r.play commands).1) { setup := setup }

/-- Where a rehearsal stands after its batches. -/
theorem staged_of_plays (setup : Setup) (batches : List (List Command)) :
    Staged setup (plays setup batches) ∧ (plays setup batches).scene.Calm ∧
      (plays setup batches).results = [] := by
  suffices kept : ∀ r, Staged setup r → r.scene.Calm → r.results = [] →
      Staged setup (batches.foldl (fun r commands => (r.play commands).1) r) ∧
        (batches.foldl (fun r commands => (r.play commands).1) r).scene.Calm ∧
          (batches.foldl (fun r commands => (r.play commands).1) r).results = [] from
    kept { setup := setup } ⟨rfl, nofun, [], .dawn⟩ ⟨rfl, nofun⟩ rfl
  induction batches with
  | nil => exact fun r staged calm idle => ⟨staged, calm, idle⟩
  | cons commands batches ih =>
      intro r staged _ _
      have queued := staged.actAll commands
      exact ih _ (queued.runUntil _) (calm_scene queued) (results_of_tick (runUntil_tick queued _))

/-- **Every rehearsal is a timeline, and after each batch all is calm.** -/
theorem timeline_of_plays (setup : Setup) (batches : List (List Command)) :
    (∃ line, Timeline setup.config line (plays setup batches).scene) ∧
      (plays setup batches).scene.Calm := by
  obtain ⟨staged, calm, -⟩ := staged_of_plays setup batches
  exact ⟨staged.line, calm⟩

end Rehearsal

end Tether
