/-
# Tether.Proofs.Network.Runs -- what drives a network makes moves

A bench drives one transport by hand, and a stack drives those of a session; both let errands
run in the order in which they came up, before any alarm.  All that either does to its network
are moves, so what holds of all moves holds of every bench and every stack.

A bench runs until nothing is left: each errand and each alarm is worth some ticks, more than
what it can lead to (`potential`), and the work that is allowed for covers all of them.

* `tick_lt` -- every tick lowers the potential.
* `Bench.moves_of_plays` -- a bench makes moves, and after each batch no errand is left.
* `moves_of_stack` -- a stack makes moves.
-/
import Mathlib.Algebra.GroupWithZero.Nat
import Tether.Network.Bench
import Tether.Proofs.Network.Moves
import Tether.Stack

set_option autoImplicit false

namespace Tether

/-! ## What a call costs -/

namespace LongPoll

def Act.cost : Act → Nat
  | .wake _ => 4
  | .post _ _ _ => 2
  | .release => 1
  | .emit _ | .detach => 0

def cost (acts : List Act) : Nat := (acts.map Act.cost).sum

theorem cost_waits {t after : LongPoll} {acts all : List Act} (waits : Waits t acts after all) :
    cost all ≤ cost acts + 1 := by
  rcases waits with ⟨-, rfl⟩ | ⟨-, rfl⟩
  · exact Nat.le_succ _
  · simp [cost, Act.cost]

theorem cost_messages (frames : List String) :
    cost (frames.map fun frame => .emit (.message frame)) = 0 := by
  induction frames with
  | nil => rfl
  | cons frame frames ih => simpa [cost, Act.cost] using ih

theorem cost_wake (t : LongPoll) (job : Job) : cost (t.wake job).2 ≤ 3 := by
  change cost (t.heed (.wake job)).2 ≤ 3
  by_cases ended : t.phase = .ended
  · rcases (heed_ended ended (.wake job)).2 with none | reset
    · simp [none, cost]
    · simp [reset, cost, Act.cost]
  · have up := upshot ended (.wake job)
    generalize (t.heed (.wake job)).1 = after, (t.heed (.wake job)).2 = acts at up
    cases up with
    | idle => simp [cost]
    | ask _ waits => exact cost_waits waits
    | poll _ _ waits => exact cost_waits waits
    | feed _ post waits =>
        refine Nat.le_trans (cost_waits waits) (Nat.succ_le_succ ?_)
        rcases post with rfl | ⟨request, limit, rfl⟩ <;> simp [cost, Act.cost]

theorem cost_answer (t : LongPoll) (job : Job) (outcome : Http.Outcome) :
    cost (t.answer job outcome).2 ≤ 4 := by
  change cost (t.heed (.answer job outcome)).2 ≤ 4
  by_cases ended : t.phase = .ended
  · rcases (heed_ended ended (.answer job outcome)).2 with none | reset
    · simp [none, cost]
    · simp [reset, cost, Act.cost]
  · have up := upshot ended (.answer job outcome)
    generalize (t.heed (.answer job outcome)).1 = after,
      (t.heed (.answer job outcome)).2 = acts at up
    cases up with
    | idle stray => exact stray.elim
    | greet => simp [cost, Act.cost]
    | again _ _ waits =>
        rename_i frames _ _
        refine Nat.le_trans (cost_waits waits) ?_
        have quiet := cost_messages frames
        simp only [cost, List.map_cons, List.sum_cons, Act.cost] at quiet ⊢
        omega
    | feed _ post waits =>
        refine Nat.le_trans (cost_waits waits) ?_
        rcases post with rfl | ⟨request, limit, rfl⟩ <;> simp [cost, Act.cost]
    | fail => simp [cost, Act.cost]

/-- A deadline can only end a transport. -/
theorem cost_timedOut (t : LongPoll) (job : Job) : cost (t.answer job .timedOut).2 ≤ 1 := by
  unfold answer
  split
  · simp [cost]
  · simp only [complete, fail]
    split <;> simp [cost, Act.cost]

end LongPoll

namespace Network

/-! ## What a tick is worth -/

def Errand.cost : Errand → Nat
  | .answered _ => 5
  | .wake _ _ => 4
  | .release _ => 1

/-- What all that waits is worth. -/
def potential (n : Network) : Nat :=
  (n.errands.map Errand.cost).sum + 2 * n.clock.alarms.length

section Potential

variable {n : Network}

theorem potential_emit (n : Network) (line : Nat) (event : TransportEvent) :
    (n.emit line event).2.potential = n.potential := by
  unfold emit
  split <;> rfl

theorem length_set (clock : Clock Alarm) (delay : Nat) (alarm : Alarm) :
    (clock.set delay alarm).alarms.length ≤ clock.alarms.length + 1 := by
  unfold Clock.set
  split <;> simp

theorem length_cancel (clock : Clock Alarm) (p : Alarm → Bool) :
    (clock.cancel p).alarms.length ≤ clock.alarms.length := List.length_filter_le ..

theorem potential_pollingAct (n : Network) (line : Nat) (act : LongPoll.Act) :
    (pollingAct line n act).potential ≤ n.potential + act.cost := by
  cases act with
  | emit event => exact Nat.le_of_eq (potential_emit n line event)
  | detach => exact Nat.le_refl _
  | wake job | release =>
      simp [pollingAct, potential, LongPoll.Act.cost, Errand.cost]
      omega
  | post job request limit =>
      have alarms := length_set n.clock limit (.deadline n.exchange.size)
      simp only [pollingAct, potential, post, LongPoll.Act.cost]
      omega

theorem potential_advancePolling (n : Network) (line : Nat) (step : LongPoll × List LongPoll.Act) :
    (n.advancePolling line step).potential ≤ n.potential + LongPoll.cost step.2 := by
  have all (acts : List LongPoll.Act) (m : Network) :
      (acts.foldl (pollingAct line) m).potential ≤ m.potential + LongPoll.cost acts := by
    induction acts generalizing m with
    | nil => exact Nat.le_refl _
    | cons act acts ih =>
        have first := potential_pollingAct m line act
        have rest := ih (pollingAct line m act)
        simp only [List.foldl_cons, LongPoll.cost, List.map_cons, List.sum_cons] at rest ⊢
        omega
  exact all step.2 (n.setCarrier line (some (.polling step.1)))

theorem potential_refused (n : Network) (line : Nat) (ws : WebSocket)
    (fault : WebSocket.ConnectFault) :
    (n.advancePersistent line (ws.refused fault)).potential = n.potential := by
  unfold advancePersistent WebSocket.refused
  split
  · exact potential_emit _ line .failed
  · rfl

theorem potential_finish (n : Network) (number : Nat) (owner : Owner) (outcome : Http.Outcome)
    {most : Nat} (bound : ∀ (t : LongPoll) (job : LongPoll.Job),
      LongPoll.cost (t.answer job outcome).2 ≤ most) :
    (n.finish number owner outcome).potential ≤ n.potential + most := by
  have closing : (n.closing number).potential ≤ n.potential := by
    have alarms := length_cancel n.clock (· == .deadline number)
    simp only [potential, Network.closing]
    omega
  rw [finish_eq]
  unfold deliver
  split
  · split
    · rename_i line job _ t _
      have told := potential_advancePolling (n.closing number) line (t.answer job outcome)
      have spent := bound t job
      omega
    · omega
  · exact Nat.le_trans closing (Nat.le_add_right ..)

theorem potential_runErrand (n : Network) (errand : Errand) :
    (n.runErrand errand).potential < n.potential + errand.cost := by
  cases errand with
  | wake line job =>
      simp only [runErrand, Errand.cost]
      split
      · rename_i t _
        have told := potential_advancePolling n line (t.wake job)
        have spent := t.cost_wake job
        omega
      · omega
  | answered number =>
      simp only [runErrand, Errand.cost]
      split
      · rename_i owner outcome _
        exact Nat.lt_succ_of_le
          (n.potential_finish number owner outcome fun t job => t.cost_answer job outcome)
      · omega
  | release line => exact Nat.lt_succ_self _

theorem potential_ring (n : Network) (alarm : Alarm) :
    (n.ring alarm).potential ≤ n.potential + 1 := by
  cases alarm with
  | deadline number =>
      simp only [ring]
      split
      · exact n.potential_finish number _ .timedOut fun t job => t.cost_timedOut job
      · omega
  | connect line =>
      simp only [ring]
      split
      · exact Nat.le_succ_of_le (Nat.le_of_eq (potential_refused n line _ _))
      · omega
  | session timer ticket => exact Nat.le_succ _

/-- Every tick lowers the potential. -/
theorem tick_lt {n m : Network} {limit : Nat} (ticks : n.tick limit = some m) :
    m.potential < n.potential := by
  unfold tick at ticks
  split at ticks
  · rename_i errand rest listed
    cases ticks
    have spent := potential_runErrand { n with errands := rest } errand
    have whole : n.potential = potential { n with errands := rest } + errand.cost := by
      simp only [potential, listed, List.map_cons, List.sum_cons]
      omega
    omega
  · split at ticks
    · rename_i idle alarm clock fires
      cases ticks
      have spent := potential_ring { n with clock } alarm
      have fewer := Clock.next?_length fires
      have whole : potential { n with clock } + 2 = n.potential := by
        simp only [potential]
        omega
      omega
    · cases ticks

/-- When no tick is left, no errand is. -/
theorem errands_of_tick {n : Network} {limit : Nat} (idle : n.tick limit = none) :
    n.errands = [] := by
  unfold tick at idle
  split at idle
  · cases idle
  · assumption

end Potential

/-! ## Moves -/

def Leads (n m : Network) : Prop := ∃ moves, m = n.afterFrom moves

section Leads

variable {n m k : Network}

theorem Leads.refl (n : Network) : Leads n n := ⟨[], rfl⟩

theorem Leads.trans (first : Leads n m) (second : Leads m k) : Leads n k := by
  obtain ⟨early, rfl⟩ := first
  obtain ⟨late, rfl⟩ := second
  exact ⟨early ++ late, (afterFrom_append n early late).symm⟩

theorem leads_move (n : Network) (move : Move) : Leads n (n.make move) := ⟨[move], rfl⟩

/-- A tick is a move: the first errand runs, or the next alarm rings. -/
theorem make_of_tick {limit : Nat} (ticks : n.tick limit = some m) :
    m = n.make (.errand 0) ∨ m = n.make (.alarm limit) := by
  unfold tick at ticks
  split at ticks
  · rename_i errand rest listed
    cases ticks
    left
    simp only [make, listed, List.getElem?_cons_zero, List.eraseIdx_cons_zero]
    rfl
  · split at ticks
    · rename_i alarm clock fires
      cases ticks
      right
      simp only [make, fires]
    · cases ticks

theorem leads_tick {limit : Nat} (ticks : n.tick limit = some m) : Leads n m := by
  rcases make_of_tick ticks with rfl | rfl
  · exact leads_move n _
  · exact leads_move n _

end Leads

/-! ## Benches -/

namespace Bench

variable {b : Bench} {limit : Nat}

theorem leads_runFor (limit fuel : Nat) (b : Bench) :
    Leads b.network (runFor limit fuel b).network := by
  induction fuel generalizing b with
  | zero => exact .refl _
  | succ fuel ih =>
      unfold runFor
      split
      · exact .refl _
      · rename_i network ticks
        exact (leads_tick ticks).trans ((leads_move network .fetch).trans (ih _))

theorem leads_runUntil (limit : Nat) (b : Bench) : Leads b.network (b.runUntil limit).network :=
  (leads_move b.network .fetch).trans (leads_runFor limit b.work b.collect)

theorem onCarrier_cases {P : Bench → Prop} {go : Carrier → Bench × Answer} (stay : P b)
    (moved : ∀ carrier, P (go carrier).1) : P (b.onCarrier go).1 := by
  unfold onCarrier
  split
  · exact moved _
  · exact stay

theorem leads_act (b : Bench) (command : Command) : Leads b.network (b.act command).1.network := by
  cases command with
  | start =>
      exact onCarrier_cases (P := fun c => Leads b.network c.network) (.refl _) fun _ =>
        leads_move b.network (.start 0)
  | send frame =>
      exact onCarrier_cases (P := fun c => Leads b.network c.network) (.refl _) fun _ =>
        leads_move b.network (.send 0 frame)
  | reset =>
      exact onCarrier_cases (P := fun c => Leads b.network c.network) (.refl _) fun _ =>
        leads_move b.network (.reset 0)
  | drop =>
      exact onCarrier_cases (P := fun c => Leads b.network c.network) (.refl _) fun _ =>
        leads_move b.network (.drop 0)
  | uid | kind =>
      exact onCarrier_cases (P := fun c => Leads b.network c.network) (.refl _) fun _ => .refl _
  | detach => exact leads_move b.network (.detach 0)
  | emit event => exact leads_move b.network (.emit 0 event)
  | answer address outcome => exact leads_move b.network (.answer address outcome)
  | advance ms =>
      exact (leads_runUntil (b.network.clock.now + ms) b).trans
        (leads_move _ (.wait (b.network.clock.now + ms)))

theorem leads_actAll (b : Bench) (commands : List Command) :
    Leads b.network (b.actAll commands).1.network := by
  induction commands generalizing b with
  | nil => exact .refl _
  | cons command commands ih => exact (leads_act b command).trans (ih _)

/-- The work allowed for covers all that waits. -/
theorem potential_le_work (b : Bench) : b.network.potential ≤ b.work := by
  have errands : (b.network.errands.map Errand.cost).sum ≤ b.network.errands.length * 5 := by
    induction b.network.errands with
    | nil => exact Nat.le_refl _
    | cons errand rest ih =>
        have first : errand.cost ≤ 5 := by cases errand <;> simp [Errand.cost]
        simp only [List.map_cons, List.sum_cons, List.length_cons]
        omega
  unfold potential work
  omega

theorem runFor_tick {fuel : Nat} (enough : b.network.potential ≤ fuel) :
    (runFor limit fuel b).network.tick limit = none := by
  induction fuel generalizing b with
  | zero =>
      cases ticks : b.network.tick limit with
      | none => exact ticks
      | some network => exact absurd (tick_lt ticks) (by omega)
  | succ fuel ih =>
      unfold runFor
      split
      · assumption
      · rename_i network ticks
        have lower := tick_lt ticks
        exact ih (b := ({ b with network } : Bench).collect) (by
          change network.potential ≤ fuel
          omega)

/-- No errand is left at the end of a run. -/
theorem errands_runUntil (limit : Nat) (b : Bench) : (b.runUntil limit).network.errands = [] :=
  errands_of_tick (runFor_tick (b := b.collect) b.potential_le_work)

def plays (factory : Factory) (kind : TransportKind) (batches : List (List Command)) : Bench :=
  batches.foldl (fun b commands => (b.play commands).1) (ofCarrier (factory.create kind))

/-- **A bench makes moves, and after each batch no errand is left.** -/
theorem moves_of_plays (factory : Factory) (kind : TransportKind) (batches : List (List Command)) :
    (∃ moves, (plays factory kind batches).network = after moves) ∧
      (plays factory kind batches).network.errands = [] := by
  suffices kept : ∀ b : Bench, Leads {} b.network → b.network.errands = [] →
      Leads {} (batches.foldl (fun b commands => (b.play commands).1) b).network ∧
        (batches.foldl (fun b commands => (b.play commands).1) b).network.errands = [] from
    kept (ofCarrier (factory.create kind)) (leads_move {} (.add factory kind)) rfl
  induction batches with
  | nil => exact fun b led calm => ⟨led, calm⟩
  | cons commands batches ih =>
      intro b led _
      have queued := led.trans (leads_actAll b commands)
      exact ih _ (queued.trans (leads_runUntil _ _)) (errands_runUntil _ _)

end Bench

end Network

/-! ## Stacks -/

def Effect.moves (wiring : Wiring) : Effect → List Network.Move
  | .open link => [.add wiring.factory link.kind, .start link.number]
  | .sent number frame => [.send number frame]
  | .retire number => [.reset number]
  | .start timer ticket delay => [.set delay timer ticket]
  | .stop timer ticket => [.cancel timer ticket]
  | .request attempt manual instanceId =>
      [.ask (Reconnect.request wiring.reconnectUrl instanceId) attempt manual
        wiring.reconnectTimeout]
  | .abandon attempt => [.abandon attempt]
  | .refused _ _ | .event _ | .show _ | .answer _ _ => []

namespace Stack

open Network (Leads leads_move leads_tick)

/-- To carry out effects touches neither the session nor its inputs, and the network by moves. -/
structure Absorbs (s t : Stack) (effects : List Effect) : Prop where
  setup : t.setup = s.setup
  wiring : t.wiring = s.wiring
  session : t.session = s.session
  inbox : t.inbox = s.inbox
  network : t.network = s.network.afterFrom (effects.flatMap (·.moves s.wiring))

theorem absorbs (effects : List Effect) (s : Stack) : Absorbs s (effects.foldl absorb s) effects := by
  induction effects generalizing s with
  | nil => exact ⟨rfl, rfl, rfl, rfl, rfl⟩
  | cons effect effects ih =>
      have first : Absorbs s (s.absorb effect) [effect] := by
        cases effect <;> exact ⟨rfl, rfl, rfl, rfl, rfl⟩
      have rest := ih (s.absorb effect)
      refine ⟨rest.setup.trans first.setup, rest.wiring.trans first.wiring,
        rest.session.trans first.session, rest.inbox.trans first.inbox, ?_⟩
      rw [List.foldl_cons, rest.network, first.network, first.wiring, ← Network.afterFrom_append,
        ← List.flatMap_append, List.singleton_append]

theorem leads_handle (s : Stack) (input : Input) : Leads s.network (s.handle input).network := by
  have absorbed := absorbs (s.session.step s.setup s.accepting input).2
    { s with session := (s.session.step s.setup s.accepting input).1 }
  exact ⟨_, absorbed.network⟩

theorem leads_stackTick {s after : Stack} {limit : Nat} (ticks : s.tick limit = some after) :
    Leads s.network after.network := by
  unfold tick at ticks
  split at ticks
  · rename_i input rest waits
    cases ticks
    exact (leads_handle { s with inbox := rest } input).trans (leads_move _ .fetch)
  · split at ticks
    · rename_i network moved
      cases ticks
      exact (leads_tick moved).trans (leads_move _ .fetch)
    · cases ticks

theorem leads_runFor (limit fuel : Nat) (s : Stack) :
    Leads s.network (runFor limit fuel s).network := by
  induction fuel generalizing s with
  | zero => exact .refl _
  | succ fuel ih =>
      unfold runFor
      split
      · exact .refl _
      · rename_i after ticks
        exact (leads_stackTick ticks).trans (ih _)

theorem leads_calm (s : Stack) : Leads s.network s.calm.network := leads_runFor _ s.work s

theorem leads_submit (s : Stack) (input : Input) :
    Leads s.network ((s.submit input).map calm id).1.network := by
  unfold submit
  split
  · exact leads_calm { s with inbox := s.inbox ++ [input] }
  · exact leads_calm s

theorem leads_dropLines (s : Stack) : Leads s.network s.dropLines.network := by
  have all (lines : List Nat) (n : Network) : Leads n (lines.foldl Network.drop n) := by
    induction lines generalizing n with
    | nil => exact .refl _
    | cons line lines ih => exact (leads_move n (.drop line)).trans (ih _)
  exact all _ s.network

theorem leads_play (s : Stack) (command : Command) :
    Leads s.network (s.play command).1.network := by
  cases command with
  | init session token forceFallback => exact leads_submit s _
  | reconnect => exact leads_submit s _
  | close => exact leads_submit s _
  | send task fields =>
      unfold play
      dsimp only
      split
      · exact leads_calm { s with
          calls := s.calls + 1
          inbox := s.inbox ++ [.send s.calls task fields] }
      · exact .refl _
  | answer address outcome =>
      exact (leads_move s.network (.answer address outcome)).trans
        (leads_calm { s with network := (s.network.answer address outcome).2 })
  | advance ms =>
      exact (leads_runFor _ s.work s).trans (leads_move _ (.wait (s.network.clock.now + ms)))
  | abort =>
      exact (leads_dropLines s).trans
        (leads_calm { s.dropLines with
          inbox := []
          session := { s.session with running := false } })

/-- **A stack makes moves.** -/
theorem moves_of_stack (setup : Setup) (wiring : Wiring) (commands : List Command) :
    ∃ moves, (commands.foldl (fun s command => (s.play command).1)
      ({ setup, wiring } : Stack)).network = Network.after moves := by
  suffices led : ∀ s : Stack,
      Leads s.network (commands.foldl (fun s command => (s.play command).1) s).network from
    led { setup, wiring }
  induction commands with
  | nil => exact fun s => .refl _
  | cons command commands ih => exact fun s => (leads_play s command).trans (ih _)

end Stack

end Tether
