/-
# Tether.Proofs.Health -- what a health monitor knows of its past

A monitor has a timer and a mark, and what is done to it changes the one, the other or both.  A
frame starts the timer and takes the mark away, a claimed expiry forgets the timer and sets the
mark, and disarming stops the timer only.  Expiries are handed over late, twice or in any order.

Of the timer nothing has to be proved again: it is the only slot of a desk of timers, and what is
done to the monitor is done to the desk (`moved_desk`, `events_desk`).  So a watch stands at the
monitor as long as its setting stands at the desk (`standing_atDesk`).  The mark is followed on
its own (`Agrees.mark_moved`).

* `Standing` -- the watch of the latest frame, while it was neither disarmed nor claimed.
* `Lost` -- an expiry was claimed, and no frame counted since.
* `Agrees.moved`, `agrees` -- one move, and any number of moves, keep monitor and past together.
* `vigilant` -- what a monitor claims and tells, and when expiries come in.
-/
import Tether.Health.Watch
import Tether.Proofs.Timer.Discipline

set_option autoImplicit false

namespace Tether.Health

/-! ## Events -/

inductive Deed
  /-- A frame counts.  It starts the watch `number`, and tells whether the connection was lost. -/
  | frame (number : Nat) (ticket : Ticket) (wasLost : Bool)
  | disarm
  /-- The monitor is handed the expiry of a watch. -/
  | expire (number : Nat) (ticket : Ticket) (claimed : Bool)
  /-- The timer of a watch runs out, and the expiry comes in. -/
  | arrive (number : Nat)
deriving DecidableEq

structure Event where
  time : Nat
  deed : Deed
deriving DecidableEq

inductive Move
  | command (command : Watch.Command)
  /-- The timers that are due run out. -/
  | calm
  /-- The inbox is read and emptied. -/
  | collect

namespace Watch

def ofBudget (budget : Nat) : Watch := { budget }

def moved (watch : Watch) : Move → Watch
  | .command command => (watch.act command).1
  | .calm => watch.elapse watch.clock.now
  | .collect => watch.collect.2

/-- The expiries that come in by `limit`. -/
def arriving (watch : Watch) (limit : Nat) : List Event :=
  (watch.clock.rings limit).map fun (time, number) => ⟨time, .arrive number⟩

def events (watch : Watch) : Move → List Event
  | .command .frame =>
      match watch.act .frame with
      | (after, .told wasLost) =>
          (after.issued[watch.issued.length]?).toList.map fun ticket =>
            ⟨watch.clock.now, .frame watch.issued.length ticket wasLost⟩
      | _ => []
  | .command .disarm => [⟨watch.clock.now, .disarm⟩]
  | .command (.expire number) =>
      match watch.act (.expire number), watch.issued[number]? with
      | (_, .told claimed), some ticket => [⟨watch.clock.now, .expire number ticket claimed⟩]
      | _, _ => []
  | .command (.advance ms) => watch.arriving (watch.clock.now + ms)
  | .calm => watch.arriving watch.clock.now
  | .collect => []

def reached (watch : Watch) (moves : List Move) : Watch := moves.foldl moved watch

def past (watch : Watch) : List Move → List Event
  | [] => []
  | move :: moves => watch.events move ++ (watch.moved move).past moves

theorem past_concat (watch : Watch) (moves : List Move) (move : Move) :
    watch.past (moves ++ [move]) = watch.past moves ++ (watch.reached moves).events move := by
  induction moves generalizing watch with
  | nil => exact List.append_nil _
  | cons first moves ih =>
      rw [List.cons_append, past, past, ih, List.append_assoc]
      rfl

theorem events_frame (watch : Watch) :
    watch.events (.command .frame) =
      [⟨watch.clock.now, .frame watch.issued.length watch.monitor.frameReceived.2.timer.ticket
        watch.monitor.frameReceived.1⟩] := by
  simp [events, act]

theorem events_expire {watch : Watch} {number : Nat} {ticket : Ticket}
    (issued : watch.issued[number]? = some ticket) :
    watch.events (.command (.expire number)) =
      [⟨watch.clock.now, .expire number ticket (watch.monitor.expire ticket).1⟩] := by
  simp [events, act, issued]

/-- To apply a command is to carry it out and to let what is due run out. -/
theorem apply_reached (watch : Watch) (command : Command) :
    (watch.apply command).1 = watch.reached [.command command, .calm] := rfl

end Watch

/-! ## What the past says -/

section Past

variable {log : List Event} {event : Event}

/-- A frame counts. -/
def Event.IsFrame : Event → Prop
  | ⟨_, .frame _ _ _⟩ => True
  | _ => False

def Event.Claims : Event → Prop
  | ⟨_, .expire _ _ claimed⟩ => claimed = true
  | _ => False

/-- The watch before is over: a frame counts, the monitor is disarmed, or an expiry is claimed. -/
def Event.Ends : Event → Prop
  | ⟨_, .frame _ _ _⟩ | ⟨_, .disarm⟩ => True
  | ⟨_, .expire _ _ claimed⟩ => claimed = true
  | ⟨_, .arrive _⟩ => False

/-- The latest frame, at `start`, began the watch `number`, and since then there was neither a
disarm nor a claimed expiry. -/
def Standing (start number : Nat) (ticket : Ticket) (log : List Event) : Prop :=
  ∃ before wasLost since, log = before ++ ⟨start, .frame number ticket wasLost⟩ :: since ∧
    ∀ event ∈ since, ¬event.Ends

/-- An expiry was claimed, and no frame counted since. -/
def Lost (log : List Event) : Prop :=
  ∃ before claim since, log = before ++ claim :: since ∧ claim.Claims ∧
    ∀ event ∈ since, ¬event.IsFrame

def Arrived (number : Nat) (log : List Event) : Prop := ∃ time, ⟨time, .arrive number⟩ ∈ log

theorem not_lost_nil : ¬Lost [] := by
  rintro ⟨before, claim, since, split, -⟩
  simp at split

theorem lost_concat : Lost (log ++ [event]) ↔ event.Claims ∨ ¬event.IsFrame ∧ Lost log :=
  Timer.since_concat

/-- Expiries that come in do not count until they are handed over. -/
theorem lost_arriving (watch : Watch) (limit : Nat) :
    Lost (log ++ watch.arriving limit) ↔ Lost log := by
  unfold Watch.arriving
  induction watch.clock.rings limit using List.reverseRecOn with
  | nil => rw [List.map_nil, List.append_nil]
  | append_singleton rings ring ih =>
      rw [List.map_append, List.map_singleton, ← List.append_assoc, lost_concat, ih]
      simp [Event.Claims, Event.IsFrame]

end Past

/-! ## The timer as a slot -/

/-- The timer of the monitor as the only slot of a desk. -/
def Watch.desk (watch : Watch) : Timer.Desk where
  clock := watch.clock.relabel (Prod.mk 0)
  slots := [⟨watch.monitor.timer, watch.issued⟩]
  inbox := watch.inbox.map (Prod.mk 0)

def Move.atDesk (budget : Nat) : Move → Timer.Move
  | .command .frame => .command (.schedule 0 budget)
  | .command .disarm => .command (.cancel 0)
  | .command (.expire number) => .command (.take 0 number 0)
  | .command (.advance ms) => .command (.advance ms)
  | .calm => .calm
  | .collect => .collect

def Event.atDesk (budget : Nat) : Event → Timer.Event
  | ⟨time, .frame number ticket _⟩ => ⟨time, .schedule 0 number ticket budget⟩
  | ⟨time, .disarm⟩ => ⟨time, .cancel 0⟩
  | ⟨time, .expire number ticket claimed⟩ => ⟨time, .take 0 number 0 ticket claimed⟩
  | ⟨time, .arrive number⟩ => ⟨time, .expire 0 number true⟩

/-- The monitor claims what its timer claims, and then sets the mark. -/
theorem expire_eq (monitor : HealthMonitor) (ticket : Ticket) :
    monitor.expire ticket =
      ((monitor.timer.take ticket).1,
        ⟨(monitor.timer.take ticket).2, (monitor.timer.take ticket).1 || monitor.lost⟩) := by
  unfold HealthMonitor.expire TimerSlot.take
  by_cases fresh : ticket = monitor.timer.ticket ∧ monitor.timer.pending = true
  · simp [fresh]
  · simp only [if_neg fresh]
    rfl

section Desk

variable (watch : Watch)

theorem stop_desk :
    watch.desk.stop 0 ⟨watch.monitor.timer, watch.issued⟩ = watch.stop.relabel (Prod.mk 0) := by
  unfold Timer.Desk.stop Watch.stop
  dsimp only [Watch.desk]
  split
  · refine (Clock.cancel_relabel _ _ fun number => ?_).symm
    rw [Bool.eq_iff_iff, beq_iff_eq, beq_iff_eq, Prod.mk.injEq]
    exact and_iff_right rfl
  · rfl

theorem elapse_desk (limit : Nat) :
    (watch.elapse limit).desk = watch.desk.expire limit ∧
      watch.desk.ringing limit = (watch.arriving limit).map (Event.atDesk watch.budget) := by
  obtain ⟨rings, drain⟩ := Clock.drain_relabel (Prod.mk 0) limit watch.clock
  constructor
  · unfold Timer.Desk.expire Watch.elapse
    simp [Watch.desk, drain]
  · unfold Timer.Desk.ringing Watch.arriving
    dsimp only [Watch.desk]
    rw [rings, List.map_map, List.map_map]
    rfl

theorem slots_desk : watch.desk.slots[0]? = some ⟨watch.monitor.timer, watch.issued⟩ := rfl

/-- What is done to the monitor is done to the desk. -/
theorem moved_desk (move : Move) :
    (watch.moved move).desk = watch.desk.moved (move.atDesk watch.budget) := by
  unfold Watch.moved Timer.Desk.moved Move.atDesk
  cases move with
  | calm => exact (elapse_desk watch watch.clock.now).1
  | collect => rfl
  | command command =>
      cases command with
      | frame =>
          simp only [Timer.Desk.act, slots_desk, stop_desk]
          rw [← Clock.set_relabel]
          rfl
      | disarm =>
          simp only [Timer.Desk.act, slots_desk, stop_desk]
          rfl
      | expire number =>
          simp only [Timer.Desk.act, slots_desk, Watch.act, Option.bind_some]
          cases handed : watch.issued[number]? with
          | none => rfl
          | some ticket =>
              simp only [expire_eq]
              rfl
      | advance ms =>
          have late := (elapse_desk watch (watch.clock.now + ms)).1
          unfold Watch.act Timer.Desk.act
          dsimp only
          rw [show watch.desk.clock.now = watch.clock.now from rfl, ← late]
          rfl

theorem events_desk (move : Move) :
    watch.desk.events (move.atDesk watch.budget) =
      (watch.events move).map (Event.atDesk watch.budget) := by
  unfold Watch.events Timer.Desk.events Move.atDesk
  cases move with
  | calm => exact (elapse_desk watch watch.clock.now).2
  | collect => rfl
  | command command =>
      cases command with
      | frame =>
          simp only [Timer.Desk.act, slots_desk, Watch.act, Timer.Desk.ticket?]
          rw [List.map_map]
          rfl
      | disarm =>
          simp only [Timer.Desk.act, slots_desk]
          rfl
      | expire number =>
          simp only [Timer.Desk.act, slots_desk, Watch.act, Option.bind_some, Timer.Desk.ticket?]
          cases handed : watch.issued[number]? with
          | none => rfl
          | some ticket =>
              simp only [expire_eq]
              rfl
      | advance ms => exact (elapse_desk watch (watch.clock.now + ms)).2

end Desk

section AtDesk

variable {log : List Event} {budget start number : Nat} {ticket : Ticket}

theorem settles_atDesk (event : Event) : (event.atDesk budget).Settles 0 ↔ event.Ends := by
  obtain ⟨time, deed⟩ := event
  cases deed <;> simp [Event.atDesk, Timer.Event.Settles, Event.Ends]

theorem scheduled_atDesk {delay : Nat} :
    Timer.Scheduled 0 number ticket start delay (log.map (Event.atDesk budget)) ↔
      delay = budget ∧ ∃ wasLost, ⟨start, .frame number ticket wasLost⟩ ∈ log := by
  unfold Timer.Scheduled
  rw [List.mem_map]
  constructor
  · rintro ⟨⟨time, deed⟩, member, same⟩
    cases deed <;> cases same
    exact ⟨rfl, _, member⟩
  · rintro ⟨rfl, wasLost, member⟩
    exact ⟨_, member, rfl⟩

theorem expired_atDesk :
    Timer.Expired 0 number (log.map (Event.atDesk budget)) ↔ Arrived number log := by
  unfold Timer.Expired Arrived
  constructor
  · rintro ⟨time, heard, member⟩
    obtain ⟨⟨_, deed⟩, inside, same⟩ := List.mem_map.1 member
    cases deed <;> cases same
    exact ⟨time, inside⟩
  · rintro ⟨time, member⟩
    exact ⟨time, true, List.mem_map.2 ⟨_, member, rfl⟩⟩

theorem Standing.scheduled (budget : Nat) (standing : Standing start number ticket log) :
    Timer.Scheduled 0 number ticket start budget (log.map (Event.atDesk budget)) := by
  obtain ⟨before, wasLost, since, rfl, -⟩ := standing
  exact scheduled_atDesk.2 ⟨rfl, wasLost, List.mem_append_right _ List.mem_cons_self⟩

/-- A watch stands as long as its setting does. -/
theorem standing_atDesk :
    Timer.Standing 0 number ticket (log.map (Event.atDesk budget)) ↔
      ∃ start, Standing start number ticket log := by
  constructor
  · rintro ⟨first, start, delay, last, split, still⟩
    obtain ⟨before, rest, rfl, -, behind⟩ := List.map_eq_append_iff.1 split
    obtain ⟨⟨time, deed⟩, since, rfl, same, rfl⟩ := List.map_eq_cons_iff.1 behind
    cases deed <;> cases same
    refine ⟨start, before, _, since, rfl, fun event member ends => ?_⟩
    exact still _ (List.mem_map_of_mem member) ((settles_atDesk event).2 ends)
  · rintro ⟨start, before, wasLost, since, rfl, still⟩
    refine ⟨before.map (Event.atDesk budget), start, budget, since.map (Event.atDesk budget),
      List.map_append, fun other member settles => ?_⟩
    obtain ⟨event, inside, rfl⟩ := List.mem_map.1 member
    exact still event inside ((settles_atDesk event).1 settles)

end AtDesk

/-! ## Every run -/

structure Agrees (budget : Nat) (log : List Event) (watch : Watch) : Prop where
  fixed : watch.budget = budget
  timer : Timer.Course 1 (log.map (Event.atDesk budget)) watch.desk
  mark : watch.monitor.lost = true ↔ Lost log

theorem budget_moved (watch : Watch) (move : Move) : (watch.moved move).budget = watch.budget := by
  cases move with
  | calm => rfl
  | collect => rfl
  | command command =>
      cases command with
      | expire number =>
          unfold Watch.moved Watch.act
          dsimp only
          split <;> rfl
      | _ => rfl

namespace Agrees

variable {budget : Nat} {log : List Event} {watch : Watch}

theorem begin (budget : Nat) : Agrees budget [] (.ofBudget budget) where
  fixed := rfl
  timer := .begin
  mark := by simp [Watch.ofBudget, not_lost_nil]

/-- The mark is set by a claim and taken away by a frame. -/
theorem mark_moved (agrees : Agrees budget log watch) (move : Move) :
    (watch.moved move).monitor.lost = true ↔ Lost (log ++ watch.events move) := by
  unfold Watch.moved Watch.events
  cases move with
  | calm => exact agrees.mark.trans (lost_arriving watch _).symm
  | collect =>
      rw [List.append_nil]
      exact agrees.mark
  | command command =>
      cases command with
      | frame =>
          simp [Watch.act, HealthMonitor.frameReceived, lost_concat, Event.Claims, Event.IsFrame]
      | disarm =>
          rw [lost_concat, ← agrees.mark]
          simp [Watch.act, Event.Claims, Event.IsFrame]
      | expire number =>
          cases handed : watch.issued[number]? with
          | none => simpa [Watch.act, handed] using agrees.mark
          | some ticket =>
              simp only [Watch.act, handed, lost_concat, ← agrees.mark, expire_eq,
                Bool.or_eq_true]
              simp [Event.Claims, Event.IsFrame]
      | advance ms => exact agrees.mark.trans (lost_arriving watch _).symm

theorem moved (agrees : Agrees budget log watch) (move : Move) :
    Agrees budget (log ++ watch.events move) (watch.moved move) where
  fixed := (budget_moved watch move).trans agrees.fixed
  timer := by
    have course := agrees.timer.moved (move.atDesk watch.budget)
    rwa [events_desk, ← moved_desk, agrees.fixed, ← List.map_append] at course
  mark := agrees.mark_moved move

end Agrees

/-- What happens to a monitor that was never used before. -/
def history (budget : Nat) (moves : List Move) : List Event := (Watch.ofBudget budget).past moves

def after (budget : Nat) (moves : List Move) : Watch := (Watch.ofBudget budget).reached moves

/-- Whatever was done, a monitor agrees with what happened to it. -/
theorem agrees (budget : Nat) (moves : List Move) :
    Agrees budget (history budget moves) (after budget moves) := by
  suffices all : ∀ log watch, Agrees budget log watch →
      Agrees budget (log ++ watch.past moves) (watch.reached moves) from all [] _ (.begin budget)
  induction moves with
  | nil =>
      intro log watch agrees
      unfold Watch.past
      rw [List.append_nil]
      exact agrees
  | cons move moves ih =>
      intro log watch agrees
      unfold Watch.past
      rw [← List.append_assoc]
      exact ih _ _ (agrees.moved move)

namespace Agrees

variable {budget start number : Nat} {ticket : Ticket} {log : List Event} {watch : Watch}

/-- A ticket that was issued is known. -/
theorem known (agrees : Agrees budget log watch) {wasLost : Bool}
    (issued : ⟨start, .frame number ticket wasLost⟩ ∈ log) :
    watch.issued[number]? = some ticket := by
  have own := agrees.timer.kept.ledgers 0 _ (slots_desk watch)
  exact (own.issued number ticket).2
    ⟨start, budget, scheduled_atDesk.2 ⟨rfl, wasLost, issued⟩⟩

/-- And it is claimed as long as its watch stands. -/
theorem claimed (agrees : Agrees budget log watch) {wasLost : Bool}
    (issued : ⟨start, .frame number ticket wasLost⟩ ∈ log) :
    (watch.act (.expire number)).2 = .told (watch.monitor.expire ticket).1 ∧
      ((watch.monitor.expire ticket).1 = true ↔ Standing start number ticket log) := by
  have kept := agrees.timer.kept
  have own := kept.ledgers 0 _ (slots_desk watch)
  have scheduled : Timer.Scheduled 0 number ticket start budget (log.map (Event.atDesk budget)) :=
    scheduled_atDesk.2 ⟨rfl, wasLost, issued⟩
  refine ⟨by simp only [Watch.act, agrees.known issued], ?_⟩
  rw [expire_eq]
  refine own.claimed_iff.trans ?_
  constructor
  · rintro ⟨current, standing⟩
    obtain ⟨begun, standing⟩ := standing_atDesk.1 standing
    -- No other watch has this ticket.
    obtain ⟨rfl, -, rfl, -⟩ := kept.sound.scheduled_unique scheduled
      (standing.scheduled budget) (.inr rfl)
    exact standing
  · intro standing
    exact ⟨number, standing_atDesk.2 ⟨start, standing⟩⟩

/-- The expiry of a watch that stands comes in no sooner than the budget allows. -/
theorem silence (agrees : Agrees budget log watch) (standing : Standing start number ticket log)
    (arrived : Arrived number log) : start + budget ≤ watch.clock.now := by
  have kept := agrees.timer.kept
  have expired : Timer.Expired 0 number (log.map (Event.atDesk budget)) :=
    expired_atDesk.2 arrived
  obtain ⟨time, heard, member⟩ := expired
  obtain ⟨earlier, here, -, ⟨other, begun, wait, scheduled, rfl⟩, -⟩ := kept.sound.fits member
  have within : Timer.Scheduled 0 number other begun wait (log.map (Event.atDesk budget)) :=
    ((List.prefix_append _ _).trans here).subset scheduled
  obtain ⟨-, -, rfl, rfl⟩ := kept.sound.scheduled_unique (standing.scheduled budget) within
    (.inl rfl)
  exact kept.times _ member

/-- Once everything due has run out, the expiry of a watch that stands has come in if the budget
is over. -/
theorem punctual (agrees : Agrees budget log watch) (limit : Nat) (finite : budget < Clock.never)
    (due : start + budget ≤ limit)
    (standing : Standing start number ticket (log ++ watch.arriving limit)) :
    Arrived number (log ++ watch.arriving limit) := by
  obtain ⟨-, arriving⟩ := elapse_desk watch limit
  obtain ⟨course, quiet⟩ := agrees.timer.expired limit
  rw [arriving, agrees.fixed, ← List.map_append] at course
  -- What stands now was not stopped before, for a stopped watch does not come to stand again.
  have unstopped : ¬Timer.Stopped 0 number _ := fun stopped =>
    course.kept.sound.stopped stopped ticket (standing_atDesk.2 ⟨start, standing⟩)
  exact expired_atDesk.1
    (course.kept.punctual quiet (standing.scheduled budget) finite due unstopped)

end Agrees

/-- What a monitor claims and tells after any number of moves. -/
structure Vigilant (budget : Nat) (moves : List Move) : Prop where
  /-- Every frame counts, and begins a watch. -/
  counted : ∃ number ticket wasLost,
    history budget (moves ++ [.command .frame]) =
      history budget moves ++ [⟨(after budget moves).clock.now, .frame number ticket wasLost⟩]
  heeded : history budget (moves ++ [.command .disarm]) =
    history budget moves ++ [⟨(after budget moves).clock.now, .disarm⟩]
  /-- The expiry of any watch can be handed over. -/
  handed : ∀ start number ticket wasLost,
    ⟨start, .frame number ticket wasLost⟩ ∈ history budget moves → ∃ claimed,
      history budget (moves ++ [.command (.expire number)]) =
        history budget moves ++
          [⟨(after budget moves).clock.now, .expire number ticket claimed⟩]
  /-- The expiry of any watch is answered.  Its ticket is claimed if and only if the watch is that
  of the latest frame, since which there was neither a disarm nor a claimed expiry. -/
  claimed : ∀ start number ticket wasLost,
    ⟨start, .frame number ticket wasLost⟩ ∈ history budget moves →
      ((after budget moves).act (.expire number)).2 =
          .told ((after budget moves).monitor.expire ticket).1 ∧
        (((after budget moves).monitor.expire ticket).1 = true ↔
          Standing start number ticket (history budget moves))
  /-- The connection is lost if and only if an expiry was claimed since the latest frame. -/
  lost : (after budget moves).monitor.lost = true ↔ Lost (history budget moves)
  /-- The next frame tells whether the connection was lost before it. -/
  told : ((after budget moves).act .frame).2 = .told (after budget moves).monitor.lost
  /-- Disarming does not change whether the connection is lost. -/
  disarmed : ((after budget moves).act .disarm).1.monitor.lost = (after budget moves).monitor.lost
  /-- When the expiry of a watch that stands has come in, its frame was the last for at least the
  whole budget. -/
  silence : ∀ start number ticket, Standing start number ticket (history budget moves) →
    Arrived number (history budget moves) → start + budget ≤ (after budget moves).clock.now
  /-- After a silence of the whole budget it has come in, unless the budget is endless. -/
  punctual : budget < Clock.never → ∀ start number ticket,
    start + budget ≤ (after budget moves).clock.now →
      Standing start number ticket (history budget (moves ++ [.calm])) →
        Arrived number (history budget (moves ++ [.calm]))

theorem vigilant (budget : Nat) (moves : List Move) : Vigilant budget moves := by
  have agrees := agrees budget moves
  have next (move : Move) :
      history budget (moves ++ [move]) =
        history budget moves ++ (after budget moves).events move :=
    (Watch.ofBudget budget).past_concat moves move
  exact {
    counted := ⟨_, _, _, by rw [next, Watch.events_frame]⟩
    heeded := next (.command .disarm)
    handed := fun start number ticket wasLost issued =>
      ⟨_, by rw [next, Watch.events_expire (agrees.known issued)]⟩
    claimed := fun start number ticket wasLost issued => agrees.claimed issued
    lost := agrees.mark
    told := rfl
    disarmed := rfl
    silence := fun start number ticket => agrees.silence
    punctual := fun finite start number ticket due standing => by
      rw [next] at standing ⊢
      exact agrees.punctual _ finite due standing }

/-- The monitor does not look at the clock: an expiry that is handed over before it came in is
claimed all the same. -/
example : (after 10 [.command .frame, .command (.expire 0)]).monitor.lost = true := by
  decide

end Tether.Health
