/-
# Tether.Proofs.Timer.Events -- what happens at a desk of timer slots

A move is a command, the expiries of what is due at once, or a look into the inbox.  The
`events` of a move are read off the answer to the command and off the clock, and `past` has
those of all moves in order.  An expiry is an event of its own, with the time that the clock
shows then, so a move can have many.

What a slot stands at follows from the past alone.  Its latest setting is *standing* until it
is cancelled or claimed.  A setting is *stopped* if it is cancelled, or replaced by another,
while it stands.  A claim ends the standing too but does not stop the timer: a timer that is
claimed before it runs out is still running, and no cancellation reaches it any more.

* `standing_concat`, `stopped_concat` -- one more event, and whether a setting stands or is stopped.
* `Course` -- what moves consist of, one event at a time; laws are proved by induction on it.
* `course_past` -- every run of moves is such a course.
* `received_eq` -- what comes out of the inbox, and is still in it, is what expired and was heard.
-/
import Tether.Proofs.Alarms
import Tether.Timer.Desk

set_option autoImplicit false

namespace Tether.Timer

/-! ## Events -/

inductive Deed
  /-- A timer is set, as the given number of its slot. -/
  | schedule (slot number : Nat) (ticket : Ticket) (delay : Nat)
  | cancel (slot : Nat)
  /-- The slot is handed the ticket of the given setting of the slot `owner`. -/
  | take (slot number owner : Nat) (ticket : Ticket) (claimed : Bool)
  /-- A timer runs out.  It is heard as long as somebody reads the inbox. -/
  | expire (slot number : Nat) (heard : Bool)
deriving DecidableEq

structure Event where
  time : Nat
  deed : Deed
deriving DecidableEq

inductive Move
  | command (command : Desk.Command)
  /-- The timers that are due run out. -/
  | calm
  /-- The inbox is read and emptied. -/
  | collect

namespace Desk

def moved (desk : Desk) : Move → Desk
  | .command command => (desk.act command).1
  | .calm => desk.expire desk.clock.now
  | .collect => desk.collect.2

def ticket? (desk : Desk) (slot number : Nat) : Option Ticket :=
  (desk.slots[slot]?).bind (·.issued[number]?)

/-- The timers that run out by `limit`. -/
def ringing (desk : Desk) (limit : Nat) : List Event :=
  (desk.clock.rings limit).map fun (time, slot, number) =>
    ⟨time, .expire slot number desk.listening⟩

def events (desk : Desk) : Move → List Event
  | .command (.schedule slot delay) =>
      match desk.act (.schedule slot delay) with
      | (after, .scheduled number) =>
          (after.ticket? slot number).toList.map fun ticket =>
            ⟨desk.clock.now, .schedule slot number ticket delay⟩
      | _ => []
  | .command (.cancel slot) =>
      match desk.act (.cancel slot) with
      | (_, .done) => [⟨desk.clock.now, .cancel slot⟩]
      | _ => []
  | .command (.take slot number owner) =>
      match desk.act (.take slot number owner), desk.ticket? owner number with
      | (_, .taken claimed), some ticket =>
          [⟨desk.clock.now, .take slot number owner ticket claimed⟩]
      | _, _ => []
  | .command (.advance ms) => desk.ringing (desk.clock.now + ms)
  | .calm => desk.ringing desk.clock.now
  | .command .dropReceiver | .collect => []

def reached (desk : Desk) (moves : List Move) : Desk := moves.foldl moved desk

def past (desk : Desk) : List Move → List Event
  | [] => []
  | move :: moves => desk.events move ++ (desk.moved move).past moves

/-- What is read from the inbox in a number of moves, and then left in it. -/
def received (desk : Desk) : List Move → List (Nat × Nat)
  | [] => desk.inbox
  | .collect :: moves => desk.collect.1 ++ desk.collect.2.received moves
  | move :: moves => (desk.moved move).received moves

theorem past_concat (desk : Desk) (moves : List Move) (move : Move) :
    desk.past (moves ++ [move]) = desk.past moves ++ (desk.reached moves).events move := by
  induction moves generalizing desk with
  | nil => exact List.append_nil _
  | cons first moves ih =>
      rw [List.cons_append, past, past, ih, List.append_assoc]
      rfl

section Events

variable {desk : Desk} {slot : Nat} {ledger : Ledger} (found : desk.slots[slot]? = some ledger)

include found

theorem events_schedule (delay : Nat) :
    desk.events (.command (.schedule slot delay)) =
      [⟨desk.clock.now,
        .schedule slot ledger.issued.length ledger.slot.schedule.ticket delay⟩] := by
  have inside : slot < desk.slots.length := (List.getElem?_eq_some_iff.1 found).1
  simp [events, act, found, ticket?, List.getElem?_set_self inside]

theorem events_cancel :
    desk.events (.command (.cancel slot)) = [⟨desk.clock.now, .cancel slot⟩] := by
  simp [events, act, found]

theorem events_take {number owner : Nat} {ticket : Ticket}
    (handed : desk.ticket? owner number = some ticket) :
    desk.events (.command (.take slot number owner)) =
      [⟨desk.clock.now, .take slot number owner ticket (ledger.slot.take ticket).1⟩] := by
  have known := handed
  unfold ticket? at known
  simp [events, act, found, known, handed]

end Events

/-- To apply a command is to carry it out and to let what is due run out. -/
theorem apply_reached (desk : Desk) (command : Command) :
    (desk.apply command).1 = desk.reached [.command command, .calm] := rfl

end Desk

/-! ## The state of a setting -/

/-- What happened once, and what held of all that followed, after one more event. -/
theorem since_concat {α : Type} {p q : α → Prop} {log : List α} {last : α} :
    (∃ before event since, log ++ [last] = before ++ event :: since ∧ p event ∧
        ∀ later ∈ since, q later) ↔
      p last ∨ q last ∧ ∃ before event since, log = before ++ event :: since ∧ p event ∧
        ∀ later ∈ since, q later := by
  constructor
  · rintro ⟨before, event, since, split, here, still⟩
    rcases List.eq_nil_or_concat since with rfl | ⟨since, final, rfl⟩
    · rw [(List.append_singleton_inj.1 split).2]
      exact .inl here
    · rw [List.concat_eq_append] at split still
      rw [← List.cons_append, ← List.append_assoc] at split
      obtain ⟨rfl, rfl⟩ := List.append_singleton_inj.1 split
      refine .inr ⟨still last (List.mem_append_right _ (List.mem_singleton_self _)), ?_⟩
      exact ⟨before, event, since, rfl, here, fun other member =>
        still other (List.mem_append_left _ member)⟩
  · rintro (here | ⟨holds, before, event, since, rfl, here, still⟩)
    · exact ⟨log, last, [], rfl, here, fun _ none => (List.not_mem_nil none).elim⟩
    · refine ⟨before, event, since ++ [last], by simp, here, fun other member => ?_⟩
      rcases List.mem_append.1 member with earlier | new
      · exact still other earlier
      · rw [List.mem_singleton.1 new]
        exact holds

section Settings

variable {log : List Event} {event : Event} {slot number : Nat} {ticket : Ticket}

def Event.Settles (slot : Nat) : Event → Prop
  | ⟨_, .schedule other _ _ _⟩ | ⟨_, .cancel other⟩ => other = slot
  | ⟨_, .take other _ _ _ claimed⟩ => other = slot ∧ claimed = true
  | ⟨_, .expire _ _ _⟩ => False

def Event.Stops (slot : Nat) : Event → Prop
  | ⟨_, .schedule other _ _ _⟩ | ⟨_, .cancel other⟩ => other = slot
  | _ => False

theorem Event.Stops.settles (stops : event.Stops slot) : event.Settles slot := by
  obtain ⟨time, deed⟩ := event
  cases deed <;> first | exact stops | exact stops.elim

def Scheduled (slot number : Nat) (ticket : Ticket) (start delay : Nat) (log : List Event) : Prop :=
  ⟨start, .schedule slot number ticket delay⟩ ∈ log

/-- The latest setting of the slot is `number`, and it was neither cancelled nor claimed. -/
def Standing (slot number : Nat) (ticket : Ticket) (log : List Event) : Prop :=
  ∃ before start delay since, log = before ++ ⟨start, .schedule slot number ticket delay⟩ :: since ∧
    ∀ event ∈ since, ¬event.Settles slot

/-- The setting was cancelled, or replaced, while it stood. -/
def Stopped (slot number : Nat) (log : List Event) : Prop :=
  ∃ before stop ticket, before ++ [stop] <+: log ∧ stop.Stops slot ∧
    Standing slot number ticket before

def Expired (slot number : Nat) (log : List Event) : Prop :=
  ∃ time heard, ⟨time, .expire slot number heard⟩ ∈ log

def Claimed (slot number : Nat) (log : List Event) : Prop :=
  ∃ before time handed owner ticket current,
    before ++ [⟨time, .take slot handed owner ticket true⟩] <+: log ∧
      Standing slot number current before

theorem standing_scheduled (standing : Standing slot number ticket log) :
    ∃ start delay, Scheduled slot number ticket start delay log := by
  obtain ⟨before, start, delay, since, rfl, -⟩ := standing
  exact ⟨start, delay, List.mem_append_right _ (List.mem_cons_self)⟩

theorem standing_concat :
    Standing slot number ticket (log ++ [event]) ↔
      (∃ start delay, event = ⟨start, .schedule slot number ticket delay⟩) ∨
        ¬event.Settles slot ∧ Standing slot number ticket log := by
  have shape : ∀ log, Standing slot number ticket log ↔
      ∃ before event since, log = before ++ event :: since ∧
        (∃ start delay, event = ⟨start, .schedule slot number ticket delay⟩) ∧
          ∀ later ∈ since, ¬later.Settles slot := by
    intro log
    constructor
    · rintro ⟨before, start, delay, since, split, still⟩
      exact ⟨before, _, since, split, ⟨start, delay, rfl⟩, still⟩
    · rintro ⟨before, event, since, split, ⟨start, delay, rfl⟩, still⟩
      exact ⟨before, start, delay, since, split, still⟩
  rw [shape, shape, since_concat]

theorem stopped_concat :
    Stopped slot number (log ++ [event]) ↔
      Stopped slot number log ∨
        event.Stops slot ∧ ∃ ticket, Standing slot number ticket log := by
  constructor
  · rintro ⟨before, stop, ticket, here, stops, standing⟩
    rcases List.prefix_concat_iff.1 here with all | earlier
    · obtain ⟨rfl, rfl⟩ := List.append_singleton_inj.1 all
      exact .inr ⟨stops, ticket, standing⟩
    · exact .inl ⟨before, stop, ticket, earlier, stops, standing⟩
  · rintro (⟨before, stop, ticket, here, stops, standing⟩ | ⟨stops, ticket, standing⟩)
    · exact ⟨before, stop, ticket, here.trans (List.prefix_append _ _), stops, standing⟩
    · exact ⟨log, event, ticket, List.prefix_rfl, stops, standing⟩

theorem stopped_kept (harmless : ¬event.Stops slot) :
    Stopped slot number (log ++ [event]) ↔ Stopped slot number log := by
  rw [stopped_concat]
  exact or_iff_left fun stopped => harmless stopped.1

theorem scheduled_concat {start delay : Nat} :
    Scheduled slot number ticket start delay (log ++ [event]) ↔
      Scheduled slot number ticket start delay log ∨
        event = ⟨start, .schedule slot number ticket delay⟩ := by
  simp only [Scheduled, List.mem_append, List.mem_singleton, eq_comm]

theorem scheduled_kept {start delay : Nat} (unsettled : ¬event.Settles slot) :
    Scheduled slot number ticket start delay (log ++ [event]) ↔
      Scheduled slot number ticket start delay log := by
  rw [scheduled_concat]
  refine or_iff_left ?_
  rintro rfl
  exact unsettled rfl

theorem standing_kept (unsettled : ¬event.Settles slot) :
    Standing slot number ticket (log ++ [event]) ↔ Standing slot number ticket log := by
  rw [standing_concat, and_iff_right unsettled]
  refine or_iff_right ?_
  rintro ⟨start, delay, rfl⟩
  exact unsettled rfl

theorem expired_concat :
    Expired slot number (log ++ [event]) ↔
      Expired slot number log ∨ ∃ time heard, event = ⟨time, .expire slot number heard⟩ := by
  simp only [Expired, List.mem_append, List.mem_singleton, exists_or, eq_comm]

end Settings

/-! ## Courses -/

/-- The desks that can come about from one of `size` empty slots, each with what happened. -/
inductive Course (size : Nat) : List Event → Desk → Prop
  | begin : Course size [] (.ofSize size)
  | schedule {log : List Event} {desk : Desk} {slot : Nat} {ledger : Ledger} (delay : Nat)
      (found : desk.slots[slot]? = some ledger) (course : Course size log desk) :
      Course size
        (log ++ [⟨desk.clock.now,
          .schedule slot ledger.issued.length ledger.slot.schedule.ticket delay⟩])
        { desk with
          clock := (desk.stop slot ledger).set delay (slot, ledger.issued.length)
          slots := desk.slots.set slot
            ⟨ledger.slot.schedule, ledger.issued ++ [ledger.slot.schedule.ticket]⟩ }
  | cancel {log : List Event} {desk : Desk} {slot : Nat} {ledger : Ledger}
      (found : desk.slots[slot]? = some ledger) (course : Course size log desk) :
      Course size (log ++ [⟨desk.clock.now, .cancel slot⟩])
        { desk with
          clock := desk.stop slot ledger
          slots := desk.slots.set slot ⟨ledger.slot.cancel, ledger.issued⟩ }
  | take {log : List Event} {desk : Desk} {slot number owner : Nat} {ledger : Ledger}
      {ticket : Ticket} (found : desk.slots[slot]? = some ledger)
      (handed : desk.ticket? owner number = some ticket) (course : Course size log desk) :
      Course size
        (log ++ [⟨desk.clock.now, .take slot number owner ticket (ledger.slot.take ticket).1⟩])
        { desk with
          slots := desk.slots.set slot ⟨(ledger.slot.take ticket).2, ledger.issued⟩ }
  | expire {log : List Event} {desk : Desk} {limit slot number : Nat} {after : Clock (Nat × Nat)}
      (fires : desk.clock.next? limit = some ((slot, number), after))
      (course : Course size log desk) :
      Course size (log ++ [⟨after.now, .expire slot number desk.listening⟩])
        { desk with clock := after }
  | pass {log : List Event} {desk : Desk} {time : Nat} (quiet : desk.clock.next? time = none)
      (course : Course size log desk) :
      Course size log { desk with clock := desk.clock.moveTo time }
  | read {log : List Event} {desk : Desk} (inbox : List (Nat × Nat)) (listening : Bool)
      (course : Course size log desk) : Course size log { desk with inbox, listening }

namespace Course

variable {size : Nat} {log : List Event} {desk : Desk}

/-- The timers due by a limit run out one after the other, until nothing more is due. -/
theorem drained (limit : Nat) (course : Course size log desk) :
    Course size (log ++ desk.ringing limit) { desk with clock := (desk.clock.drain limit).2 } ∧
      (desk.clock.drain limit).2.next? limit = none := by
  -- Every expiry takes one alarm away.
  generalize count : desk.clock.alarms.length = n
  induction n using Nat.strongRecOn generalizing log desk with
  | _ n ih =>
      unfold Desk.ringing
      cases next : desk.clock.next? limit with
      | none =>
          obtain ⟨silent, still⟩ := Clock.rings_none next
          rw [silent, still, List.map_nil, List.append_nil]
          exact ⟨course, next⟩
      | some fired =>
          obtain ⟨⟨slot, number⟩, after⟩ := fired
          obtain ⟨first, rest⟩ := Clock.rings_some next
          have shorter := Clock.next?_length next
          rw [first, rest, List.map_cons, List.append_cons]
          exact ih after.alarms.length (by omega) (course.expire next) rfl

theorem expired (limit : Nat) (course : Course size log desk) :
    Course size (log ++ desk.ringing limit) (desk.expire limit) ∧
      (desk.expire limit).clock.next? limit = none := by
  obtain ⟨drained, quiet⟩ := course.drained limit
  exact ⟨drained.read _ _, quiet⟩

theorem moved (move : Move) (course : Course size log desk) :
    Course size (log ++ desk.events move) (desk.moved move) := by
  cases move with
  | calm => exact (course.expired desk.clock.now).1
  | collect =>
      unfold Desk.events
      rw [List.append_nil]
      exact course.read [] desk.listening
  | command command =>
      cases command with
      | schedule slot delay =>
          cases found : desk.slots[slot]? with
          | none => simpa [Desk.events, Desk.moved, Desk.act, found] using course
          | some ledger =>
              rw [Desk.events_schedule found]
              simpa [Desk.moved, Desk.act, found] using course.schedule delay found
      | cancel slot =>
          cases found : desk.slots[slot]? with
          | none => simpa [Desk.events, Desk.moved, Desk.act, found] using course
          | some ledger =>
              rw [Desk.events_cancel found]
              simpa [Desk.moved, Desk.act, found] using course.cancel found
      | take slot number owner =>
          cases found : desk.slots[slot]? with
          | none => simpa [Desk.events, Desk.moved, Desk.act, found] using course
          | some ledger =>
              cases handed : desk.ticket? owner number with
              | none =>
                  have unknown := handed
                  unfold Desk.ticket? at unknown
                  simpa [Desk.events, Desk.moved, Desk.act, found, unknown] using course
              | some ticket =>
                  have known := handed
                  unfold Desk.ticket? at known
                  rw [Desk.events_take found handed]
                  simpa [Desk.moved, Desk.act, found, known] using course.take found handed
      | advance ms =>
          obtain ⟨expired, quiet⟩ := course.expired (desk.clock.now + ms)
          exact expired.pass quiet
      | dropReceiver =>
          unfold Desk.events
          rw [List.append_nil]
          exact course.read desk.inbox false

/-- No slot comes or goes. -/
theorem slots_length (course : Course size log desk) : desk.slots.length = size := by
  induction course with
  | begin => exact List.length_replicate
  | schedule _ _ _ ih | cancel _ _ ih | take _ _ _ ih => exact List.length_set.trans ih
  | expire _ _ ih | pass _ _ ih | read _ _ _ ih => exact ih

theorem found (course : Course size log desk) {slot : Nat} (inside : slot < size) :
    ∃ ledger, desk.slots[slot]? = some ledger :=
  ⟨_, List.getElem?_eq_getElem (course.slots_length.symm ▸ inside)⟩

theorem scheduled_slot (course : Course size log desk) {slot number start delay : Nat}
    {ticket : Ticket} (scheduled : Scheduled slot number ticket start delay log) : slot < size := by
  induction course with
  | begin => exact (List.not_mem_nil scheduled).elim
  | schedule _ found course ih =>
      rcases scheduled_concat.1 scheduled with earlier | last
      · exact ih earlier
      · cases last
        exact course.slots_length ▸ (List.getElem?_eq_some_iff.1 found).1
  | cancel _ _ ih | take _ _ _ ih | expire _ _ ih =>
      rcases scheduled_concat.1 scheduled with earlier | last
      · exact ih earlier
      · cases last
  | pass _ _ ih | read _ _ _ ih => exact ih scheduled

end Course

/-- Every run of moves is a course. -/
theorem course_past (size : Nat) (moves : List Move) :
    Course size ((Desk.ofSize size).past moves) ((Desk.ofSize size).reached moves) := by
  suffices all : ∀ log desk, Course size log desk →
      Course size (log ++ desk.past moves) (desk.reached moves) from all [] _ .begin
  induction moves with
  | nil =>
      intro log desk course
      unfold Desk.past
      rw [List.append_nil]
      exact course
  | cons move moves ih =>
      intro log desk course
      unfold Desk.past
      rw [← List.append_assoc]
      exact ih _ _ (course.moved move)

/-! ## The inbox -/

def Event.delivery? : Event → Option (Nat × Nat)
  | ⟨_, .expire slot number true⟩ => some (slot, number)
  | _ => none

theorem delivered_ringing (desk : Desk) (limit : Nat) :
    (desk.expire limit).inbox = desk.inbox ++ (desk.ringing limit).filterMap Event.delivery? := by
  unfold Desk.expire Desk.ringing
  simp only [Clock.drain_fst]
  cases desk.listening with
  | false => simp [Event.delivery?, List.filterMap_map, Function.comp_def]
  | true => simp [Event.delivery?, List.filterMap_map, Function.comp_def]

/-- Only expiries and a look at it change the inbox. -/
theorem inbox_act (desk : Desk) (command : Desk.Command) :
    (desk.act command).1.inbox =
      desk.inbox ++ (desk.events (.command command)).filterMap Event.delivery? := by
  unfold Desk.events
  cases command with
  | schedule slot delay =>
      cases found : desk.slots[slot]? with
      | none => simp [Desk.act, found]
      | some ledger =>
          simp only [Desk.act, found]
          cases Desk.ticket? _ slot _ <;> simp [Event.delivery?]
  | cancel slot =>
      cases found : desk.slots[slot]? <;> simp [Desk.act, found, Event.delivery?]
  | take slot number owner =>
      cases found : desk.slots[slot]? with
      | none => simp [Desk.act, found]
      | some ledger =>
          cases handed : (desk.slots[owner]?).bind (·.issued[number]?) <;>
            simp [Desk.act, Desk.ticket?, found, handed, Event.delivery?]
  | advance ms => exact delivered_ringing desk _
  | dropReceiver => simp [Desk.act]

theorem received_eq (desk : Desk) (moves : List Move) :
    desk.received moves = desk.inbox ++ (desk.past moves).filterMap Event.delivery? := by
  induction moves generalizing desk with
  | nil => simp [Desk.received, Desk.past]
  | cons move moves ih =>
      unfold Desk.past
      rw [List.filterMap_append, ← List.append_assoc]
      cases move with
      | command command =>
          unfold Desk.received Desk.moved
          rw [ih, inbox_act]
      | calm =>
          unfold Desk.received Desk.moved
          rw [ih, delivered_ringing]
          rfl
      | collect =>
          unfold Desk.received Desk.moved Desk.events
          rw [ih, List.filterMap_nil, List.append_nil]
          rfl

/-- An expiry is heard if the inbox is read at the time. -/
theorem heard_events {desk : Desk} {move : Move} {time slot number : Nat} {heard : Bool}
    (expired : ⟨time, .expire slot number heard⟩ ∈ desk.events move) : heard = desk.listening := by
  have rung : ∀ limit, ⟨time, .expire slot number heard⟩ ∈ desk.ringing limit →
      heard = desk.listening := by
    intro limit member
    obtain ⟨ring, -, same⟩ := List.mem_map.1 member
    cases same
    rfl
  unfold Desk.events at expired
  split at expired
  · split at expired
    · obtain ⟨ticket, -, same⟩ := List.mem_map.1 expired
      cases same
    · cases expired
  · split at expired
    · cases List.mem_singleton.1 expired
    · cases expired
  · split at expired
    · cases List.mem_singleton.1 expired
    · cases expired
  · exact rung _ expired
  · exact rung _ expired
  · cases expired
  · cases expired

theorem Desk.listening_moved (desk : Desk) {move : Move} (kept : move ≠ .command .dropReceiver) :
    (desk.moved move).listening = desk.listening := by
  cases move with
  | calm => rfl
  | collect => rfl
  | command command =>
      unfold Desk.moved Desk.act
      cases command with
      | schedule slot delay => dsimp only; split <;> rfl
      | cancel slot => dsimp only; split <;> rfl
      | take slot number owner => dsimp only; split <;> rfl
      | advance ms => rfl
      | dropReceiver => exact absurd rfl kept

/-- As long as somebody reads the inbox, every expiry is heard. -/
theorem heard_past {desk : Desk} {moves : List Move} (listening : desk.listening = true)
    (kept : .command .dropReceiver ∉ moves) {time slot number : Nat} {heard : Bool}
    (expired : ⟨time, .expire slot number heard⟩ ∈ desk.past moves) : heard = true := by
  induction moves generalizing desk with
  | nil => cases expired
  | cons move moves ih =>
      have other : move ≠ .command .dropReceiver := by
        rintro rfl
        exact kept List.mem_cons_self
      have still := (desk.listening_moved other).trans listening
      rcases List.mem_append.1 expired with now | later
      · exact (heard_events now).trans listening
      · exact ih still (fun member => kept (List.mem_cons_of_mem _ member)) later

end Tether.Timer
