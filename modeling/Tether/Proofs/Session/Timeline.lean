/-
# Tether.Proofs.Session.Timeline -- the life of a session on a clock

A scene is a session together with a clock, on which the alarms of its timers stand, and an
inbox.  Anything but an expiry can arrive at any time, in any order.  The first input in the
inbox is handled, and the clock obeys the effects.  An alarm that is due rings: its expiry
arrives.  Time passes while the inbox is empty, and up to the next alarm at most, so that it
takes no time to handle what has arrived.  Among several alarms that are due any can ring
first.

A timeline is a life with the time of each beat, as the clock allows it.  The expiries in a
timeline are those of timers that were started, and each comes in time (`Timely`).

* `Timeline.life` -- a timeline is a life.
* `Timeline.timely` -- an expiry is handled when its timer has run for the delay, no later.
* `Timeline.due` -- time does not pass a timer that was started and is not over.
-/
import Tether.Proofs.Alarms
import Tether.Proofs.Session.Stale

set_option autoImplicit false

namespace Tether

/-! ## What is over stays over -/

section Over

variable {log more : List Entry}

theorem Over.mono {errand : Errand} {number : Nat} (finished : Over log errand number)
    (more : List Entry) : Over (log ++ more) errand number := by
  obtain ⟨begun, ended, begins, ends, order⟩ := finished
  exact ⟨begun, ended, begins, ends, order.trans (List.sublist_append_left ..)⟩

/-- A timer is over once it was started and its end was noted after. -/
theorem over_append {timer : SessionTimer} {ticket : Ticket} {delay : Nat} {ended : Entry}
    (before : .asked (.start timer ticket delay) ∈ log) (after : ended ∈ more)
    (ends : ended.Ends (.timer timer) ticket.generation) :
    Over (log ++ more) (.timer timer) ticket.generation :=
  ⟨.asked (.start timer ticket delay), ended, ⟨rfl, rfl⟩, ends,
    (List.singleton_sublist.2 before).append (List.singleton_sublist.2 after)⟩

end Over

/-! ## Timelines -/

namespace Session

/-- A session, a clock with the alarms of its timers, and the inputs that wait for it. -/
structure Scene where
  session : Session := {}
  clock : Clock (SessionTimer × Ticket) := {}
  inbox : List Input := []

structure Moment where
  time : Nat
  beat : Beat

def obey (clock : Clock (SessionTimer × Ticket)) : Effect → Clock (SessionTimer × Ticket)
  | .start timer ticket delay => clock.set delay (timer, ticket)
  | .stop timer ticket => clock.cancel fun tag => tag == (timer, ticket)
  | _ => clock

def beats (line : List Moment) : List Beat := line.map Moment.beat

/-- The lines of moments that a clock allows, with the scenes they lead to. -/
inductive Timeline (config : SessionConfig) : List Moment → Scene → Prop
  | dawn : Timeline config [] {}
  /-- Anything but an expiry arrives. -/
  | arrive {past : List Moment} {scene : Scene} (line : Timeline config past scene) (input : Input)
      (outside : ∀ timer ticket, input ≠ .expired timer ticket) :
      Timeline config past { scene with inbox := scene.inbox ++ [input] }
  /-- The input that waited longest is handled. -/
  | handle {past : List Moment} {scene : Scene} (line : Timeline config past scene) (turn : Turn)
      {rest : List Input} (first : scene.inbox = turn.input :: rest) :
      Timeline config (past ++ [⟨scene.clock.now, scene.session.beat config turn⟩])
        { session := (scene.session.beat config turn).after
          clock := (scene.session.beat config turn).effects.foldl obey scene.clock
          inbox := rest }
  /-- An alarm that is due rings. -/
  | ring {past : List Moment} {scene : Scene} (line : Timeline config past scene)
      {first rest : List (Nat × SessionTimer × Ticket)} {due : Nat} {timer : SessionTimer}
      {ticket : Ticket} (alarms : scene.clock.alarms = first ++ (due, timer, ticket) :: rest)
      (reached : due ≤ scene.clock.now) :
      Timeline config past
        { scene with
          clock := { scene.clock with alarms := first ++ rest }
          inbox := scene.inbox ++ [.expired timer ticket] }
  /-- Time passes. -/
  | wait {past : List Moment} {scene : Scene} (line : Timeline config past scene) (time : Nat)
      (idle : scene.inbox = []) (later : scene.clock.now ≤ time)
      (alarms : ∀ alarm ∈ scene.clock.alarms, time ≤ alarm.1) :
      Timeline config past { scene with clock := { scene.clock with now := time } }

/-- All that can happen now has happened. -/
def Scene.Calm (scene : Scene) : Prop :=
  scene.inbox = [] ∧ ∀ alarm ∈ scene.clock.alarms, scene.clock.now < alarm.1

/-- A timeline is a life. -/
theorem Timeline.life {config : SessionConfig} {past : List Moment} {scene : Scene}
    (line : Timeline config past scene) : Life config (beats past) scene.session := by
  induction line with
  | dawn => exact .fresh
  | handle line turn first ih =>
      rw [beats, List.map_append]
      exact ih.beat turn
  | arrive => assumption
  | ring => assumption
  | wait => assumption

/-! ## The clock obeys -/

section Obey

variable {clock : Clock (SessionTimer × Ticket)} {effects : List Effect}
  {alarm : Nat × SessionTimer × Ticket}

theorem obey_now (clock : Clock (SessionTimer × Ticket)) (effect : Effect) :
    (obey clock effect).now = clock.now := by
  cases effect with
  | start timer ticket delay => exact clock.set_now delay (timer, ticket)
  | _ => rfl

/-- Effects take no time. -/
theorem foldl_obey_now (clock : Clock (SessionTimer × Ticket)) (effects : List Effect) :
    (effects.foldl obey clock).now = clock.now := by
  induction effects generalizing clock with
  | nil => rfl
  | cons effect effects ih => exact (ih _).trans (obey_now clock effect)

/-- An alarm stays on the clock, unless it is stopped. -/
theorem mem_obey {effect : Effect} (member : alarm ∈ clock.alarms)
    (kept : effect ≠ .stop alarm.2.1 alarm.2.2) : alarm ∈ (obey clock effect).alarms := by
  cases effect with
  | start timer ticket delay => exact clock.mem_set.2 (.inl member)
  | stop timer ticket =>
      refine clock.mem_cancel.2 ⟨member, beq_eq_false_iff_ne.2 fun same => kept ?_⟩
      rw [same]
  | _ => exact member

theorem mem_foldl_obey (member : alarm ∈ clock.alarms)
    (kept : .stop alarm.2.1 alarm.2.2 ∉ effects) :
    alarm ∈ (effects.foldl obey clock).alarms := by
  induction effects generalizing clock with
  | nil => exact member
  | cons effect effects ih =>
      have other : effect ≠ .stop alarm.2.1 alarm.2.2 := by
        rintro rfl
        exact kept (List.mem_cons_self ..)
      exact ih (mem_obey member other) fun later => kept (List.mem_cons_of_mem _ later)

/-- A timer that is started and not stopped after has its alarm on the clock. -/
theorem mem_of_start {first rest : List Effect} {timer : SessionTimer} {ticket : Ticket}
    {delay : Nat} (finite : delay < Clock.never) (kept : .stop timer ticket ∉ rest) :
    (clock.now + delay, timer, ticket) ∈
      ((first ++ .start timer ticket delay :: rest).foldl obey clock).alarms := by
  rw [List.foldl_append, List.foldl_cons]
  refine mem_foldl_obey ((Clock.mem_set _).2 (.inr ⟨finite, ?_⟩)) kept
  rw [foldl_obey_now]

/-- Every alarm on the clock was there, or its timer was started now. -/
theorem origin_of_mem (member : alarm ∈ (effects.foldl obey clock).alarms) :
    alarm ∈ clock.alarms ∨
      ∃ delay, .start alarm.2.1 alarm.2.2 delay ∈ effects ∧ alarm.1 = clock.now + delay := by
  induction effects generalizing clock with
  | nil => exact .inl member
  | cons effect effects ih =>
      rcases ih member with before | ⟨delay, started, due⟩
      · cases effect with
        | start timer ticket delay =>
            refine (clock.mem_set.1 before).imp id ?_
            rintro ⟨-, rfl⟩
            exact ⟨delay, List.mem_cons_self .., rfl⟩
        | stop timer ticket => exact .inl (clock.mem_cancel.1 before).1
        | _ => exact .inl before
      · rw [obey_now] at due
        exact .inr ⟨delay, List.mem_cons_of_mem _ started, due⟩

end Obey

/-! ## The order of moments -/

section Order

variable {config : SessionConfig} {line : List Moment} {scene : Scene}

/-- No moment is later than the present. -/
theorem Timeline.elapsed (timeline : Timeline config line scene) :
    ∀ moment ∈ line, moment.time ≤ scene.clock.now := by
  induction timeline with
  | dawn => exact fun _ member => (List.not_mem_nil member).elim
  | arrive _ _ _ ih => exact ih
  | ring _ _ _ ih => exact ih
  | wait _ _ _ later _ ih => exact fun moment member => Nat.le_trans (ih moment member) later
  | handle _ turn first ih =>
      intro moment member
      show moment.time ≤ (List.foldl obey _ _).now
      rw [foldl_obey_now]
      rcases List.mem_append.1 member with old | new
      · exact ih moment old
      · obtain rfl := List.mem_singleton.1 new
        exact Nat.le_refl _

/-- No moment is later than the moments after it. -/
theorem Timeline.ordered (timeline : Timeline config line scene) :
    line.Pairwise fun earlier later => earlier.time ≤ later.time := by
  induction timeline with
  | dawn => exact .nil
  | arrive | ring | wait => assumption
  | handle line turn first ih =>
      refine List.pairwise_append.2 ⟨ih, List.pairwise_singleton .., ?_⟩
      intro earlier member later same
      obtain rfl := List.mem_singleton.1 same
      exact line.elapsed earlier member

/-- The moments of a line of beats. -/
theorem beats_split {earlier quiet : List Beat} {last : Beat}
    (split : beats line = earlier ++ last :: quiet) :
    ∃ before moment after, line = before ++ moment :: after ∧ beats before = earlier ∧
      moment.beat = last ∧ beats after = quiet := by
  obtain ⟨before, others, rfl, first, rest⟩ := List.map_eq_append_iff.1 split
  obtain ⟨moment, after, rfl, same, later⟩ := List.map_eq_cons_iff.1 rest
  exact ⟨before, moment, after, rfl, first, same, later⟩

end Order

/-! ## Expiries come in time -/

/-- A timer was started so as to run out at `due`. -/
def Begun (past : List Moment) (timer : SessionTimer) (ticket : Ticket) (due : Nat) : Prop :=
  ∃ moment ∈ past, ∃ delay, .start timer ticket delay ∈ moment.beat.effects ∧
    due = moment.time + delay

theorem Begun.append {past : List Moment} {timer : SessionTimer} {ticket : Ticket} {due : Nat}
    (begun : Begun past timer ticket due) (more : List Moment) :
    Begun (past ++ more) timer ticket due := by
  obtain ⟨moment, member, how⟩ := begun
  exact ⟨moment, List.mem_append_left _ member, how⟩

/-- Every expiry is handled at the time for which its timer was set. -/
def Handled (past : List Moment) : Prop :=
  ∀ first moment rest, past = first ++ moment :: rest → ∀ timer ticket,
    moment.beat.turn.input = .expired timer ticket → Begun first timer ticket moment.time

theorem Handled.earlier {past more : List Moment} (handled : Handled (past ++ more)) :
    Handled past := by
  rintro first moment rest rfl
  exact handled first moment (rest ++ more) (by simp)

/-- The clock and the inbox, against the timers that were started. -/
structure Timely (past : List Moment) (scene : Scene) : Prop where
  ahead : ∀ alarm ∈ scene.clock.alarms, scene.clock.now ≤ alarm.1
  set : ∀ alarm ∈ scene.clock.alarms, Begun past alarm.2.1 alarm.2.2 alarm.1
  arrived : ∀ timer ticket, .expired timer ticket ∈ scene.inbox →
    Begun past timer ticket scene.clock.now
  handled : Handled past
  pending : ∀ moment ∈ past, ∀ timer ticket delay,
    .start timer ticket delay ∈ moment.beat.effects → delay < Clock.never →
      Over (log (beats past)) (.timer timer) ticket.generation ∨
        (moment.time + delay, timer, ticket) ∈ scene.clock.alarms ∨
          .expired timer ticket ∈ scene.inbox ∧ scene.clock.now = moment.time + delay

/-! ### Every step keeps to the times -/

section Steps

variable {past : List Moment} {scene : Scene}

/-- A timer that was started is in the log. -/
theorem start_mem_log {moment : Moment} {timer : SessionTimer} {ticket : Ticket} {delay : Nat}
    (member : moment ∈ past) (started : .start timer ticket delay ∈ moment.beat.effects) :
    .asked (.start timer ticket delay) ∈ log (beats past) := by
  refine List.mem_flatMap.2 ⟨moment.beat, List.mem_map_of_mem member, ?_⟩
  exact List.mem_cons_of_mem _ (List.mem_map_of_mem started)

theorem Timely.arrive (timely : Timely past scene) {input : Input}
    (outside : ∀ timer ticket, input ≠ .expired timer ticket) :
    Timely past { scene with inbox := scene.inbox ++ [input] } := by
  refine { timely with arrived := ?_, pending := ?_ }
  · intro timer ticket member
    refine timely.arrived timer ticket ((List.mem_append.1 member).resolve_right ?_)
    intro new
    exact outside timer ticket (List.mem_singleton.1 new).symm
  · intro moment member timer ticket delay started finite
    refine (timely.pending moment member timer ticket delay started finite).imp_right ?_
    exact Or.imp_right fun ⟨waits, due⟩ => ⟨List.mem_append_left _ waits, due⟩

theorem Timely.ring (timely : Timely past scene) {first rest : List (Nat × SessionTimer × Ticket)}
    {due : Nat} {timer : SessionTimer} {ticket : Ticket}
    (alarms : scene.clock.alarms = first ++ (due, timer, ticket) :: rest)
    (reached : due ≤ scene.clock.now) :
    Timely past
      { scene with
        clock := { scene.clock with alarms := first ++ rest }
        inbox := scene.inbox ++ [.expired timer ticket] } := by
  have here : (due, timer, ticket) ∈ scene.clock.alarms := by simp [alarms]
  have still : ∀ alarm ∈ first ++ rest, alarm ∈ scene.clock.alarms := by
    intro alarm member
    rw [alarms]
    rcases List.mem_append.1 member with before | after
    · exact List.mem_append_left _ before
    · exact List.mem_append_right _ (List.mem_cons_of_mem _ after)
  have now : scene.clock.now = due := Nat.le_antisymm (timely.ahead _ here) reached
  refine ⟨fun alarm member => timely.ahead alarm (still alarm member),
    fun alarm member => timely.set alarm (still alarm member), ?_, timely.handled, ?_⟩
  · intro other number member
    rcases List.mem_append.1 member with old | new
    · exact timely.arrived other number old
    · obtain ⟨rfl, rfl⟩ := Input.expired.inj (List.mem_singleton.1 new)
      show Begun past other number scene.clock.now
      rw [now]
      exact timely.set _ here
  · intro moment member other number delay started finite
    rcases timely.pending moment member other number delay started finite with
      ended | waits | ⟨arrived, time⟩
    · exact .inl ended
    · rw [alarms] at waits
      rcases List.mem_append.1 waits with before | after
      · exact .inr (.inl (List.mem_append_left _ before))
      · rcases List.mem_cons.1 after with same | after
        · obtain ⟨rfl, rfl, rfl⟩ := same
          exact .inr (.inr ⟨List.mem_append_right _ (List.mem_singleton_self _), now⟩)
        · exact .inr (.inl (List.mem_append_right _ after))
    · exact .inr (.inr ⟨List.mem_append_left _ arrived, time⟩)

theorem Timely.wait (timely : Timely past scene) {time : Nat} (idle : scene.inbox = [])
    (alarms : ∀ alarm ∈ scene.clock.alarms, time ≤ alarm.1) :
    Timely past { scene with clock := { scene.clock with now := time } } := by
  refine { timely with ahead := alarms, arrived := ?_, pending := ?_ }
  · intro timer ticket member
    rw [idle] at member
    cases member
  · intro moment member timer ticket delay started finite
    refine (timely.pending moment member timer ticket delay started finite).imp_right ?_
    refine Or.imp_right fun ⟨waits, _⟩ => ?_
    rw [idle] at waits
    cases waits

/-- The log of a line with one moment more. -/
theorem log_beats_concat (past : List Moment) (moment : Moment) :
    log (beats (past ++ [moment])) =
      log (beats past) ++
        (.taken moment.beat.turn.input :: moment.beat.effects.map Entry.asked) := by
  rw [beats, List.map_append]
  exact (log_concat _ _).trans (List.append_assoc ..)

/-- What a moment starts has its alarm, or is called off in the same moment. -/
theorem set_or_over {moment : Moment} {clock : Clock (SessionTimer × Ticket)}
    {timer : SessionTimer} {ticket : Ticket} {delay : Nat}
    (started : .start timer ticket delay ∈ moment.beat.effects) (finite : delay < Clock.never) :
    Over (log (beats (past ++ [moment]))) (.timer timer) ticket.generation ∨
      (clock.now + delay, timer, ticket) ∈ (moment.beat.effects.foldl obey clock).alarms := by
  obtain ⟨before, after, split⟩ := List.append_of_mem started
  rw [split]
  by_cases stopped : .stop timer ticket ∈ after
  · left
    rw [log_beats_concat, split, List.map_append, List.map_cons, ← List.cons_append,
      List.append_cons _ (Entry.asked _), ← List.append_assoc]
    have here : Entry.asked (.start timer ticket delay) ∈ log (beats past) ++
        (.taken moment.beat.turn.input :: before.map Entry.asked ++
          [.asked (.start timer ticket delay)]) := by simp
    exact over_append here (List.mem_map_of_mem stopped) ⟨rfl, rfl⟩
  · exact .inr (mem_of_start finite stopped)

/-- What was started earlier keeps its alarm or waits in the inbox, unless it is called off or
its expiry is handled. -/
theorem Timely.kept (timely : Timely past scene) {input : Input} {rest : List Input}
    (first : scene.inbox = input :: rest) {moment next : Moment} (member : moment ∈ past)
    (handles : next.beat.turn.input = input) {timer : SessionTimer} {ticket : Ticket} {delay : Nat}
    (started : .start timer ticket delay ∈ moment.beat.effects) (finite : delay < Clock.never) :
    Over (log (beats (past ++ [next]))) (.timer timer) ticket.generation ∨
      (moment.time + delay, timer, ticket) ∈ (next.beat.effects.foldl obey scene.clock).alarms ∨
        .expired timer ticket ∈ rest ∧ scene.clock.now = moment.time + delay := by
  have begun := start_mem_log member started
  rw [log_beats_concat]
  rcases timely.pending moment member timer ticket delay started finite with
    ended | waits | ⟨arrived, time⟩
  · exact .inl (ended.mono _)
  · by_cases stopped : .stop timer ticket ∈ next.beat.effects
    · have ended := List.mem_cons_of_mem (.taken next.beat.turn.input)
        (List.mem_map_of_mem (f := Entry.asked) stopped)
      exact .inl (over_append begun ended ⟨rfl, rfl⟩)
    · exact .inr (.inl (mem_foldl_obey waits stopped))
  · rw [first] at arrived
    rcases List.mem_cons.1 arrived with here | later
    · refine .inl (over_append begun (List.mem_cons_self ..) ?_)
      rw [handles, ← here]
      rfl
    · exact .inr (.inr ⟨later, time⟩)

theorem Timely.handle (timely : Timely past scene) {config : SessionConfig} {turn : Turn}
    {rest : List Input} (first : scene.inbox = turn.input :: rest) :
    Timely (past ++ [⟨scene.clock.now, scene.session.beat config turn⟩])
      { session := (scene.session.beat config turn).after
        clock := (scene.session.beat config turn).effects.foldl obey scene.clock
        inbox := rest } := by
  have now := foldl_obey_now scene.clock (scene.session.beat config turn).effects
  refine ⟨?_, ?_, ?_, ?_, ?_⟩
  · intro alarm member
    show (List.foldl obey _ _).now ≤ alarm.1
    rw [now]
    rcases origin_of_mem member with old | ⟨delay, -, due⟩
    · exact timely.ahead alarm old
    · rw [due]
      exact Nat.le_add_right ..
  · intro alarm member
    rcases origin_of_mem member with old | ⟨delay, started, due⟩
    · exact (timely.set alarm old).append _
    · exact ⟨_, List.mem_append_right _ (List.mem_singleton_self _), delay, started, due⟩
  · intro timer ticket member
    show Begun _ timer ticket (List.foldl obey _ _).now
    rw [now]
    refine (timely.arrived timer ticket ?_).append _
    rw [first]
    exact List.mem_cons_of_mem _ member
  · intro before moment after split timer ticket expired
    rcases split_append split with ⟨middle, rfl, new⟩ | ⟨middle, old, -⟩
    · cases middle with
      | nil =>
          obtain ⟨rfl, -⟩ := List.cons.inj new
          rw [List.append_nil]
          refine timely.arrived timer ticket ?_
          rw [first, ← expired]
          exact List.mem_cons_self ..
      | cons head tail => simp at new
    · exact timely.handled before moment middle old timer ticket expired
  · intro moment member timer ticket delay started finite
    show Over _ _ _ ∨ _ ∨ _ ∧ (List.foldl obey _ _).now = _
    rw [now]
    rcases List.mem_append.1 member with old | new
    · exact timely.kept first old rfl started finite
    · obtain rfl := List.mem_singleton.1 new
      exact (set_or_over started finite).imp_right .inl

end Steps

/-- **Every timeline keeps to the times.** -/
theorem Timeline.timely {config : SessionConfig} {past : List Moment} {scene : Scene}
    (line : Timeline config past scene) : Timely past scene := by
  induction line with
  | dawn =>
      refine ⟨?_, ?_, ?_, ?_, ?_⟩
      · exact fun _ member => (List.not_mem_nil member).elim
      · exact fun _ member => (List.not_mem_nil member).elim
      · exact fun _ _ member => (List.not_mem_nil member).elim
      · intro first moment rest split
        cases first <;> cases split
      · exact fun _ member => (List.not_mem_nil member).elim
  | arrive _ _ outside ih => exact ih.arrive outside
  | handle _ turn first ih => exact ih.handle first
  | ring _ alarms reached ih => exact ih.ring alarms reached
  | wait _ _ idle _ alarms ih => exact ih.wait idle alarms

/-- Time does not pass a timer that was started and is not over: when it is due its expiry comes,
and once all is calm it is still to come. -/
theorem Timeline.due {config : SessionConfig} {past : List Moment} {scene : Scene}
    (line : Timeline config past scene) {moment : Moment} (member : moment ∈ past)
    {timer : SessionTimer} {ticket : Ticket} {delay : Nat}
    (started : .start timer ticket delay ∈ moment.beat.effects) (finite : delay < Clock.never)
    (runs : ¬Over (log (beats past)) (.timer timer) ticket.generation) :
    scene.clock.now ≤ moment.time + delay ∧
      (scene.Calm → scene.clock.now < moment.time + delay) := by
  have timely := line.timely
  rcases (timely.pending moment member timer ticket delay started finite).resolve_left runs with
    waits | ⟨arrived, time⟩
  · exact ⟨timely.ahead _ waits, fun calm => calm.2 _ waits⟩
  · refine ⟨Nat.le_of_eq time, fun calm => ?_⟩
    rw [calm.1] at arrived
    cases arrived

end Session

end Tether
