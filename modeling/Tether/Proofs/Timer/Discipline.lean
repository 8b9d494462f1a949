/-
# Tether.Proofs.Timer.Discipline -- each timer runs out once, on time, and is claimed once

A slot knows its generation and whether a timer is pending, and the clock knows the alarms.  The
two are changed separately, and an expiry may be in the inbox while its slot is set anew.  Both
agree at any time with what happened so far:

* a slot is pending while its latest setting stands, and its generation is that of the setting
  (`LedgerKept`);
* the alarms are the settings that neither ran out nor were stopped (`AlarmsKept`).

From that the next event is one that is `Allowed`, so every event fits those before it (`Sound`),
and what is known of tickets and expiries follows from the past alone.

* `Sound.scheduled_unique`, `Sound.settled` -- numbers and tickets are of one setting each, and
  what was claimed, replaced or cancelled stands no longer.
* `mem_stop` -- a slot that is set anew or cancelled stops the timer that stands, and no other.
* `Course.kept` -- a desk agrees with what happened at it.
* `slots_disciplined` -- how timers run out and are claimed.
-/
import Mathlib.Data.List.Induction
import Mathlib.Data.List.Nodup
import Tether.Proofs.Timer.Events

set_option autoImplicit false

namespace Tether.Timer

/-! ## What an event may be -/

/-- What the slots and their timers allow after what happened before. -/
def Allowed (before : List Event) : Event → Prop
  | ⟨_, .schedule slot number ticket _⟩ =>
      ∀ earlier older start delay, Scheduled slot earlier older start delay before →
        earlier < number ∧ older.generation < ticket.generation
  | ⟨_, .cancel _⟩ => True
  | ⟨_, .take slot number owner ticket claimed⟩ =>
      (∃ start delay, Scheduled owner number ticket start delay before) ∧
        (claimed = true ↔ ∃ current, Standing slot current ticket before)
  | ⟨time, .expire slot number _⟩ =>
      (∃ ticket start delay, Scheduled slot number ticket start delay before ∧
        time = start + delay) ∧ ¬Expired slot number before ∧ ¬Stopped slot number before

def Fits (before : List Event) (event : Event) : Prop :=
  (∀ earlier ∈ before, earlier.time ≤ event.time) ∧ Allowed before event

def Sound (log : List Event) : Prop :=
  ∀ before event, before ++ [event] <+: log → Fits before event

section Sound

variable {log : List Event} {event : Event} {slot number : Nat} {ticket : Ticket}

theorem sound_concat (sound : Sound log) (fits : Fits log event) : Sound (log ++ [event]) := by
  intro before other here
  rcases List.prefix_concat_iff.1 here with all | earlier
  · obtain ⟨rfl, rfl⟩ := List.append_singleton_inj.1 all
    exact fits
  · exact sound before other earlier

theorem Sound.upTo (sound : Sound log) {earlier : List Event} (here : earlier <+: log) :
    Sound earlier :=
  fun before event within => sound before event (within.trans here)

theorem sound_init (sound : Sound (log ++ [event])) : Sound log :=
  sound.upTo (List.prefix_append _ _)

theorem sound_last (sound : Sound (log ++ [event])) : Fits log event :=
  sound log event List.prefix_rfl

theorem Sound.ordered (sound : Sound log) :
    log.Pairwise fun earlier later => earlier.time ≤ later.time := by
  induction log using List.reverseRecOn with
  | nil => exact .nil
  | append_singleton log event ih =>
      refine List.pairwise_append.2 ⟨ih (sound_init sound), List.pairwise_singleton _ _, ?_⟩
      intro earlier member later last
      rw [List.mem_singleton.1 last]
      exact (sound_last sound).1 earlier member

theorem Sound.fits (sound : Sound log) (member : event ∈ log) :
    ∃ before, before ++ [event] <+: log ∧ Fits before event := by
  obtain ⟨before, after, rfl⟩ := List.append_of_mem member
  have here : before ++ [event] <+: before ++ event :: after := ⟨after, by simp⟩
  exact ⟨before, here, sound before event here⟩

/-- A number belongs to one setting of its slot, and so does a ticket. -/
theorem Sound.scheduled_unique (sound : Sound log) {other : Nat} {another : Ticket}
    {start delay start' delay' : Nat}
    (one : Scheduled slot number ticket start delay log)
    (two : Scheduled slot other another start' delay' log)
    (same : number = other ∨ ticket = another) :
    number = other ∧ ticket = another ∧ start = start' ∧ delay = delay' := by
  induction log using List.reverseRecOn with
  | nil => exact (List.not_mem_nil one).elim
  | append_singleton log event ih =>
      obtain ⟨-, fits⟩ := sound_last sound
      rcases scheduled_concat.1 one with earlier | rfl
      · rcases scheduled_concat.1 two with also | rfl
        · exact ih (sound_init sound) earlier also
        · obtain ⟨fewer, older⟩ := fits _ _ _ _ earlier
          rcases same with rfl | rfl
          · exact absurd fewer (Nat.lt_irrefl _)
          · exact absurd older (Nat.lt_irrefl _)
      · rcases scheduled_concat.1 two with earlier | equal
        · obtain ⟨fewer, older⟩ := fits _ _ _ _ earlier
          rcases same with rfl | rfl
          · exact absurd fewer (Nat.lt_irrefl _)
          · exact absurd older (Nat.lt_irrefl _)
        · cases equal
          exact ⟨rfl, rfl, rfl, rfl⟩

theorem Sound.expired (sound : Sound log) (expired : Expired slot number log) :
    ∃ ticket start delay, Scheduled slot number ticket start delay log := by
  obtain ⟨time, heard, member⟩ := expired
  obtain ⟨before, here, -, ⟨ticket, start, delay, scheduled, -⟩, -⟩ := sound.fits member
  have within : before ⊆ log := ((List.prefix_append _ _).trans here).subset
  exact ⟨ticket, start, delay, within scheduled⟩

theorem stopped_scheduled (stopped : Stopped slot number log) :
    ∃ ticket start delay, Scheduled slot number ticket start delay log := by
  obtain ⟨before, stop, ticket, here, -, standing⟩ := stopped
  obtain ⟨start, delay, scheduled⟩ := standing_scheduled standing
  have within : before ⊆ log := ((List.prefix_append _ _).trans here).subset
  exact ⟨ticket, start, delay, within scheduled⟩

/-- A setting whose slot was settled while it stood stands no longer. -/
theorem Sound.settled (sound : Sound log) {before : List Event} (here : before ++ [event] <+: log)
    (settles : event.Settles slot) (standing : Standing slot number ticket before) :
    ∀ other, ¬Standing slot number other log := by
  obtain ⟨start, delay, scheduled⟩ := standing_scheduled standing
  -- It does not come to stand again, for a later setting has another number.
  induction log using List.reverseRecOn with
  | nil => simp at here
  | append_singleton log last ih =>
      intro other again
      have within : before ⊆ log := by
        rcases List.prefix_concat_iff.1 here with all | earlier
        · rw [(List.append_singleton_inj.1 all).1]
          exact List.Subset.refl _
        · exact ((List.prefix_append _ _).trans earlier).subset
      rcases standing_concat.1 again with ⟨later, wait, rfl⟩ | ⟨unsettled, still⟩
      · exact Nat.lt_irrefl _ ((sound_last sound).2 _ _ _ _ (within scheduled)).1
      · rcases List.prefix_concat_iff.1 here with all | earlier
        · rw [← (List.append_singleton_inj.1 all).2] at unsettled
          exact unsettled settles
        · exact ih (sound_init sound) earlier other still

theorem Sound.claimed (sound : Sound log) (claimed : Claimed slot number log) :
    ∀ other, ¬Standing slot number other log := by
  obtain ⟨before, time, handed, owner, ticket, current, here, standing⟩ := claimed
  exact sound.settled here ⟨rfl, rfl⟩ standing

theorem Sound.stopped (sound : Sound log) (stopped : Stopped slot number log) :
    ∀ other, ¬Standing slot number other log := by
  obtain ⟨before, stop, ticket, here, stops, standing⟩ := stopped
  exact sound.settled here stops.settles standing

end Sound

/-! ## The slots -/

structure LedgerKept (log : List Event) (slot : Nat) (ledger : Ledger) : Prop where
  issued : ∀ number ticket, ledger.issued[number]? = some ticket ↔
    ∃ start delay, Scheduled slot number ticket start delay log
  older : ∀ ticket ∈ ledger.issued, ticket.generation ≤ ledger.slot.generation
  standing : ledger.slot.pending = true →
    ∃ number, Standing slot number ledger.slot.ticket log
  latest : ∀ number ticket, Standing slot number ticket log →
    ledger.slot.pending = true ∧ number + 1 = ledger.issued.length ∧ ticket = ledger.slot.ticket

namespace LedgerKept

variable {log : List Event} {event : Event} {slot number : Nat} {ticket : Ticket} {ledger : Ledger}

theorem scheduled_lt (kept : LedgerKept log slot ledger) {start delay : Nat}
    (scheduled : Scheduled slot number ticket start delay log) :
    number < ledger.issued.length ∧ ticket.generation ≤ ledger.slot.generation := by
  have issued := (kept.issued number ticket).2 ⟨start, delay, scheduled⟩
  exact ⟨(List.getElem?_eq_some_iff.1 issued).1, kept.older ticket (List.mem_of_getElem? issued)⟩

/-- Nothing is known of the next number of a slot. -/
theorem fresh (kept : LedgerKept log slot ledger) (sound : Sound log) :
    ¬Expired slot ledger.issued.length log ∧ ¬Stopped slot ledger.issued.length log ∧
      ∀ ticket start delay, ¬Scheduled slot ledger.issued.length ticket start delay log := by
  have new : ∀ ticket start delay,
      ¬Scheduled slot ledger.issued.length ticket start delay log := fun _ _ _ scheduled =>
    Nat.lt_irrefl _ (kept.scheduled_lt scheduled).1
  refine ⟨fun expired => ?_, fun stopped => ?_, new⟩
  · obtain ⟨ticket, start, delay, scheduled⟩ := sound.expired expired
    exact new ticket start delay scheduled
  · obtain ⟨ticket, start, delay, scheduled⟩ := stopped_scheduled stopped
    exact new ticket start delay scheduled

/-- A ticket is claimed as long as the setting that it is of stands. -/
theorem claimed_iff (kept : LedgerKept log slot ledger) :
    (ledger.slot.take ticket).1 = true ↔ ∃ number, Standing slot number ticket log := by
  constructor
  · intro claimed
    unfold TimerSlot.take at claimed
    split at claimed
    · rename_i pending
      obtain ⟨rfl, pending⟩ := pending
      exact kept.standing pending
    · cases claimed
  · rintro ⟨number, standing⟩
    obtain ⟨pending, -, rfl⟩ := kept.latest number ticket standing
    simp [TimerSlot.take, pending]

/-- What does not settle the slot changes nothing. -/
theorem apart (kept : LedgerKept log slot ledger) (unsettled : ¬event.Settles slot) :
    LedgerKept (log ++ [event]) slot ledger where
  issued number ticket := by simp only [scheduled_kept unsettled, kept.issued]
  older := kept.older
  standing pending := by simp only [standing_kept unsettled, kept.standing pending]
  latest number ticket standing := kept.latest number ticket ((standing_kept unsettled).1 standing)

/-- After a cancellation or a claim, nothing stands. -/
theorem settled (kept : LedgerKept log slot ledger) {after : TimerSlot}
    (settles : event.Settles slot)
    (unset : ∀ number ticket start delay, event ≠ ⟨start, .schedule slot number ticket delay⟩)
    (idle : after.pending = false) (grown : ledger.slot.generation ≤ after.generation) :
    LedgerKept (log ++ [event]) slot ⟨after, ledger.issued⟩ where
  issued number ticket := by
    rw [kept.issued]
    simp only [scheduled_concat, unset, or_false]
  older ticket member := Nat.le_trans (kept.older ticket member) grown
  standing pending := by
    rw [idle] at pending
    cases pending
  latest number ticket standing := by
    rcases standing_concat.1 standing with ⟨start, delay, set⟩ | ⟨unsettled, -⟩
    · exact absurd set (unset number ticket start delay)
    · exact absurd settles unsettled

theorem cancel (kept : LedgerKept log slot ledger) (time : Nat) :
    LedgerKept (log ++ [⟨time, .cancel slot⟩]) slot ⟨ledger.slot.cancel, ledger.issued⟩ :=
  kept.settled rfl (by simp) rfl (Nat.le_succ _)

theorem take (kept : LedgerKept log slot ledger) (time handed owner : Nat) (ticket : Ticket) :
    LedgerKept (log ++ [⟨time, .take slot handed owner ticket (ledger.slot.take ticket).1⟩]) slot
      ⟨(ledger.slot.take ticket).2, ledger.issued⟩ := by
  unfold TimerSlot.take
  split
  · exact kept.settled ⟨rfl, rfl⟩ (by simp) rfl (Nat.le_refl _)
  · exact kept.apart (by simp [Event.Settles])

theorem schedule (kept : LedgerKept log slot ledger) (start delay : Nat) :
    LedgerKept
      (log ++ [⟨start, .schedule slot ledger.issued.length ledger.slot.schedule.ticket delay⟩]) slot
      ⟨ledger.slot.schedule, ledger.issued ++ [ledger.slot.schedule.ticket]⟩ where
  issued number ticket := by
    simp only [scheduled_concat, exists_or, ← kept.issued]
    rcases Nat.lt_trichotomy number ledger.issued.length with earlier | rfl | beyond
    · rw [List.getElem?_append_left earlier]
      simp [Nat.ne_of_gt earlier]
    · simp [eq_comm]
    · have none : (ledger.issued ++ [ledger.slot.schedule.ticket])[number]? = none := by
        rw [List.getElem?_eq_none_iff, List.length_append, List.length_singleton]
        omega
      rw [none, List.getElem?_eq_none (Nat.le_of_lt beyond)]
      simp [Nat.ne_of_lt beyond]
  older ticket member := by
    rcases List.mem_append.1 member with earlier | new
    · exact Nat.le_succ_of_le (kept.older ticket earlier)
    · rw [List.mem_singleton.1 new]
      exact Nat.le_refl _
  standing _ := ⟨ledger.issued.length, standing_concat.2 (.inl ⟨start, delay, rfl⟩)⟩
  latest number ticket standing := by
    rcases standing_concat.1 standing with ⟨start', delay', set⟩ | ⟨unsettled, -⟩
    · cases set
      exact ⟨rfl, by simp, rfl⟩
    · exact absurd rfl unsettled

end LedgerKept

/-! ## The running timers -/

/-- A timer that is to run out at `due`: it was set, and neither ran out nor was stopped. -/
def Running (slot number due : Nat) (log : List Event) : Prop :=
  (∃ ticket start delay, Scheduled slot number ticket start delay log ∧
    delay < Clock.never ∧ due = start + delay) ∧
    ¬Expired slot number log ∧ ¬Stopped slot number log

/-- What becomes of setting `n` of slot `s` when `slot` is set anew or cancelled. -/
def Replaced (slot s n : Nat) (log : List Event) : Prop :=
  s = slot ∧ ∃ ticket, Standing s n ticket log

section Running

variable {log : List Event} {s n due slot number time : Nat} {ticket : Ticket}

theorem stopped_schedule {delay : Nat} :
    Stopped s n (log ++ [⟨time, .schedule slot number ticket delay⟩]) ↔
      Stopped s n log ∨ Replaced slot s n log := by
  rw [stopped_concat]
  simp only [Event.Stops, Replaced, eq_comm]

theorem running_take {owner : Nat} {claimed : Bool} :
    Running s n due (log ++ [⟨time, .take slot number owner ticket claimed⟩]) ↔
      Running s n due log := by
  simp [Running, scheduled_concat, expired_concat, stopped_concat, Event.Stops]

theorem running_cancel :
    Running s n due (log ++ [⟨time, .cancel slot⟩]) ↔
      Running s n due log ∧ ¬Replaced slot s n log := by
  simp only [Running, scheduled_concat, expired_concat, stopped_concat, Event.Stops, Replaced,
    not_or, and_assoc, eq_comm]
  simp

theorem running_expire {heard : Bool} :
    Running s n due (log ++ [⟨time, .expire slot number heard⟩]) ↔
      Running s n due log ∧ ¬(s = slot ∧ n = number) := by
  have expired : Expired s n (log ++ [⟨time, .expire slot number heard⟩]) ↔
      Expired s n log ∨ s = slot ∧ n = number := by
    rw [expired_concat]
    simp [eq_comm]
  have stopped := @stopped_kept log ⟨time, .expire slot number heard⟩ s n id
  have scheduled : ∀ ticket start delay,
      Scheduled s n ticket start delay (log ++ [⟨time, .expire slot number heard⟩]) ↔
        Scheduled s n ticket start delay log := by
    intro ticket start delay
    rw [scheduled_concat]
    simp
  unfold Running
  rw [expired, stopped, not_or]
  simp only [scheduled]
  constructor
  · rintro ⟨set, ⟨waiting, other⟩, unstopped⟩
    exact ⟨⟨set, waiting, unstopped⟩, other⟩
  · rintro ⟨⟨set, waiting, unstopped⟩, other⟩
    exact ⟨set, ⟨waiting, other⟩, unstopped⟩

theorem running_schedule {delay : Nat}
    (fresh : ¬Expired slot number log ∧ ¬Stopped slot number log ∧
      ∀ ticket start delay, ¬Scheduled slot number ticket start delay log) :
    Running s n due (log ++ [⟨time, .schedule slot number ticket delay⟩]) ↔
      Running s n due log ∧ ¬Replaced slot s n log ∨
        delay < Clock.never ∧ due = time + delay ∧ s = slot ∧ n = number := by
  have expired : Expired s n (log ++ [⟨time, .schedule slot number ticket delay⟩]) ↔
      Expired s n log := by
    rw [expired_concat]
    simp
  unfold Running
  rw [expired, stopped_schedule, not_or]
  constructor
  · rintro ⟨⟨other, start, wait, scheduled, finite, rfl⟩, waiting, unstopped, kept⟩
    rcases scheduled_concat.1 scheduled with earlier | new
    · exact .inl ⟨⟨⟨other, start, wait, earlier, finite, rfl⟩, waiting, unstopped⟩, kept⟩
    · cases new
      exact .inr ⟨finite, rfl, rfl, rfl⟩
  · rintro (⟨⟨⟨other, start, wait, earlier, finite, rfl⟩, waiting, unstopped⟩, kept⟩ |
      ⟨finite, rfl, rfl, rfl⟩)
    · exact ⟨⟨other, start, wait, scheduled_concat.2 (.inl earlier), finite, rfl⟩, waiting,
        unstopped, kept⟩
    · obtain ⟨waiting, unstopped, new⟩ := fresh
      refine ⟨⟨ticket, time, delay, scheduled_concat.2 (.inr rfl), finite, rfl⟩, waiting,
        unstopped, ?_⟩
      rintro ⟨-, other, standing⟩
      obtain ⟨start, wait, scheduled⟩ := standing_scheduled standing
      exact new other start wait scheduled

end Running

structure AlarmsKept (log : List Event) (clock : Clock (Nat × Nat)) : Prop where
  running : ∀ due slot number, (due, slot, number) ∈ clock.alarms ↔ Running slot number due log
  apart : (clock.alarms.map Prod.snd).Nodup
  ahead : ∀ alarm ∈ clock.alarms, clock.now ≤ alarm.1

namespace AlarmsKept

variable {log : List Event} {desk : Desk} {ledger : Ledger} {slot : Nat}

theorem mem_stop (ledgerKept : LedgerKept log slot ledger) {due s n : Nat} :
    (due, s, n) ∈ (desk.stop slot ledger).alarms ↔
      (due, s, n) ∈ desk.clock.alarms ∧ ¬Replaced slot s n log := by
  unfold Desk.stop Replaced
  split
  · rename_i pending
    obtain ⟨latest, standing⟩ := ledgerKept.standing pending
    obtain ⟨-, count, -⟩ := ledgerKept.latest latest _ standing
    rw [Clock.mem_cancel]
    refine and_congr_right fun member => ?_
    rw [beq_eq_false_iff_ne, Ne, Prod.mk.injEq, ← count, Nat.add_sub_cancel]
    refine not_congr (and_congr_right fun same => ?_)
    subst same
    constructor
    · rintro rfl
      exact ⟨_, standing⟩
    · rintro ⟨ticket, other⟩
      obtain ⟨-, count', -⟩ := ledgerKept.latest n ticket other
      omega
  · rename_i idle
    refine (and_iff_left ?_).symm
    rintro ⟨rfl, ticket, standing⟩
    exact idle (ledgerKept.latest n ticket standing).1

/-- To stop a timer leaves the others in order. -/
theorem stop_sublist (desk : Desk) (slot : Nat) (ledger : Ledger) :
    (desk.stop slot ledger).alarms.Sublist desk.clock.alarms := by
  unfold Desk.stop
  split
  · exact List.filter_sublist
  · exact List.Sublist.refl _

theorem stop_now : (desk.stop slot ledger).now = desk.clock.now := by
  unfold Desk.stop
  split <;> rfl

theorem cancel (kept : AlarmsKept log desk.clock) (ledgerKept : LedgerKept log slot ledger)
    (time : Nat) : AlarmsKept (log ++ [⟨time, .cancel slot⟩]) (desk.stop slot ledger) where
  running due s n := by rw [mem_stop ledgerKept, running_cancel, kept.running]
  apart := kept.apart.sublist ((stop_sublist desk slot ledger).map Prod.snd)
  ahead alarm member := by
    rw [stop_now]
    exact kept.ahead alarm ((stop_sublist desk slot ledger).subset member)

theorem schedule (kept : AlarmsKept log desk.clock) (sound : Sound log)
    (ledgerKept : LedgerKept log slot ledger) (delay : Nat) {ticket : Ticket} :
    AlarmsKept (log ++ [⟨desk.clock.now, .schedule slot ledger.issued.length ticket delay⟩])
      ((desk.stop slot ledger).set delay (slot, ledger.issued.length)) where
  running due s n := by
    rw [Clock.mem_set, mem_stop ledgerKept, running_schedule (ledgerKept.fresh sound),
      kept.running, stop_now]
    simp only [Prod.mk.injEq]
  apart := by
    have old := kept.apart.sublist ((stop_sublist desk slot ledger).map Prod.snd)
    unfold Clock.set
    split
    · rw [List.map_append, List.map_singleton, ← List.concat_eq_append]
      refine List.Nodup.concat ?_ old
      intro member
      obtain ⟨⟨due, tag⟩, inside, same⟩ := List.mem_map.1 member
      cases same
      obtain ⟨⟨other, start, wait, scheduled, -⟩, -⟩ :=
        (kept.running _ _ _).1 ((stop_sublist desk slot ledger).subset inside)
      exact Nat.lt_irrefl _ (ledgerKept.scheduled_lt scheduled).1
    · exact old
  ahead alarm member := by
    rw [Clock.set_now, stop_now]
    rcases (Clock.mem_set _).1 member with old | ⟨-, rfl⟩
    · exact kept.ahead alarm ((stop_sublist desk slot ledger).subset old)
    · rw [stop_now]
      exact Nat.le_add_right _ _

theorem take (kept : AlarmsKept log desk.clock) {time number owner : Nat} {ticket : Ticket}
    {claimed : Bool} :
    AlarmsKept (log ++ [⟨time, .take slot number owner ticket claimed⟩]) desk.clock where
  running due s n := by rw [running_take, kept.running]
  apart := kept.apart
  ahead := kept.ahead

theorem expire (kept : AlarmsKept log desk.clock) {limit number : Nat}
    {after : Clock (Nat × Nat)}
    (fires : desk.clock.next? limit = some ((slot, number), after)) (heard : Bool) :
    Running slot number after.now log ∧ desk.clock.now ≤ after.now ∧
      AlarmsKept (log ++ [⟨after.now, .expire slot number heard⟩]) after := by
  obtain ⟨due, first, rest, split, -, shown, -, least⟩ := Clock.next?_split fires
  have member : (due, slot, number) ∈ desk.clock.alarms := by
    rw [split]
    exact List.mem_append_right _ List.mem_cons_self
  -- No alarm is behind the clock, so this one rings at its due time and not later.
  have reached : after.now = due := by
    rw [shown]
    exact Nat.max_eq_right (kept.ahead _ member)
  have fewer := Clock.next?_sublist fires
  rw [reached]
  refine ⟨(kept.running due slot number).1 member, kept.ahead _ member, ?_,
    kept.apart.sublist (fewer.map Prod.snd), ?_⟩
  · intro due' s n
    rw [Clock.mem_after kept.apart fires, running_expire, kept.running, Ne, Prod.mk.injEq]
  · intro alarm inside
    rw [reached]
    exact least alarm (fewer.subset inside)

theorem pass (kept : AlarmsKept log desk.clock) {time : Nat}
    (quiet : desk.clock.next? time = none) : AlarmsKept log (desk.clock.moveTo time) where
  running := kept.running
  apart := kept.apart
  ahead alarm member :=
    Nat.max_le.2 ⟨kept.ahead alarm member, Nat.le_of_lt (Clock.next?_none quiet alarm member)⟩

end AlarmsKept

/-! ## Every course -/

structure Kept (log : List Event) (desk : Desk) : Prop where
  sound : Sound log
  times : ∀ event ∈ log, event.time ≤ desk.clock.now
  ledgers : ∀ slot ledger, desk.slots[slot]? = some ledger → LedgerKept log slot ledger
  alarms : AlarmsKept log desk.clock

namespace Kept

variable {size : Nat} {log : List Event} {desk : Desk}

theorem begin : Kept [] (.ofSize size) where
  sound := fun before event here => by simp at here
  times := fun event member => (List.not_mem_nil member).elim
  ledgers slot ledger found := by
    have empty : ledger = {} := List.eq_of_mem_replicate (List.mem_of_getElem? found)
    rw [empty]
    exact {
      issued := by simp [Scheduled]
      older := by simp
      standing := nofun
      latest := by
        rintro number ticket ⟨before, start, delay, since, none, -⟩
        simp at none }
  alarms := {
    running := by simp [Running, Scheduled, Desk.ofSize]
    apart := List.nodup_nil
    ahead := fun alarm member => (List.not_mem_nil member).elim }

/-- Something happens that is allowed. -/
theorem add {event : Event} {after : Desk} (kept : Kept log desk)
    (later : desk.clock.now ≤ event.time) (present : event.time ≤ after.clock.now)
    (allowed : Allowed log event)
    (ledgers : ∀ slot ledger, after.slots[slot]? = some ledger →
      LedgerKept (log ++ [event]) slot ledger)
    (alarms : AlarmsKept (log ++ [event]) after.clock) : Kept (log ++ [event]) after := by
  have before : ∀ earlier ∈ log, earlier.time ≤ event.time := fun earlier member =>
    Nat.le_trans (kept.times earlier member) later
  refine ⟨sound_concat kept.sound ⟨before, allowed⟩, fun each member => ?_, ledgers, alarms⟩
  rcases List.mem_append.1 member with earlier | last
  · exact Nat.le_trans (before each earlier) present
  · rw [List.mem_singleton.1 last]
    exact present

/-- One slot changes, and the others are not concerned. -/
theorem ledgers_set {slot : Nat} {ledger : Ledger} {event : Event} (kept : Kept log desk)
    (own : LedgerKept (log ++ [event]) slot ledger)
    (others : ∀ other, other ≠ slot → ¬event.Settles other) :
    ∀ other ledger', (desk.slots.set slot ledger)[other]? = some ledger' →
      LedgerKept (log ++ [event]) other ledger' := by
  intro other ledger' found
  by_cases same : slot = other
  · subst same
    have inside : slot < desk.slots.length := by
      have := (List.getElem?_eq_some_iff.1 found).1
      rwa [List.length_set] at this
    rw [List.getElem?_set_self inside] at found
    cases found
    exact own
  · rw [List.getElem?_set_ne same] at found
    exact (kept.ledgers other ledger' found).apart (others other (Ne.symm same))

/-- The ticket of a setting is one that was set. -/
theorem handed {owner number : Nat} {ticket : Ticket} (kept : Kept log desk)
    (known : desk.ticket? owner number = some ticket) :
    ∃ start delay, Scheduled owner number ticket start delay log := by
  obtain ⟨ledger, found, issued⟩ := Option.bind_eq_some_iff.1 known
  exact ((kept.ledgers owner ledger found).issued number ticket).1 issued

/-- Where nothing is due any more, what is not stopped and has its deadline behind it ran out. -/
theorem punctual (kept : Kept log desk) {limit slot number start delay : Nat} {ticket : Ticket}
    (quiet : desk.clock.next? limit = none)
    (scheduled : Scheduled slot number ticket start delay log) (finite : delay < Clock.never)
    (due : start + delay ≤ limit) (unstopped : ¬Stopped slot number log) :
    Expired slot number log := by
  by_contra waiting
  have alarm := (kept.alarms.running (start + delay) slot number).2
    ⟨⟨ticket, start, delay, scheduled, finite, rfl⟩, waiting, unstopped⟩
  exact Nat.not_lt_of_le due (Clock.next?_none quiet _ alarm)

end Kept

/-- Whatever was done, a desk agrees with what happened at it. -/
theorem Course.kept {size : Nat} {log : List Event} {desk : Desk}
    (course : Course size log desk) : Kept log desk := by
  induction course with
  | begin => exact .begin
  | @schedule log desk slot ledger delay found _ kept =>
      have own := kept.ledgers slot ledger found
      refine kept.add (Nat.le_refl _) ?_ ?_ ?_ (kept.alarms.schedule kept.sound own delay)
      · have still := (Clock.set_now (desk.stop slot ledger) delay (slot, ledger.issued.length)).trans
          AlarmsKept.stop_now
        exact Nat.le_of_eq still.symm
      · -- The ticket is new, so whatever was scheduled at this slot has a smaller number.
        intro earlier older start wait scheduled
        obtain ⟨fewer, older⟩ := own.scheduled_lt scheduled
        exact ⟨fewer, Nat.lt_succ_of_le older⟩
      · exact kept.ledgers_set (own.schedule _ delay) fun other apart => Ne.symm apart
  | @cancel log desk slot ledger found _ kept =>
      have own := kept.ledgers slot ledger found
      refine kept.add (Nat.le_refl _) ?_ trivial ?_ (kept.alarms.cancel own _)
      · exact Nat.le_of_eq AlarmsKept.stop_now.symm
      · exact kept.ledgers_set (own.cancel _) fun other apart => Ne.symm apart
  | @take log desk slot number owner ledger ticket found handed _ kept =>
      have own := kept.ledgers slot ledger found
      refine kept.add (Nat.le_refl _) (Nat.le_refl _) ?_ ?_ kept.alarms.take
      · exact ⟨kept.handed handed, own.claimed_iff⟩
      · exact kept.ledgers_set (own.take _ number owner ticket) fun other apart settles =>
          apart settles.1.symm
  | @expire log desk limit slot number after fires _ kept =>
      obtain ⟨running, later, alarms⟩ := kept.alarms.expire fires desk.listening
      obtain ⟨⟨ticket, start, delay, scheduled, -, due⟩, waiting, unstopped⟩ := running
      refine kept.add later (Nat.le_refl _) ?_ ?_ alarms
      · exact ⟨⟨ticket, start, delay, scheduled, due⟩, waiting, unstopped⟩
      · exact fun other ledger found => (kept.ledgers other ledger found).apart id
  | pass quiet _ kept =>
      refine ⟨kept.sound, fun event member => ?_, kept.ledgers, kept.alarms.pass quiet⟩
      exact Nat.le_trans (kept.times event member) (Nat.le_max_left _ _)
  | read inbox listening _ kept => exact ⟨kept.sound, kept.times, kept.ledgers, kept.alarms⟩

/-! ## The discipline -/

/-- What happens at `size` slots that were never used before. -/
def history (size : Nat) (moves : List Move) : List Event := (Desk.ofSize size).past moves

def after (size : Nat) (moves : List Move) : Desk := (Desk.ofSize size).reached moves

/-- How timers run out and are claimed at slots that share one inbox. -/
structure Disciplined (size : Nat) (moves : List Move) : Prop where
  /-- Every setting of a slot that is there happens. -/
  set : ∀ slot delay, slot < size → ∃ number ticket,
    history size (moves ++ [.command (.schedule slot delay)]) =
      history size moves ++ [⟨(after size moves).clock.now, .schedule slot number ticket delay⟩]
  /-- So does every cancellation. -/
  cancelled : ∀ slot, slot < size →
    history size (moves ++ [.command (.cancel slot)]) =
      history size moves ++ [⟨(after size moves).clock.now, .cancel slot⟩]
  /-- The ticket of any setting can be handed to any slot. -/
  handed : ∀ slot number owner ticket start delay, slot < size →
    Scheduled owner number ticket start delay (history size moves) → ∃ claimed,
      history size (moves ++ [.command (.take slot number owner)]) =
        history size moves ++
          [⟨(after size moves).clock.now, .take slot number owner ticket claimed⟩]
  /-- The inbox gets the settings that ran out, in that order, while somebody reads it. -/
  inbox : (Desk.ofSize size).received moves = (history size moves).filterMap Event.delivery?
  heard : .command .dropReceiver ∉ moves → ∀ time slot number heard,
    ⟨time, .expire slot number heard⟩ ∈ history size moves → heard = true
  /-- Every setting of a slot has a number and a generation that none before it had. -/
  numbered : ∀ before start slot number ticket delay,
    before ++ [⟨start, .schedule slot number ticket delay⟩] <+: history size moves →
      ∀ earlier older start' delay', Scheduled slot earlier older start' delay' before →
        earlier < number ∧ older.generation < ticket.generation
  /-- No setting runs out twice. -/
  once : ∀ before time slot number heard,
    before ++ [⟨time, .expire slot number heard⟩] <+: history size moves →
      ¬Expired slot number before
  /-- A setting runs out after exactly its delay. -/
  onTime : ∀ before time slot number heard,
    before ++ [⟨time, .expire slot number heard⟩] <+: history size moves →
      ∃ ticket start delay, Scheduled slot number ticket start delay before ∧ time = start + delay
  /-- A setting that was cancelled or replaced while it stood does not run out any more. -/
  unstopped : ∀ before time slot number heard,
    before ++ [⟨time, .expire slot number heard⟩] <+: history size moves →
      ¬Stopped slot number before
  /-- Any other runs out when its delay is over, unless that is endless. -/
  punctual : ∀ slot number ticket start delay,
    Scheduled slot number ticket start delay (history size (moves ++ [.calm])) →
      delay < Clock.never → start + delay ≤ (after size moves).clock.now →
        ¬Stopped slot number (history size (moves ++ [.calm])) →
          Expired slot number (history size (moves ++ [.calm]))
  /-- What happens is in order of time, so settings run out in order of deadline. -/
  ordered : (history size moves).Pairwise fun earlier later => earlier.time ≤ later.time
  /-- A ticket is claimed if and only if it is that of the latest setting of the slot, since which
  there was no cancellation and no claim. -/
  taken : ∀ before time slot number owner ticket claimed,
    before ++ [⟨time, .take slot number owner ticket claimed⟩] <+: history size moves →
      (claimed = true ↔ ∃ current, Standing slot current ticket before)
  /-- No setting is claimed twice. -/
  claimedOnce : ∀ before time slot number owner ticket current,
    before ++ [⟨time, .take slot number owner ticket true⟩] <+: history size moves →
      Standing slot current ticket before → ¬Claimed slot current before
  /-- Where the slot claims a ticket of its own that was delivered, the delay of that setting is
  over, and the slot was neither set nor cancelled in between. -/
  elapsed : ∀ before time slot number ticket,
    before ++ [⟨time, .take slot number slot ticket true⟩] <+: history size moves →
      Expired slot number before →
        ∃ first start delay since,
          before = first ++ ⟨start, .schedule slot number ticket delay⟩ :: since ∧
            start + delay ≤ time ∧ ∀ event ∈ since, ¬event.Stops slot

section Disciplined

variable {before log : List Event} {time slot number : Nat} {ticket : Ticket}

/-- A slot claims a ticket of its own for the setting that it is of. -/
theorem Sound.own_standing (sound : Sound log)
    (here : before ++ [⟨time, .take slot number slot ticket true⟩] <+: log) :
    Standing slot number ticket before := by
  obtain ⟨-, ⟨start, delay, scheduled⟩, claimed⟩ := sound _ _ here
  obtain ⟨current, standing⟩ := claimed.1 rfl
  obtain ⟨later, wait, latest⟩ := standing_scheduled standing
  have within : Sound before := sound.upTo ((List.prefix_append _ _).trans here)
  obtain ⟨rfl, -⟩ := within.scheduled_unique scheduled latest (.inr rfl)
  exact standing

theorem Sound.elapsed (sound : Sound log)
    (here : before ++ [⟨time, .take slot number slot ticket true⟩] <+: log)
    (expired : Expired slot number before) :
    ∃ first start delay since,
      before = first ++ ⟨start, .schedule slot number ticket delay⟩ :: since ∧
        start + delay ≤ time ∧ ∀ event ∈ since, ¬event.Stops slot := by
  have within : Sound before := sound.upTo ((List.prefix_append _ _).trans here)
  obtain ⟨first, start, delay, since, split, unsettled⟩ := sound.own_standing here
  refine ⟨first, start, delay, since, split, ?_, fun event member stops =>
    unsettled event member stops.settles⟩
  obtain ⟨deadline, heard, member⟩ := expired
  obtain ⟨early, reached, -, ⟨other, begun, wait, scheduled, rfl⟩, -⟩ := within.fits member
  have set : Scheduled slot number ticket start delay before := by
    rw [split]
    exact List.mem_append_right _ List.mem_cons_self
  have again : Scheduled slot number other begun wait before :=
    ((List.prefix_append _ _).trans reached).subset scheduled
  obtain ⟨-, -, rfl, rfl⟩ := within.scheduled_unique set again (.inl rfl)
  exact (sound _ _ here).1 _ member

end Disciplined

/-- When everything due has run out, a timer that still runs has its deadline ahead. -/
theorem punctual (size : Nat) (moves : List Move) {slot number start delay : Nat} {ticket : Ticket}
    (scheduled : Scheduled slot number ticket start delay (history size (moves ++ [.calm])))
    (finite : delay < Clock.never)
    (due : start + delay ≤ (after size moves).clock.now)
    (unstopped : ¬Stopped slot number (history size (moves ++ [.calm]))) :
    Expired slot number (history size (moves ++ [.calm])) := by
  have kept := (course_past size (moves ++ [.calm])).kept
  have quiet := ((course_past size moves).expired (after size moves).clock.now).2
  have rest : (Desk.ofSize size).reached (moves ++ [.calm]) =
      (after size moves).expire (after size moves).clock.now :=
    List.foldl_append
  rw [rest] at kept
  exact kept.punctual quiet scheduled finite due unstopped

theorem slots_disciplined (size : Nat) (moves : List Move) : Disciplined size moves := by
  have course : Course size (history size moves) (after size moves) := course_past size moves
  have sound := course.kept.sound
  have next (move : Move) :
      history size (moves ++ [move]) = history size moves ++ (after size moves).events move :=
    (Desk.ofSize size).past_concat moves move
  exact {
    set := fun slot delay inside => by
      obtain ⟨ledger, found⟩ := course.found inside
      exact ⟨_, _, by rw [next, Desk.events_schedule found]⟩
    cancelled := fun slot inside => by
      obtain ⟨ledger, found⟩ := course.found inside
      rw [next, Desk.events_cancel found]
    handed := fun slot number owner ticket start delay inside scheduled => by
      obtain ⟨ledger, found⟩ := course.found inside
      obtain ⟨theirs, there⟩ := course.found (course.scheduled_slot scheduled)
      have issued := ((course.kept.ledgers owner theirs there).issued number ticket).2
        ⟨start, delay, scheduled⟩
      have known : (after size moves).ticket? owner number = some ticket :=
        Option.bind_eq_some_iff.2 ⟨theirs, there, issued⟩
      exact ⟨_, by rw [next, Desk.events_take found known]⟩
    inbox := received_eq (Desk.ofSize size) moves
    heard := fun kept time slot number heard member => heard_past rfl kept member
    numbered := fun before start slot number ticket delay here => (sound _ _ here).2
    once := fun before time slot number heard here => (sound _ _ here).2.2.1
    onTime := fun before time slot number heard here => (sound _ _ here).2.1
    unstopped := fun before time slot number heard here => (sound _ _ here).2.2.2
    punctual := fun slot number ticket start delay => punctual size moves
    ordered := sound.ordered
    taken := fun before time slot number owner ticket claimed here => (sound _ _ here).2.2
    claimedOnce := fun before time slot number owner ticket current here standing claimed =>
      (sound.upTo ((List.prefix_append _ _).trans here)).claimed claimed ticket standing
    elapsed := fun before time slot number ticket here => sound.elapsed here }

/-- A timer that is claimed before it runs out is delivered all the same, although the slot is
cancelled: nothing stood then. -/
example :
    (Desk.ofSize 1).received
      [.command (.schedule 0 10), .command (.take 0 0 0), .command (.cancel 0),
        .command (.advance 10)] = [(0, 0)] := by
  cbv

end Tether.Timer
