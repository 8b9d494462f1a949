/-
# Tether.Proofs.WebSocket.Upkeep -- what every beat of a dialogue keeps up

A dialogue has parts that know little of each other: the sink, what it let through, the frames
on their way out, the messages on their way in, and the deadline of the attempt to connect.
Of each there is one thing that holds all along, given what was read off the beats so far, and
one lemma that says how a beat keeps it up.

* `Turn.events_after`, `Turn.detached_after` -- what is let through, and until when.
* `Turn.story_after` -- what is reported, by the phase of the transport.
* `Turn.outward_after` -- frames, from the owner to the peer.
* `Turn.inward_after` -- messages, from the peer to the reader.
* `Turn.timed_after`, `Timed.runs_out` -- the attempt ends by its deadline.
-/
import Tether.Proofs.Alarms
import Tether.Proofs.WebSocket.Beats

set_option autoImplicit false

namespace Tether.WebSocket.Dialogue

/-! ## What holds all along -/

/-- What is reported by the time that a transport is in a phase, if nobody was cut off. -/
def Story : Phase → List TransportEvent → Prop
  | .fresh, events | .connecting, events => events = []
  | .live, events => ∃ texts : List String, events = .opened :: texts.map .message
  | .ended, events =>
      events = [.failed] ∨
        ∃ (texts : List String) (last : TransportEvent), last.isTerminal = true ∧
          events = .opened :: texts.map .message ++ [last]

def written (d : Dialogue) : List String := d.heard.filterMap Heard.text?

/-- The frames on their way, when these have been taken. -/
structure Outward (d : Dialogue) (taken : List String) : Prop where
  written : d.written <+: taken
  waiting : d.transport.phase ≠ .ended → taken = d.written ++ d.transport.queue

/-- A beat that takes no frame, and writes none, leaves those on their way as they are. -/
theorem Outward.keep {beat : Beat} {after : Dialogue} {taken : List String}
    (outward : beat.before.Outward taken) (untaken : beat.taken? = none)
    (unwritten : after.written = beat.before.written)
    (queue : after.transport.phase ≠ .ended → beat.before.transport.phase ≠ .ended ∧
      after.transport.queue = beat.before.transport.queue) :
    after.Outward (taken ++ beat.taken?.toList) := by
  rw [untaken, Option.toList_none, List.append_nil]
  refine ⟨unwritten ▸ outward.written, fun going => ?_⟩
  obtain ⟨before, same⟩ := queue going
  rw [unwritten, same]
  exact outward.waiting before

/-- The messages on their way, when the peer has said this and these texts were read.  A text that
is too large is lost, but nothing is read after it. -/
structure Inward (d : Dialogue) (said : List Incoming) (texts : List String) : Prop where
  read : texts <+: said.filterMap Incoming.text?
  waiting : d.transport.phase ≠ .ended →
    said.filterMap Incoming.text? = texts ++ d.wire.filterMap Incoming.text?

/-- A beat in which nothing is said and no text is read leaves those on their way as they are. -/
theorem Inward.keep {beat : Beat} {after : Dialogue} {said : List Incoming} {texts : List String}
    (inward : beat.before.Inward said texts) (unsaid : beat.said? = none)
    (unread : beat.text? = none)
    (wire : after.transport.phase ≠ .ended → beat.before.transport.phase ≠ .ended ∧
      after.wire.filterMap Incoming.text? = beat.before.wire.filterMap Incoming.text?) :
    after.Inward (said ++ beat.said?.toList) (texts ++ beat.text?.toList) := by
  rw [unsaid, unread, Option.toList_none, List.append_nil, Option.toList_none, List.append_nil]
  refine ⟨inward.read, fun going => ?_⟩
  obtain ⟨before, same⟩ := wire going
  rw [same]
  exact inward.waiting before

/-- The deadline of the attempt to connect, when it began at that time, if it has begun.  It is left
on the clock when the connection is made, and means nothing any more. -/
structure Timed (d : Dialogue) (begun : Option Nat) : Prop where
  fresh : begun = none ↔ d.transport.phase = .fresh
  set : ∀ alarm ∈ d.clock.alarms, d.transport.options.connectTimeout < Clock.never ∧
    ∃ start, begun = some start ∧ alarm.1 = start + d.transport.options.connectTimeout
  pending : d.transport.phase = .connecting → d.transport.options.connectTimeout < Clock.never →
    ∃ start, begun = some start ∧
      (start + d.transport.options.connectTimeout, ()) ∈ d.clock.alarms ∧
      d.clock.now ≤ start + d.transport.options.connectTimeout

/-- Where no attempt is under way, only the deadlines that are left matter. -/
theorem Timed.settle {d after : Dialogue} {begun : Option Nat} (timed : d.Timed begun)
    (options : after.transport.options = d.transport.options)
    (fresh : d.transport.phase = .fresh ↔ after.transport.phase = .fresh)
    (settled : after.transport.phase ≠ .connecting)
    (fewer : ∀ alarm ∈ after.clock.alarms, alarm ∈ d.clock.alarms) : after.Timed begun :=
  ⟨timed.fresh.trans fresh, fun alarm left => options ▸ timed.set alarm (fewer alarm left),
    fun connecting => absurd connecting settled⟩

/-- Time that passes freely leaves no deadline of an attempt behind. -/
theorem awaited_of_free {d : Dialogue} {time : Nat} (connecting : d.transport.phase = .connecting)
    (free : d.isOverdue time = false) : ∀ alarm ∈ d.clock.alarms, time ≤ alarm.1 := by
  simpa [isOverdue, connecting] using free

/-- An attempt that runs out of time does so neither before its deadline nor after it. -/
theorem Timed.runs_out {d : Dialogue} {begun : Option Nat} (timed : d.Timed begun)
    (connecting : d.transport.phase = .connecting)
    (fires : (d.clock.next? d.clock.now).isSome = true) :
    ∃ start, begun = some start ∧
      d.clock.now = start + d.transport.options.connectTimeout := by
  obtain ⟨⟨⟨⟩, clock⟩, rings⟩ := Option.isSome_iff_exists.1 fires
  obtain ⟨due, reached, -, -, members⟩ := Clock.next?_some rings
  obtain ⟨finite, start, begun, rfl⟩ := timed.set _ ((members _).2 (.inl rfl))
  obtain ⟨start', begun', -, early⟩ := timed.pending connecting finite
  cases begun.symm.trans begun'
  exact ⟨start, begun, Nat.le_antisymm early reached⟩

/-! ## One beat -/

namespace Turn

variable {d after : Dialogue} {move : Move} (turned : Turn d move after)

include turned

theorem options_after : after.transport.options = d.transport.options := by
  cases turned <;> rfl

theorem dismissed_after :
    after.transport.dismissed =
      (d.transport.dismissed || decide (Beat.mk d move).Dismisses) := by
  cases turned with
  | idle idle => simp [idle.kept]
  | dismiss dismisses => simp [dismisses]
  | _ => simp [Beat.Dismisses, giveUp, enter, absorb]

theorem events_after :
    after.events =
      d.events ++ if d.sink.detached then [] else (Beat.mk d move).report?.toList := by
  cases turned with
  | idle idle => simp [idle.unreported]
  | dismiss dismisses => simp [dismisses.quiet.unreported]
  | ring _ other => simp [Beat.report?, other]
  | connect connecting | refuse connecting => simp [Beat.report?, enter, connecting]
  | expire connecting fires => simp [Beat.report?, enter, connecting, fires]
  | choke live waits => simp [Beat.report?, giveUp, enter, absorb, live, waits]
  | skip live next comes | hear live next comes | hangUp live next comes =>
      simp [Beat.report?, Beat.met?, giveUp, enter, absorb, live, next, comes]
  | sever live =>
      simp [Beat.report?, Beat.met?, giveUp, enter, absorb, live, Incoming.outcome, Incoming.size]
  | _ => simp [Beat.report?, giveUp, enter, absorb]

/-- A sink is cut off when its transport is dismissed or comes to its end, and never else. -/
theorem detached_after
    (shut : d.sink.detached = true ↔ d.transport.dismissed = true ∨ d.transport.phase = .ended) :
    after.sink.detached = true ↔
      after.transport.dismissed = true ∨ after.transport.phase = .ended := by
  cases turned with
  | begin fresh _ => simpa [enter, fresh] using shut
  | dismiss _ => simp
  | connect connecting => simpa [enter, connecting, TransportEvent.isTerminal] using shut
  | refuse _ | expire _ _ | choke _ _ | sever _ =>
      simp [giveUp, enter, absorb, TransportEvent.isTerminal]
  | hangUp _ _ _ terminal => simp [giveUp, enter, absorb, terminal]
  | hear _ _ _ => simpa [TransportEvent.isTerminal] using shut
  | part dismissed _ | withdraw dismissed _ => simpa [giveUp, enter, absorb, dismissed] using shut
  | _ => exact shut

/-- A report moves the story on as the move moves the phase. -/
theorem story_after {events : List TransportEvent} (kept : d.transport.dismissed = false)
    (story : Story d.transport.phase events) :
    Story after.transport.phase (events ++ (Beat.mk d move).report?.toList) := by
  cases turned with
  | idle idle => simpa [idle.unreported] using story
  | ring _ other => simpa [Beat.report?, other] using story
  | begin fresh _ => simpa [Beat.report?, enter, fresh, Story] using story
  | dismiss dismisses => simpa [dismisses.quiet.unreported] using story
  | connect connecting =>
      have silent : events = [] := by simpa [connecting, Story] using story
      exact ⟨[], by simp [silent, Beat.report?, connecting]⟩
  | refuse connecting =>
      have silent : events = [] := by simpa [connecting, Story] using story
      exact .inl (by simp [silent, Beat.report?, connecting])
  | expire connecting fires =>
      have silent : events = [] := by simpa [connecting, Story] using story
      exact .inl (by simp [silent, Beat.report?, connecting, fires])
  | choke live waits =>
      obtain ⟨texts, rfl⟩ : Story .live events := live ▸ story
      exact .inr ⟨texts, .failed, rfl, by simp [Beat.report?, live, waits]⟩
  | skip live next mute =>
      simpa [Beat.report?, Beat.met?, live, next, mute] using story
  | @hear _ _ data live next speaks =>
      obtain ⟨texts, rfl⟩ : Story .live events := live ▸ story
      have told : (Beat.mk d .read).report? = some (.message data) := by
        simp [Beat.report?, Beat.met?, live, next, speaks]
      rw [told, tell_transport]
      exact live ▸ ⟨texts ++ [data], by simp⟩
  | @hangUp _ _ event live next ends terminal =>
      obtain ⟨texts, rfl⟩ : Story .live events := live ▸ story
      exact .inr ⟨texts, event, terminal, by simp [Beat.report?, Beat.met?, live, next, ends]⟩
  | sever live =>
      obtain ⟨texts, rfl⟩ : Story .live events := live ▸ story
      exact .inr ⟨texts, .failed, rfl, by
        simp [Beat.report?, Beat.met?, live, Incoming.outcome, Incoming.size]⟩
  | part dismissed _ | withdraw dismissed _ => exact absurd dismissed (by simp [kept])
  | _ => simpa [Beat.report?] using story

/-- Frames are taken at the back of the queue and written from its front. -/
theorem outward_after {taken : List String} (outward : d.Outward taken) :
    after.Outward (taken ++ (Beat.mk d move).taken?.toList) := by
  cases turned with
  | idle idle => exact outward.keep idle.untaken rfl fun going => ⟨going, rfl⟩
  | dismiss dismisses => exact outward.keep dismisses.quiet.untaken rfl fun going => ⟨going, rfl⟩
  | @take frame live kept =>
      have taken' : (Beat.mk d (.send frame)).taken? = some frame := by
        simp [Beat.taken?, refusal, send, live, kept]
      have queued : taken = d.written ++ d.transport.queue := outward.waiting (by simp [live])
      rw [taken']
      exact ⟨outward.written.trans (List.prefix_append _ _), fun _ => by
        simp [queued, Dialogue.written]⟩
  | @flush frame rest live waits =>
      have queued : taken = d.written ++ [frame] ++ rest := by
        simpa [waits] using outward.waiting (by simp [live])
      simp only [Beat.taken?, Option.toList_none, List.append_nil]
      refine ⟨?_, fun _ => ?_⟩ <;> simp [queued, Dialogue.written, Heard.text?]
  | begin going | connect going =>
      exact outward.keep rfl rfl fun _ => ⟨by simp [going], rfl⟩
  | pass | ring | skip | hear | say => exact outward.keep rfl rfl fun going => ⟨going, rfl⟩
  | refuse | expire | choke | hangUp | sever | withdraw =>
      exact outward.keep rfl rfl fun going => absurd rfl going
  | part =>
      have bye : (d.heard ++ [Heard.close]).filterMap Heard.text? = d.written := by
        simp [Dialogue.written, Heard.text?, List.filterMap_cons]
      exact outward.keep rfl bye fun going => absurd rfl going

/-- Messages are said at the back of the wire and read from its front. -/
theorem inward_after {said : List Incoming} {texts : List String} (inward : d.Inward said texts) :
    after.Inward (said ++ (Beat.mk d move).said?.toList)
      (texts ++ (Beat.mk d move).text?.toList) := by
  cases turned with
  | idle idle => exact inward.keep idle.unsaid idle.unread fun going => ⟨going, rfl⟩
  | dismiss dismisses =>
      exact inward.keep dismisses.quiet.unsaid dismisses.quiet.unread fun going => ⟨going, rfl⟩
  | @say incoming live =>
      have told : (Beat.mk d (.say incoming)).said? = some incoming := if_pos live
      have waiting := inward.waiting (by simp [live])
      rw [told]
      simp only [Beat.text?, Beat.met?, Option.bind_none, Option.toList_none, List.append_nil]
      refine ⟨?_, fun _ => ?_⟩ <;> simp [waiting]
  | @skip incoming rest live next mute =>
      have met := Beat.met?_read live next
      have silent : incoming.text? = none := outcome_none mute
      have unread : (Beat.mk d .read).text? = none := by
        simp [Beat.text?, met, Incoming.admitted?, silent]
      exact inward.keep rfl unread fun going => ⟨going, by simp [next, silent]⟩
  | @hear incoming rest data live next speaks =>
      have met := Beat.met?_read live next
      have admitted : incoming.admitted? d.transport.options = some data := outcome_message.1 speaks
      have read : (Beat.mk d .read).text? = some data := by simp [Beat.text?, met, admitted]
      have waiting : said.filterMap Incoming.text? =
          texts ++ [data] ++ rest.filterMap Incoming.text? := by
        simpa [next, admitted_text admitted] using inward.waiting (by simp [live])
      rw [read]
      simp only [Beat.said?, Option.toList_none, Option.toList_some, List.append_nil]
      exact ⟨⟨_, waiting.symm⟩, fun _ => waiting⟩
  | @hangUp incoming rest event live next ends terminal =>
      have met := Beat.met?_read live next
      have unread : (Beat.mk d .read).text? = none := by
        cases read : incoming.admitted? d.transport.options with
        | none => simp [Beat.text?, met, read]
        | some data =>
            cases (outcome_message.2 read).symm.trans ends
            cases terminal
      exact inward.keep rfl unread fun going => absurd rfl going
  | sever live =>
      have unread : (Beat.mk d .sever).text? = none := by
        simp [Beat.text?, Beat.met?, live, Incoming.admitted?, Incoming.text?]
      exact inward.keep rfl unread fun going => absurd rfl going
  | begin going | connect going => exact inward.keep rfl rfl fun _ => ⟨by simp [going], rfl⟩
  | pass | ring | take | flush => exact inward.keep rfl rfl fun going => ⟨going, rfl⟩
  | refuse | expire | choke | part | withdraw =>
      exact inward.keep rfl rfl fun going => absurd rfl going

/-- The one alarm is that of the attempt to connect, and no time is left behind it. -/
theorem timed_after {begun : Option Nat} (timed : d.Timed begun) :
    after.Timed (begun.or (Beat.mk d move).begun?) := by
  cases turned with
  | idle idle => simpa [idle.unbegun] using timed
  | @pass time free =>
      simp only [Beat.begun?, Option.or_none]
      refine ⟨timed.fresh, timed.set, fun connecting finite => ?_⟩
      obtain ⟨start, begun, rings, early⟩ := timed.pending connecting finite
      have reached : time ≤ start + d.transport.options.connectTimeout :=
        awaited_of_free connecting free _ rings
      exact ⟨start, begun, rings, Nat.max_le.2 ⟨early, reached⟩⟩
  | @begin fresh kept =>
      have unbegun : begun = none := timed.fresh.2 fresh
      have begins : (Beat.mk d .start).begun? = some d.clock.now := if_pos ⟨fresh, kept⟩
      rw [unbegun, begins]
      refine ⟨by simp [enter], fun alarm there => ?_, fun _ finite => ?_⟩
      · rcases (Clock.mem_set _).1 there with old | ⟨finite, rfl⟩
        · obtain ⟨-, start, begun, -⟩ := timed.set alarm old
          cases unbegun.symm.trans begun
        · exact ⟨finite, d.clock.now, rfl, rfl⟩
      · exact ⟨d.clock.now, rfl, (Clock.mem_set _).2 (.inr ⟨finite, rfl⟩), by
          simp [Clock.set_now]⟩
  | ring fires other =>
      obtain ⟨due, -, -, -, members⟩ := Clock.next?_some fires
      simp only [Beat.begun?, Option.or_none]
      exact timed.settle rfl Iff.rfl other fun _ left => (members _).2 (.inr left)
  | expire connecting fires =>
      obtain ⟨due, -, -, -, members⟩ := Clock.next?_some fires
      simp only [Beat.begun?, Option.or_none]
      exact timed.settle rfl (by simp [connecting, enter]) (by simp [enter]) fun _ left =>
        (members _).2 (.inr left)
  | connect going | refuse going | part _ going =>
      simp only [Beat.begun?, Option.or_none]
      exact timed.settle rfl (by simp [going, enter]) (by simp [enter]) fun _ left => left
  | choke live | hangUp live | sever live | withdraw _ live =>
      simp only [Beat.begun?, Option.or_none]
      exact timed.settle rfl (by simp [live, giveUp, enter, absorb])
        (by simp [giveUp, enter, absorb]) fun _ left => (Clock.mem_cancel _).1 left |>.1
  | dismiss dismisses =>
      rw [dismisses.quiet.unbegun, Option.or_none]
      exact ⟨timed.fresh, timed.set, timed.pending⟩
  | take | flush | skip | hear | say =>
      simp only [Beat.begun?, Option.or_none]
      exact ⟨timed.fresh, timed.set, timed.pending⟩

end Turn

end Tether.WebSocket.Dialogue
