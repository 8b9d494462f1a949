/-
# Tether.Proofs.WebSocket.Course -- a dialogue from its beginning to its end

A run is any list of moves, so the owner, the task and the peer may come in any order: what is
proved of every run holds however the task chooses between what it could do.  Its history is
the list of its beats, and everything that is promised is said of what was read off them.

* `kept` -- what the history of a run says of the dialogue it ends in.
* `bench_run` -- a bench runs a dialogue.
* `dialogue_course` -- what the owner is told and when, and what the peer reads.
-/
import Mathlib.Data.List.Induction
import Mathlib.Data.List.TakeWhile
import Tether.Proofs.WebSocket.Upkeep
import Tether.WebSocket.Bench

set_option autoImplicit false

namespace Tether.WebSocket.Dialogue

/-! ## Runs -/

def historyFrom (d : Dialogue) : List Move → List Beat
  | [] => []
  | move :: moves => ⟨d, move⟩ :: historyFrom (d.make move) moves

def history (options : Options) (moves : List Move) : List Beat :=
  (ofOptions options).historyFrom moves

def after (options : Options) (moves : List Move) : Dialogue := (ofOptions options).makeAll moves

def Dismissed (log : List Beat) : Prop := ∃ beat ∈ log, beat.Dismisses

/-- The beats before the owner resets or drops the transport. -/
def undisturbed (log : List Beat) : List Beat := log.takeWhile fun beat => ¬beat.Dismisses

def begunAt (log : List Beat) : Option Nat := log.findSome? Beat.begun?

instance (log : List Beat) : Decidable (Dismissed log) :=
  inferInstanceAs (Decidable (∃ beat ∈ log, beat.Dismisses))

def message? : TransportEvent → Option String
  | .message data => some data
  | .opened | .closed | .failed => none

theorem message?_eq_some {event : TransportEvent} {data : String} :
    message? event = some data ↔ event = .message data := by
  cases event <;> simp [message?]

theorem filterMap_concat {β : Type} (f : Beat → Option β) (log : List Beat) (beat : Beat) :
    (log ++ [beat]).filterMap f = log.filterMap f ++ (f beat).toList := by
  rw [List.filterMap_append]
  cases found : f beat <;> simp [found]

theorem begunAt_concat (log : List Beat) (beat : Beat) :
    begunAt (log ++ [beat]) = (begunAt log).or beat.begun? := by
  unfold begunAt
  rw [List.findSome?_append]
  cases found : beat.begun? <;> simp [found]

theorem begunAt_append {log : List Beat} {start : Nat} (begun : begunAt log = some start)
    (more : List Beat) : begunAt (log ++ more) = some start := by
  unfold begunAt at begun ⊢
  rw [List.findSome?_append, begun]
  rfl

theorem makeAll_append (d : Dialogue) (first last : List Move) :
    d.makeAll (first ++ last) = (d.makeAll first).makeAll last := List.foldl_append

theorem historyFrom_append (d : Dialogue) (first last : List Move) :
    d.historyFrom (first ++ last) =
      d.historyFrom first ++ (d.makeAll first).historyFrom last := by
  induction first generalizing d with
  | nil => rfl
  | cons move first ih => exact congrArg (_ :: ·) (ih (d.make move))

section Runs

variable {options : Options}

theorem after_concat (moves : List Move) (move : Move) :
    after options (moves ++ [move]) = (after options moves).make move :=
  makeAll_append _ moves [move]

theorem history_append (first last : List Move) :
    history options (first ++ last) =
      history options first ++ (after options first).historyFrom last :=
  historyFrom_append _ first last

theorem history_concat (moves : List Move) (move : Move) :
    history options (moves ++ [move]) = history options moves ++ [⟨after options moves, move⟩] :=
  history_append moves [move]

/-- Every beat of a history comes at the end of a shorter run. -/
theorem history_split {moves : List Move} {first last : List Beat} {beat : Beat}
    (split : history options moves = first ++ beat :: last) :
    ∃ early late, moves = early ++ beat.move :: late ∧ first = history options early ∧
      beat.before = after options early := by
  induction moves using List.reverseRecOn generalizing last with
  | nil => simp [history, historyFrom] at split
  | append_singleton moves move ih =>
      rw [history_concat] at split
      rcases List.eq_nil_or_concat last with rfl | ⟨rest, final, rfl⟩
      · obtain ⟨same, here⟩ := List.append_inj' split rfl
        cases here
        exact ⟨moves, [], rfl, same.symm, rfl⟩
      · have shorter : history options moves = first ++ beat :: rest := by
          have split' : history options moves ++ [⟨after options moves, move⟩] =
              (first ++ beat :: rest) ++ [final] := by simpa using split
          exact (List.append_inj' split' rfl).1
        obtain ⟨early, late, rfl, same, here⟩ := ih shorter
        exact ⟨early, late ++ [move], by simp, same, here⟩

end Runs

/-! ## Before the owner is gone -/

section Undisturbed

variable {log more : List Beat} {beat : Beat}

theorem dismissed_append : Dismissed (log ++ more) ↔ Dismissed log ∨ Dismissed more := by
  simp [Dismissed, or_and_right, exists_or]

theorem dismissed_concat : Dismissed (log ++ [beat]) ↔ Dismissed log ∨ beat.Dismisses := by
  simp [Dismissed, or_and_right, exists_or]

theorem undisturbed_of_not (here : ¬Dismissed log) : undisturbed log = log := by
  refine List.takeWhile_eq_self_iff.2 fun beat there => ?_
  simpa using fun dismisses => here ⟨beat, there, dismisses⟩

theorem undisturbed_append (gone : Dismissed log) :
    undisturbed (log ++ more) = undisturbed log := by
  unfold undisturbed
  rw [List.takeWhile_append, if_neg]
  intro whole
  obtain ⟨beat, there, dismisses⟩ := gone
  have all := List.takeWhile_eq_self_iff.1 ((List.takeWhile_prefix _).eq_of_length whole)
  exact absurd dismisses (by simpa using all beat there)

theorem undisturbed_prefix : undisturbed log <+: undisturbed (log ++ more) := by
  by_cases gone : Dismissed log
  · exact ⟨[], by rw [undisturbed_append gone, List.append_nil]⟩
  · have whole := undisturbed_of_not gone
    rw [whole]
    unfold undisturbed at whole ⊢
    rw [List.takeWhile_append, whole, if_pos rfl]
    exact List.prefix_append _ _

/-- A beat that is not disturbed has none before it that disturbs it, nor is one itself. -/
theorem split_of_undisturbed (there : beat ∈ undisturbed log) :
    ∃ first last, log = first ++ beat :: last ∧ ¬Dismissed (first ++ [beat]) := by
  obtain ⟨rest, whole⟩ : undisturbed log <+: log := List.takeWhile_prefix _
  obtain ⟨first, last, split⟩ := List.append_of_mem there
  refine ⟨first, last ++ rest, ?_, ?_⟩
  · rw [← whole, split]
    simp
  · rintro ⟨other, inside, dismisses⟩
    have early : other ∈ undisturbed log := by
      rw [split]
      rcases List.mem_append.1 inside with before | same
      · exact List.mem_append_left _ before
      · exact List.mem_append_right _ (List.mem_cons.2 (.inl (List.mem_singleton.1 same)))
    simpa [dismisses] using List.mem_takeWhile_imp early

/-- What the beats before the dismissal are reported as, with one beat more. -/
theorem told_concat :
    (undisturbed (log ++ [beat])).filterMap Beat.report? =
      (undisturbed log).filterMap Beat.report? ++
        (if Dismissed log then [] else beat.report?.toList) := by
  by_cases gone : Dismissed log
  · rw [undisturbed_append gone, if_pos gone, List.append_nil]
  · rw [if_neg gone, undisturbed_of_not gone]
    by_cases dismisses : beat.Dismisses
    · have cut : undisturbed (log ++ [beat]) = log := by
        have whole := undisturbed_of_not gone
        unfold undisturbed at whole ⊢
        rw [List.takeWhile_append, whole]
        simp [dismisses]
      rw [cut, dismisses.quiet.unreported]
      simp
    · rw [undisturbed_of_not (by simp [dismissed_concat, gone, dismisses])]
      cases told : beat.report? <;> simp [told]

end Undisturbed

/-! ## What holds all along -/

/-- What the history of a run says of the dialogue it ends in. -/
structure Kept (options : Options) (log : List Beat) (d : Dialogue) : Prop where
  options : d.transport.options = options
  dismissed : d.transport.dismissed = true ↔ Dismissed log
  detached : d.sink.detached = true ↔ d.transport.dismissed = true ∨ d.transport.phase = .ended
  told : d.events = (undisturbed log).filterMap Beat.report?
  story : ∃ phase, Story phase d.events ∧
    (d.transport.dismissed = false → phase = d.transport.phase)
  outward : d.Outward (log.filterMap Beat.taken?)
  inward : d.Inward (log.filterMap Beat.said?) (log.filterMap Beat.text?)
  timed : d.Timed (begunAt log)

theorem kept_new (options : Options) : Kept options [] (ofOptions options) where
  options := rfl
  dismissed := by simp [ofOptions, Dismissed]
  detached := by simp [ofOptions]
  told := rfl
  story := ⟨.fresh, rfl, fun _ => rfl⟩
  outward := ⟨List.prefix_refl _, fun _ => rfl⟩
  inward := ⟨List.prefix_refl _, fun _ => rfl⟩
  timed := ⟨by simp [begunAt, ofOptions], by simp [ofOptions], by simp [ofOptions]⟩

theorem Kept.make {options : Options} {log : List Beat} {d : Dialogue} (kept : Kept options log d)
    (move : Move) : Kept options (log ++ [⟨d, move⟩]) (d.make move) := by
  have turned := turn d move
  -- A sink is cut off at the end too, but there is nothing to report any more.
  have told : (d.make move).events = d.events ++
      if Dismissed log then [] else (Beat.mk d move).report?.toList := by
    rw [turned.events_after]
    by_cases gone : Dismissed log
    · rw [if_pos gone, if_pos (kept.detached.2 (.inl (kept.dismissed.2 gone)))]
    · rw [if_neg gone]
      split
      · rename_i off
        have ended : d.transport.phase = .ended :=
          (kept.detached.1 off).resolve_left (mt kept.dismissed.1 gone)
        rw [Beat.report?_ended ended]
        rfl
      · rfl
  refine ⟨turned.options_after.trans kept.options, ?_, turned.detached_after kept.detached, ?_, ?_,
    ?_, ?_, ?_⟩
  · rw [turned.dismissed_after, dismissed_concat]
    simp [kept.dismissed]
  · rw [told, told_concat, kept.told]
  · obtain ⟨phase, story, here⟩ := kept.story
    by_cases gone : d.transport.dismissed = true
    · refine ⟨phase, ?_, fun back => ?_⟩
      · rwa [told, if_pos (kept.dismissed.1 gone), List.append_nil]
      · rw [turned.dismissed_after, gone] at back
        cases back
    · have still : d.transport.dismissed = false := Bool.eq_false_iff.2 gone
      refine ⟨(d.make move).transport.phase, ?_, fun _ => rfl⟩
      rw [told, if_neg (mt kept.dismissed.2 gone)]
      exact turned.story_after still (here still ▸ story)
  · rw [filterMap_concat]
    exact turned.outward_after kept.outward
  · rw [filterMap_concat, filterMap_concat]
    exact turned.inward_after kept.inward
  · rw [begunAt_concat]
    exact turned.timed_after kept.timed

theorem kept (options : Options) (moves : List Move) :
    Kept options (history options moves) (after options moves) := by
  induction moves using List.reverseRecOn with
  | nil => exact kept_new options
  | append_singleton moves move ih =>
      rw [history_concat, after_concat]
      exact ih.make move

/-! ## The course of a dialogue -/

namespace Story

variable {phase : Phase} {events : List TransportEvent} (story : Story phase events)

include story

theorem shape :
    events = [.failed] ∨
      ∃ (texts : List String) (last : TransportEvent), last.isTerminal = true ∧
        events <+: .opened :: texts.map .message ++ [last] := by
  cases phase with
  | fresh | connecting => exact .inr ⟨[], .closed, rfl, story ▸ List.nil_prefix⟩
  | live =>
      obtain ⟨texts, rfl⟩ := story
      exact .inr ⟨texts, .closed, rfl, List.prefix_append _ _⟩
  | ended =>
      refine story.imp_right ?_
      rintro ⟨texts, last, terminal, rfl⟩
      exact ⟨texts, last, terminal, List.prefix_refl _⟩

/-- A terminal event is the last one. -/
theorem last {event : TransportEvent} (told : event ∈ events)
    (terminal : event.isTerminal = true) : events.getLast? = some event := by
  have stem (texts : List String) : event ∉ TransportEvent.opened :: texts.map .message := by
    intro inside
    rcases List.mem_cons.1 inside with rfl | spoken
    · cases terminal
    · obtain ⟨text, -, rfl⟩ := List.mem_map.1 spoken
      cases terminal
  cases phase with
  | fresh | connecting => exact absurd (story ▸ told) List.not_mem_nil
  | live =>
      obtain ⟨texts, rfl⟩ := story
      exact absurd told (stem texts)
  | ended =>
      rcases story with rfl | ⟨texts, last, -, rfl⟩
      · rw [List.mem_singleton.1 told]
        rfl
      · rcases List.mem_append.1 told with early | late
        · exact absurd early (stem texts)
        · rw [List.mem_singleton.1 late]
          exact List.getLast?_concat

end Story

section Course

variable {options : Options} {moves : List Move} {beat : Beat}

/-- An event is reported when something happens that comes to it, before the dismissal. -/
theorem mem_events {event : TransportEvent} :
    event ∈ (after options moves).events ↔
      ∃ beat ∈ undisturbed (history options moves), beat.report? = some event := by
  rw [(kept options moves).told]
  exact List.mem_filterMap

theorem events_grow (first last : List Move) :
    (after options first).events <+: (after options (first ++ last)).events := by
  rw [(kept options _).told, (kept options _).told, history_append]
  exact undisturbed_prefix.filterMap _

/-- Every beat continues a run. -/
theorem kept_before (there : beat ∈ history options moves) :
    ∃ early last, history options moves = history options early ++ beat :: last ∧
      Kept options (history options early) beat.before := by
  obtain ⟨first, last, split⟩ := List.append_of_mem there
  obtain ⟨early, -, -, rfl, here⟩ := history_split split
  exact ⟨early, last, split, here ▸ kept options early⟩

/-- What was reported by the time of a beat before the dismissal, and of it, stays reported. -/
theorem told_before (there : beat ∈ undisturbed (history options moves)) :
    Story beat.before.transport.phase beat.before.events ∧
      beat.before.events ++ beat.report?.toList <+: (after options moves).events := by
  obtain ⟨first, last, split, here⟩ := split_of_undisturbed there
  obtain ⟨early, late, rfl, rfl, before⟩ := history_split split
  have going : ¬Dismissed (history options early) := fun gone =>
    here (dismissed_append.2 (.inl gone))
  have past := before ▸ kept options early
  have next : (after options (early ++ [beat.move])).events =
      beat.before.events ++ beat.report?.toList := by
    rw [(kept options _).told, history_concat, told_concat, if_neg going, past.told, ← before]
  obtain ⟨phase, story, same⟩ := past.story
  have still : beat.before.transport.dismissed = false :=
    Bool.eq_false_iff.2 (mt past.dismissed.1 going)
  refine ⟨same still ▸ story, ?_⟩
  rw [← next, List.append_cons early beat.move late]
  exact events_grow _ late

theorem story_after (here : ¬Dismissed (history options moves)) :
    Story (after options moves).transport.phase (after options moves).events := by
  obtain ⟨phase, story, same⟩ := (kept options moves).story
  exact same (Bool.eq_false_iff.2 (mt (kept options moves).dismissed.1 here)) ▸ story

/-- Open is reported if and only if a connection is made before the dismissal. -/
theorem opened_iff :
    .opened ∈ (after options moves).events ↔
      ∃ beat ∈ undisturbed (history options moves), beat.Connects := by
  simp only [mem_events, Beat.report?_opened]

/-- Nothing but the failure is reported if and only if no connection comes about. -/
theorem only_failed :
    (after options moves).events = [.failed] ↔
      ∃ beat ∈ undisturbed (history options moves), beat.Refused ∨ beat.RunsOut := by
  constructor
  · intro alone
    obtain ⟨beat, there, told⟩ := mem_events.1 (alone ▸ List.mem_singleton_self _)
    rcases Beat.report?_failed.1 told with refused | out | breaks
    · exact ⟨beat, there, .inl refused⟩
    · exact ⟨beat, there, .inr out⟩
    · obtain ⟨story, grows⟩ := told_before there
      rw [breaks.live] at story
      obtain ⟨texts, opened⟩ := story
      rw [alone, opened] at grows
      cases (List.cons_prefix_cons.1 grows).1
  · rintro ⟨beat, there, fails⟩
    obtain ⟨story, grows⟩ := told_before there
    have connecting : beat.before.transport.phase = .connecting :=
      fails.elim And.right fun out => out.2.1
    have failed : beat.report? = some .failed :=
      Beat.report?_failed.2 (fails.imp_right Or.inl)
    rw [connecting] at story
    have silent : beat.before.events = [] := story
    rw [silent, failed] at grows
    obtain ⟨_, story, -⟩ := (kept options moves).story
    rcases story.shape with alone | ⟨texts, last, -, opened⟩
    · exact alone
    · cases (List.cons_prefix_cons.1 (grows.trans opened)).1

/-- An attempt runs out of time at its deadline. -/
theorem runs_out_at (there : beat ∈ history options moves) (out : beat.RunsOut) :
    ∃ start, begunAt (history options moves) = some start ∧
      beat.time = start + options.connectTimeout := by
  obtain ⟨early, last, split, past⟩ := kept_before there
  obtain ⟨start, begun, now⟩ := past.timed.runs_out out.2.1 out.2.2
  rw [split]
  exact ⟨start, begunAt_append begun _, past.options ▸ now⟩

/-- A connection is made by the deadline. -/
theorem connects_by (there : beat ∈ history options moves) (connects : beat.Connects)
    (finite : options.connectTimeout < Clock.never) {start : Nat}
    (begun : begunAt (history options moves) = some start) :
    beat.time ≤ start + options.connectTimeout := by
  obtain ⟨early, last, split, past⟩ := kept_before there
  obtain ⟨start', begun', -, early⟩ := past.timed.pending connects.2 (past.options.symm ▸ finite)
  rw [split, begunAt_append begun'] at begun
  cases begun
  exact past.options ▸ early

/-- Past the deadline there is a connection, or a failure alone. -/
theorem settled_by (finite : options.connectTimeout < Clock.never) {start : Nat}
    (begun : begunAt (history options moves) = some start)
    (late : start + options.connectTimeout < (after options moves).clock.now)
    (here : ¬Dismissed (history options moves)) :
    (∃ beat ∈ history options moves,
      beat.Connects ∧ beat.time ≤ start + options.connectTimeout) ∨
      (after options moves).events = [.failed] := by
  have holds := kept options moves
  have story := story_after here
  have connected (told : .opened ∈ (after options moves).events) :
      ∃ beat ∈ history options moves,
        beat.Connects ∧ beat.time ≤ start + options.connectTimeout := by
    obtain ⟨beat, there, connects⟩ := opened_iff.1 told
    have inside : beat ∈ history options moves := (undisturbed_of_not here) ▸ there
    exact ⟨beat, inside, connects, connects_by inside connects finite begun⟩
  cases phase : (after options moves).transport.phase with
  | fresh => cases begun.symm.trans (holds.timed.fresh.2 phase)
  | connecting =>
      obtain ⟨start', begun', -, early⟩ :=
        holds.timed.pending phase (holds.options.symm ▸ finite)
      cases begun.symm.trans begun'
      rw [holds.options] at early
      exact absurd late (Nat.not_lt.2 early)
  | live =>
      rw [phase] at story
      obtain ⟨texts, told⟩ := story
      exact .inl (connected (told ▸ List.mem_cons_self))
  | ended =>
      rw [phase] at story
      rcases story with alone | ⟨texts, last, -, told⟩
      · exact .inr alone
      · exact .inl (connected (told ▸ List.mem_append_left _ List.mem_cons_self))

/-- The messages that are reported are the texts that are read before the dismissal. -/
theorem messages_read :
    (after options moves).events.filterMap message? =
      (undisturbed (history options moves)).filterMap Beat.text? := by
  rw [(kept options moves).told, List.filterMap_filterMap]
  refine congrArg (List.filterMap · _) (funext fun beat => Option.ext fun data => ?_)
  rw [← Beat.report?_message, Option.bind_eq_some_iff]
  simp [message?_eq_some]

/-- What comes to a terminal event is the last thing that is reported. -/
theorem ends_with {event : TransportEvent} (terminal : event.isTerminal = true)
    (here : ¬Dismissed (history options moves)) (there : beat ∈ history options moves)
    (told : beat.report? = some event) : (after options moves).events.getLast? = some event := by
  refine (story_after here).last (mem_events.2 ⟨beat, ?_, told⟩) terminal
  rwa [undisturbed_of_not here]

/-- After the dismissal nothing is reported. -/
theorem silent_after (gone : Dismissed (history options moves)) (more : List Move) :
    (after options (moves ++ more)).events = (after options moves).events := by
  rw [(kept options _).told, (kept options _).told, history_append, undisturbed_append gone]

end Course

/-! ## Benches -/

theorem sendAll_moves (b : Bench) (frames : List String) :
    ∃ moves, (b.sendAll frames).1.toDialogue = b.toDialogue.makeAll moves := by
  induction frames generalizing b with
  | nil => exact ⟨[], rfl⟩
  | cons frame frames ih =>
      obtain ⟨moves, rest⟩ := ih (b.run [.send frame, .flush])
      exact ⟨.send frame :: .flush :: moves, rest⟩

/-- Whatever a bench is told to do, the parties only make moves. -/
theorem apply_moves (b : Bench) (command : Bench.Command) :
    ∃ moves, (b.apply command).1.toDialogue = b.toDialogue.makeAll moves := by
  have guarded {outcome : Bench × Bench.Answer}
      (moved : ∃ moves, outcome.1.toDialogue = b.toDialogue.makeAll moves) :
      ∃ moves, (b.unlessDropped outcome).1.toDialogue = b.toDialogue.makeAll moves := by
    unfold Bench.unlessDropped
    split
    · exact ⟨[], rfl⟩
    · exact moved
  cases command with
  | kind => exact guarded ⟨[], rfl⟩
  | send frames => exact guarded (sendAll_moves b frames)
  | start | startOnly | reset | drop => exact guarded ⟨_, rfl⟩
  | peer incoming => exact ⟨_, rfl⟩

/-- Every bench is in the middle of a run. -/
theorem bench_run (options : Options) (peer : Peer) (routed : Bool)
    (commands : List Bench.Command) :
    ∃ moves, (commands.foldl (fun b command => (b.apply command).1)
      (Bench.ofOptions options peer routed)).toDialogue = after options moves := by
  induction commands using List.reverseRecOn with
  | nil => exact ⟨[], rfl⟩
  | append_singleton commands command ih =>
      obtain ⟨moves, here⟩ := ih
      rw [List.foldl_append]
      obtain ⟨more, next⟩ := apply_moves (commands.foldl (fun b command => (b.apply command).1)
        (Bench.ofOptions options peer routed)) command
      exact ⟨moves ++ more, next.trans (here ▸ (makeAll_append _ moves more).symm)⟩

/-- **What a dialogue comes to**, whatever its parties do and when.  The owner is told Open, then
messages, then at most one end, or a failure alone: Open exactly when the connection is made, the
failure alone exactly when it is refused or runs out of time.  It runs out at its deadline, and past
that there is a connection or a failure.  The messages are the texts that are read until the
dismissal, and those are the first that the peer said.  The end is Close where the reader meets one,
or the end of the stream, and Error where reading or writing fails.  After a reset or drop nothing
is told.  And what is written to the peer are the first frames that were taken. -/
theorem dialogue_course (options : Options) (moves : List Move) :
    let log := history options moves
    let events := (after options moves).events
    (events = [.failed] ∨
      ∃ (texts : List String) (last : TransportEvent), last.isTerminal = true ∧
        events <+: .opened :: texts.map .message ++ [last]) ∧
    (.opened ∈ events ↔ ∃ beat ∈ undisturbed log, beat.Connects) ∧
    (events = [.failed] ↔ ∃ beat ∈ undisturbed log, beat.Refused ∨ beat.RunsOut) ∧
    (∀ beat ∈ log, beat.RunsOut →
      ∃ start, begunAt log = some start ∧ beat.time = start + options.connectTimeout) ∧
    (∀ start, begunAt log = some start → options.connectTimeout < Clock.never →
      start + options.connectTimeout < (after options moves).clock.now → ¬Dismissed log →
        (∃ beat ∈ log, beat.Connects ∧ beat.time ≤ start + options.connectTimeout) ∨
          events = [.failed]) ∧
    events.filterMap message? = (undisturbed log).filterMap Beat.text? ∧
    log.filterMap Beat.text? <+: (log.filterMap Beat.said?).filterMap Incoming.text? ∧
    (¬Dismissed log →
      ((∃ beat ∈ log, beat.Closes) → events.getLast? = some .closed) ∧
        ((∃ beat ∈ log, beat.Breaks) → events.getLast? = some .failed)) ∧
    (Dismissed log → ∀ more, (after options (moves ++ more)).events = events) ∧
    (after options moves).written <+: log.filterMap Beat.taken? := by
  intro log events
  obtain ⟨_, story, -⟩ := (kept options moves).story
  refine ⟨story.shape, opened_iff, only_failed, fun _ there => runs_out_at there, ?_, messages_read,
    (kept options moves).inward.read, fun here => ⟨?_, ?_⟩, silent_after,
    (kept options moves).outward.written⟩
  · exact fun start begun finite late here => settled_by finite begun late here
  · rintro ⟨beat, there, closes⟩
    exact ends_with rfl here there (Beat.report?_closed.2 closes)
  · rintro ⟨beat, there, breaks⟩
    exact ends_with rfl here there (Beat.report?_failed.2 (.inr (.inr breaks)))

/-- A text is read, and what comes after the reset is not told, though it is read, and a frame that
was taken before is still written. -/
example :
    let run := after { url := "ws://localhost/" }
      [.start, .connect, .send "a", .say (.text "b"), .read, .reset, .say (.text "c"), .read,
        .flush, .leave, .flush]
    run.events = [.opened, .message "b"] ∧ run.heard = [.text "a", .close] := by
  decide

end Tether.WebSocket.Dialogue
