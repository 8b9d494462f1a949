/-
# Tether.Proofs.Transport.Refusals -- why a transport does not take a frame

A frame is refused as not open by a transport that has not opened yet, and as closed by one
whose time is over (`Truthful`).  A polling transport answers so in every run.  A persistent
one does while it lasts and after a reset or drop; where the peer closed the connection, or the
attempt or the connection failed, it says not open.

* `live_iff` -- a persistent transport is connected from when it connects until it ends.
* `polling_truthful` -- a polling transport tells the truth.
* `send_refusals` -- when each of the two does, and what a persistent one says otherwise.
* `refused_not_open` -- a persistent transport that failed says that it is not open.
-/
import Tether.Proofs.Network.Channel
import Tether.Proofs.WebSocket.Course

set_option autoImplicit false

namespace Tether

namespace WebSocket.Dialogue

/-- The transport closes or fails: the peer's close, the end of the stream, an attempt to connect
that comes to nothing, or an error of reading or writing. -/
def Beat.Ends (beat : Beat) : Prop :=
  beat.Closes ∨ beat.Refused ∨ beat.RunsOut ∨ beat.Breaks

theorem Beat.ends_iff {beat : Beat} :
    beat.Ends ↔ ∃ event, beat.report? = some event ∧ event.isTerminal = true := by
  unfold Beat.Ends
  rw [← report?_failed, ← report?_closed]
  constructor
  · rintro (closed | failed)
    · exact ⟨.closed, closed, rfl⟩
    · exact ⟨.failed, failed, rfl⟩
  · rintro ⟨event, told, terminal⟩
    cases event with
    | opened | message _ => cases terminal
    | closed => exact .inl told
    | failed => exact .inr told

section Refusal

variable {options : Options} {moves : List Move}

theorem ends_iff (here : ¬Dismissed (history options moves)) :
    (∃ event ∈ (after options moves).events, event.isTerminal = true) ↔
      ∃ beat ∈ history options moves, beat.Ends := by
  simp only [mem_events, undisturbed_of_not here, Beat.ends_iff]
  constructor
  · rintro ⟨event, ⟨beat, there, told⟩, terminal⟩
    exact ⟨beat, there, event, told, terminal⟩
  · rintro ⟨beat, there, event, told, terminal⟩
    exact ⟨event, ⟨beat, there, told⟩, terminal⟩

/-- The transport is connected after it connected, until it ends. -/
theorem live_iff (here : ¬Dismissed (history options moves)) :
    (after options moves).transport.phase = .live ↔
      (∃ beat ∈ history options moves, beat.Connects) ∧
        ¬∃ beat ∈ history options moves, beat.Ends := by
  rw [← ends_iff here]
  have opened : .opened ∈ (after options moves).events ↔
      ∃ beat ∈ history options moves, beat.Connects := by
    rw [opened_iff, undisturbed_of_not here]
  rw [← opened]
  have story := story_after here
  cases phase : (after options moves).transport.phase with
  | fresh | connecting =>
      rw [phase] at story
      have silent : (after options moves).events = [] := story
      simp [silent]
  | live =>
      rw [phase] at story
      obtain ⟨texts, told⟩ := story
      simp [told, TransportEvent.isTerminal]
  | ended =>
      rw [phase] at story
      rcases story with told | ⟨texts, last, terminal, told⟩
      · simp [told]
      · simp [told, terminal]

theorem refusal_eq (frame : String) :
    (after options moves).refusal frame =
      if Dismissed (history options moves) then some .closed
      else if (after options moves).transport.phase = .live then none else some .notOpen := by
  have gone := (kept options moves).dismissed
  unfold refusal send
  by_cases dismissed : Dismissed (history options moves)
  · rw [if_pos dismissed, if_pos (gone.2 dismissed)]
  · rw [if_neg dismissed, if_neg (mt gone.1 dismissed)]
    cases phase : (after options moves).transport.phase <;> rfl

end Refusal

end WebSocket.Dialogue

/-- An answer to a frame tells the truth: not open only before the transport opens or comes to its
end, and closed whenever it has come to its end. -/
structure Truthful (answer : Option SendFault) (opened ended : Prop) : Prop where
  unopened : answer = some .notOpen → ¬opened ∧ ¬ended
  closed : ended → answer = some .closed

open LongPoll (Ended Opened) in
/-- A polling transport refuses a frame for what has become of it. -/
theorem polling_truthful (options : LongPoll.Options) (moves : List Network.Move) (frame : String) :
    Truthful ((Network.after (Network.solo options moves)).send 0 frame).1
      (Opened (Network.history 0 (Network.solo options moves)))
      (Ended (Network.history 0 (Network.solo options moves))) := by
  rw [Network.send_solo]
  by_cases ended : Ended (Network.history 0 (Network.solo options moves))
  · rw [if_pos ended]
    exact ⟨nofun, fun _ => rfl⟩
  · rw [if_neg ended]
    refine ⟨fun refused => ⟨fun opened => ?_, ended⟩, fun past => absurd past ended⟩
    rw [if_pos opened] at refused
    cases refused

open WebSocket.Dialogue in
/-- **Why a frame is refused.**  A polling transport always tells the truth.  A persistent one says
closed exactly when it was reset or dropped before, and not open in every other case where it is not
connected, whether it never was or its connection has ended; so it tells the truth unless it has
ended of itself. -/
theorem send_refusals (polled : LongPoll.Options) (asked : List Network.Move)
    (options : WebSocket.Options) (moves : List Move) (frame : String) :
    Truthful ((Network.after (Network.solo polled asked)).send 0 frame).1
      (LongPoll.Opened (Network.history 0 (Network.solo polled asked)))
      (LongPoll.Ended (Network.history 0 (Network.solo polled asked))) ∧
    let log := history options moves
    let answer := (after options moves).refusal frame
    (answer = some .closed ↔ Dismissed log) ∧
      (answer = some .notOpen ↔ ¬Dismissed log ∧
        ((¬∃ beat ∈ log, beat.Connects) ∨ ∃ beat ∈ log, beat.Ends)) ∧
      (Truthful answer (∃ beat ∈ log, beat.Connects) ((∃ beat ∈ log, beat.Ends) ∨ Dismissed log) ↔
        Dismissed log ∨ ¬∃ beat ∈ log, beat.Ends) := by
  refine ⟨polling_truthful polled asked frame, ?_⟩
  intro log answer
  have told : answer = _ := refusal_eq frame
  by_cases gone : Dismissed log
  · have closed : answer = some .closed := told.trans (if_pos gone)
    have opened : answer ≠ some .notOpen := by simp [closed]
    exact ⟨iff_of_true closed gone, iff_of_false opened fun other => other.1 gone,
      iff_of_true ⟨fun refused => absurd refused opened, fun _ => closed⟩ (.inl gone)⟩
  · have live := live_iff gone
    by_cases phase : (after options moves).transport.phase = .live
    · obtain ⟨connects, going⟩ := live.1 phase
      have taken : answer = none := told.trans ((if_neg gone).trans (if_pos phase))
      refine ⟨by simp [taken, gone], by simp [taken, log, connects, going], ?_⟩
      refine iff_of_true ⟨fun refused => ?_, fun past => ?_⟩ (.inr going)
      · cases taken.symm.trans refused
      · exact absurd past (not_or.2 ⟨going, gone⟩)
    · have refused : answer = some .notOpen := told.trans ((if_neg gone).trans (if_neg phase))
      have shut : (¬∃ beat ∈ log, beat.Connects) ∨ ∃ beat ∈ log, beat.Ends :=
        (not_and_or.1 (mt live.2 phase)).imp_right not_not.1
      refine ⟨by simp [refused, gone], iff_of_true refused ⟨gone, shut⟩, ?_⟩
      constructor
      · intro honest
        exact .inr fun ends => (honest.unopened refused).2 (.inl ends)
      · intro going
        have still : ¬∃ beat ∈ log, beat.Ends := going.resolve_left gone
        exact ⟨fun _ => ⟨shut.resolve_right still, not_or.2 ⟨still, gone⟩⟩,
          fun past => absurd past (not_or.2 ⟨still, gone⟩)⟩

open WebSocket.Dialogue in
/-- A persistent transport that could not connect says that it is not open, though it has failed. -/
theorem refused_not_open :
    ¬∀ (options : WebSocket.Options) (moves : List Move) (frame : String),
      Truthful ((after options moves).refusal frame)
        (∃ beat ∈ history options moves, beat.Connects)
        ((∃ beat ∈ history options moves, beat.Ends) ∨ Dismissed (history options moves)) := by
  intro truthful
  let options : WebSocket.Options := { url := "ws://localhost/" }
  let moves : List Move := [.start, .refuse "connection refused"]
  have failed : ∃ beat ∈ history options moves, beat.Ends := by
    refine ⟨⟨after options [.start], .refuse "connection refused"⟩, ?_, ?_⟩
    · exact List.mem_cons_of_mem _ (List.mem_singleton_self _)
    · exact .inr (.inl ⟨⟨_, rfl⟩, rfl⟩)
  have answered : (after options moves).refusal "b" = some .notOpen := rfl
  cases answered.symm.trans ((truthful options moves "b").closed (.inl failed))

end Tether
