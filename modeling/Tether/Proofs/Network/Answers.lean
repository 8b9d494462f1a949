/-
# Tether.Proofs.Network.Answers -- no answer is forgotten

An answer that comes in waits in the ledger until its owner takes it, and the errand that has
it taken waits on the list.  No move parts the two: what is left of a request once the errand
has run is never an answer (`Pledged.make`).  So where no errand is left, every request that
was neither taken nor given up is still in flight.

* `answered_errand` -- an answer that was not taken is on the list of errands.
* `waiting_of_calm` -- where no errand is left, a request that is not closed is in flight.
-/
import Mathlib.Data.List.Induction
import Tether.Proofs.Network.Moves

set_option autoImplicit false

namespace Tether.Network

/-- A request has an answer that its owner has not taken. -/
def Answered (n : Network) (number : Nat) : Prop :=
  ∃ request outcome, n.exchange.entries[number]? = some request ∧
    request.standing = .answered outcome

/-- Every answer that was not taken is on the list of errands. -/
def Pledged (n : Network) : Prop := ∀ number, n.Answered number → .answered number ∈ n.errands

/-- `m` has no answer that `n` has not, and every errand of `n` that takes one. -/
structure Keeps (n m : Network) : Prop where
  answered : ∀ number, m.Answered number → n.Answered number
  errands : ∀ number, .answered number ∈ n.errands → .answered number ∈ m.errands

section Keeps

variable {n m k : Network} {line number : Nat}

theorem Keeps.trans (first : Keeps n m) (second : Keeps m k) : Keeps n k where
  answered number there := first.answered number (second.answered number there)
  errands number waits := second.errands number (first.errands number waits)

theorem Pledged.keeps (pledged : Pledged n) (keeps : Keeps n m) : Pledged m :=
  fun number there => keeps.errands number (pledged number (keeps.answered number there))

theorem keeps_of_same (exchange : m.exchange = n.exchange) (errands : m.errands = n.errands) :
    Keeps n m where
  answered number there := by rwa [Answered, exchange] at there
  errands number waits := by rwa [errands]

theorem keeps_emit (line : Nat) (event : TransportEvent) : Keeps n (n.emit line event).2 := by
  unfold emit
  split <;> exact keeps_of_same rfl rfl

theorem keeps_post (request : Http.Request) (owner : Owner) (limit : Nat) :
    Keeps n (n.post request owner limit) where
  answered number there := by
    obtain ⟨found, outcome, here, standing⟩ := there
    refine ⟨found, outcome, ?_, standing⟩
    simp only [post, Http.Exchange.post, List.getElem?_append] at here
    split at here
    · exact here
    · rw [List.getElem?_singleton] at here
      split at here <;> cases here
      cases standing
  errands number waits := waits

theorem keeps_pollingAct (line : Nat) (act : LongPoll.Act) : Keeps n (pollingAct line n act) := by
  cases act with
  | post job request limit => exact keeps_post request _ limit
  | emit event => exact keeps_emit line event
  | detach => exact keeps_of_same rfl rfl
  | wake | release => exact ⟨fun _ there => there, fun _ waits => List.mem_append_left _ waits⟩

theorem keeps_persistentAct (line : Nat) (act : WebSocket.Act) :
    Keeps n (persistentAct line n act) := by
  cases act with
  | connect | write | close | abandon | detach => exact keeps_of_same rfl rfl
  | emit event => exact keeps_emit line event

theorem keeps_foldl {act : Type} {go : Network → act → Network} (keeps : ∀ n a, Keeps n (go n a))
    (acts : List act) (n : Network) : Keeps n (acts.foldl go n) := by
  induction acts generalizing n with
  | nil => exact keeps_of_same rfl rfl
  | cons a acts ih => exact (keeps n a).trans (ih _)

theorem keeps_advancePolling (line : Nat) (step : LongPoll × List LongPoll.Act) :
    Keeps n (n.advancePolling line step) := by
  have carried : Keeps n (n.setCarrier line (some (.polling step.1))) := keeps_of_same rfl rfl
  exact carried.trans (keeps_foldl (fun _ act => keeps_pollingAct line act) step.2 _)

theorem keeps_advancePersistent (line : Nat) (step : WebSocket × List WebSocket.Act) :
    Keeps n (n.advancePersistent line step) := by
  have carried : Keeps n (n.setCarrier line (some (.persistent step.1))) := keeps_of_same rfl rfl
  exact carried.trans (keeps_foldl (fun _ act => keeps_persistentAct line act) step.2 _)

theorem keeps_start (line : Nat) : Keeps n (n.start line) := by
  unfold start
  split
  · exact keeps_advancePolling line _
  · exact keeps_advancePersistent line _
  · exact keeps_of_same rfl rfl

theorem keeps_reset (line : Nat) : Keeps n (n.reset line) := by
  unfold reset
  split
  · exact keeps_advancePolling line _
  · exact keeps_advancePersistent line _
  · exact keeps_of_same rfl rfl

theorem keeps_send (line : Nat) (frame : String) : Keeps n (n.send line frame).2 := by
  unfold send
  split
  · split
    · exact keeps_advancePolling line _
    · exact keeps_of_same rfl rfl
  · split
    · exact keeps_advancePersistent line _
    · exact keeps_of_same rfl rfl
  · exact keeps_of_same rfl rfl

theorem keeps_givenUp (p : Owner → Bool) : Keeps n (n.givenUp p) where
  answered number there := by
    obtain ⟨found, outcome, here, standing⟩ := there
    simp only [givenUp, Http.Exchange.giveUp, List.getElem?_map, Option.map_eq_some_iff] at here
    obtain ⟨request, here, rfl⟩ := here
    refine ⟨request, outcome, here, ?_⟩
    split at standing
    · cases standing
    · exact standing
  errands number waits := waits

theorem keeps_deliver (owner : Owner) (outcome : Http.Outcome) : Keeps n (n.deliver owner outcome) := by
  unfold deliver
  split
  · split
    · exact keeps_advancePolling _ _
    · exact keeps_of_same rfl rfl
  · exact keeps_of_same rfl rfl

theorem keeps_closing (number : Nat) : Keeps n (n.closing number) where
  answered other there := by
    obtain ⟨found, outcome, here, standing⟩ := there
    simp only [closing, Http.Exchange.settle, List.getElem?_modify,
      Option.map_eq_map, Option.map_eq_some_iff] at here
    obtain ⟨request, here, rfl⟩ := here
    refine ⟨request, outcome, here, ?_⟩
    split at standing
    · cases standing
    · exact standing
  errands number waits := waits

theorem keeps_finish (owner : Owner) (outcome : Http.Outcome) :
    Keeps n (n.finish number owner outcome) :=
  (keeps_closing number).trans (keeps_deliver owner outcome)

theorem not_answered_closing (number : Nat) : ¬(n.closing number).Answered number := by
  rintro ⟨found, outcome, here, standing⟩
  simp only [closing, Http.Exchange.settle, List.getElem?_modify, Option.map_eq_map,
    Option.map_eq_some_iff, if_true] at here
  obtain ⟨request, -, rfl⟩ := here
  cases standing

theorem keeps_ring (alarm : Alarm) : Keeps n (n.ring alarm) := by
  unfold ring
  split
  · split
    · exact keeps_finish _ _
    · exact keeps_of_same rfl rfl
  · split
    · exact keeps_advancePersistent _ _
    · exact keeps_of_same rfl rfl
  · exact keeps_of_same rfl rfl

theorem pledged_answer (pledged : Pledged n) (address : Http.Exchange.Address)
    (outcome : Http.Outcome) : Pledged (n.answer address outcome).2 := by
  unfold answer
  split
  · exact pledged
  · rename_i number found
    rintro other ⟨request, given, here, standing⟩
    by_cases same : number = other
    · subst same
      exact List.mem_append_right _ (List.mem_singleton_self _)
    · simp only [Http.Exchange.settle, List.getElem?_modify, same, if_false] at here
      exact List.mem_append_left _ (pledged other ⟨request, given, by simpa using here, standing⟩)

/-- An errand that runs takes the answer that it is about, and no other. -/
theorem pledged_errand (pledged : Pledged n) {front back : List Errand} {errand : Errand}
    (split : n.errands = front ++ errand :: back) :
    Pledged ((n.withErrands (front ++ back)).runErrand errand) := by
  have others {number : Nat} (there : n.Answered number) (other : errand ≠ .answered number) :
      .answered number ∈ front ++ back := by
    have listed := pledged number there
    rw [split, List.mem_append, List.mem_cons] at listed
    rcases listed with first | rfl | last
    · exact List.mem_append_left _ first
    · exact absurd rfl other
    · exact List.mem_append_right _ last
  cases errand with
  | wake line job =>
      have rest : Pledged (n.withErrands (front ++ back)) := fun _ there => others there (by simp)
      refine rest.keeps ?_
      simp only [runErrand]
      split
      · exact keeps_advancePolling line _
      · exact keeps_of_same rfl rfl
  | release line =>
      have rest : Pledged (n.withErrands (front ++ back)) := fun _ there => others there (by simp)
      exact rest.keeps (keeps_givenUp _)
  | answered number =>
      simp only [runErrand]
      split
      · -- The answer that this errand was for is gone, and every other has its own errand.
        rename_i owner outcome here
        have closing := keeps_closing (n := n.withErrands (front ++ back)) number
        have told := keeps_deliver (n := (n.withErrands (front ++ back)).closing number) owner outcome
        intro other there
        have before := told.answered other there
        have different : number ≠ other := by
          rintro rfl
          exact not_answered_closing number before
        exact told.errands other (others (closing.answered other before) (by simpa using different))
      · rename_i unanswered
        rintro other ⟨request, outcome, here, standing⟩
        refine others ⟨request, outcome, here, standing⟩ ?_
        rintro ⟨⟩
        obtain ⟨request, owner, given⟩ := request
        cases standing
        exact unanswered _ _ _ here

theorem Pledged.make (pledged : Pledged n) (move : Move) : Pledged (n.make move) := by
  cases move with
  | add => exact pledged.keeps (keeps_of_same rfl rfl)
  | start line => exact pledged.keeps (keeps_start line)
  | send line frame => exact pledged.keeps (keeps_send line frame)
  | reset line => exact pledged.keeps (keeps_reset line)
  | drop line => exact pledged.keeps ((keeps_reset line).trans (keeps_of_same rfl rfl))
  | detach => exact pledged.keeps (keeps_of_same rfl rfl)
  | emit line event => exact pledged.keeps (keeps_emit line event)
  | answer address outcome => exact pledged_answer pledged address outcome
  | ask request attempt manual limit => exact pledged.keeps (keeps_post request _ limit)
  | abandon attempt => exact pledged.keeps (keeps_givenUp _)
  | set | cancel | fetch | wait => exact pledged.keeps (keeps_of_same rfl rfl)
  | errand index =>
      simp only [Network.make]
      split
      · rename_i errand here
        rw [List.eraseIdx_eq_take_drop_succ]
        exact pledged_errand pledged (split_at_errand here)
      · exact pledged
  | alarm limit =>
      simp only [Network.make]
      split
      · rename_i alarm clock fires
        have carried : Keeps n { n with clock } := keeps_of_same rfl rfl
        exact pledged.keeps (carried.trans (keeps_ring alarm))
      · exact pledged

end Keeps

/-- An answer that was not taken is on the list of errands. -/
theorem answered_errand (moves : List Move) : Pledged (after moves) := by
  induction moves using List.reverseRecOn with
  | nil =>
      rintro number ⟨request, outcome, here, -⟩
      cases here
  | append_singleton moves move ih =>
      rw [after_concat]
      exact ih.make move

theorem waiting_of_calm {moves : List Move} (calm : (after moves).errands = []) {request : Request}
    (posted : request ∈ (after moves).exchange.entries) (held : request.standing ≠ .closed) :
    request.standing = .waiting := by
  cases standing : request.standing with
  | waiting => rfl
  | closed => exact absurd standing held
  | answered outcome =>
      obtain ⟨number, here⟩ := List.getElem?_of_mem posted
      have listed := answered_errand moves number ⟨request, outcome, here, standing⟩
      rw [calm] at listed
      cases listed

end Tether.Network
