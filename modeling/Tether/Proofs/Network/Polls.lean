/-
# Tether.Proofs.Network.Polls -- a polling transport holds one poll

Whatever happens to a network, in whatever order, what it holds of a line fits the log of the
polling transport on that line (`Holds`): each move is one turn of the line, and each turn
spends from the docket what the call waited for.  Where no errand is left, what is left of the
docket are requests that wait for their answers.

* `holds_history` -- what a network holds of a line fits its history.
* `answered_errand` -- an answer that was not taken is on the list of errands.
* `one_poll_in_turn` -- where no errand is left at most one poll is held, and one is exactly
  while the transport is open; the polls carry the tokens that the server gave, in turn.
-/
import Tether.Proofs.Network.Answers

set_option autoImplicit false

namespace Tether.Network

open LongPoll (Beat Call Docket Fits Opened Ended asked due)

/-- What a network holds of a line fits a log. -/
inductive Holds (log : List Beat) (v : View) : Prop
  /-- There never was a polling transport on the line. -/
  | blank (silent : log = []) (absent : v.poller = none) (empty : v.docket = {})
      (unasked : v.polls = [])
  | here {t : LongPoll} (built : v.built) (poller : v.poller = some t)
      (fits : Fits log t v.docket) (posted : v.polls = asked log)
  /-- The polling transport was dropped. -/
  | gone {t : LongPoll} (built : v.built) (absent : v.poller = none) (ended : t.phase = .ended)
      (fits : Fits log t v.docket) (posted : v.polls = asked log)

/-- Nothing can be spent from an empty docket. -/
theorem spends_empty {call : Call} {d d' : Docket} (spends : Docket.Spends d call d')
    (empty : d = {}) : d' = {} := by
  cases spends with
  | start | send | reset => exact empty
  | wake _ job =>
      have one := congrArg (fun d => d.wakes job) empty
      simp [Docket.wake] at one
  | answer _ job =>
      have one := congrArg (fun d => d.flights job) empty
      simp [Docket.post] at one

/-- What a line holds fits its log, turn by turn. -/
theorem Holds.turn {log : List Beat} {v v' : View} {beat : Option Beat} (holds : Holds log v)
    (turn : Turn v beat v') : Holds (log ++ beat.toList) v' := by
  cases turn with
  | aside => exact (List.append_nil log).symm ▸ holds
  | hear poller spends stays =>
      rename_i beat d kept
      -- Only a line that has its transport hears anything.
      have fits : Fits log beat.before v.docket ∧ v.polls = asked log ∧ v.built := by
        cases holds with
        | blank _ absent => rw [absent] at poller; cases poller
        | gone _ absent => rw [absent] at poller; cases poller
        | here built found fits posted =>
            cases found.symm.trans poller
            exact ⟨fits, posted, built⟩
      obtain ⟨fits, posted, built⟩ := fits
      have after := fits.heed spends
      have polls : v.polls ++ beat.acts.filterMap LongPoll.Act.pollBody? = asked (log ++ [beat]) := by
        rw [posted, LongPoll.asked_concat]
      rcases stays with rfl | ⟨rfl, ended⟩
      · exact .here built rfl after polls
      · exact .gone built rfl ended after polls
  | lapse absent spends =>
      rw [Option.toList_none, List.append_nil]
      cases holds with
      | blank silent _ empty unasked => exact .blank silent absent (spends_empty spends empty) unasked
      | gone built _ ended fits posted => exact .gone built absent ended (fits.lapse ended spends) posted
      | here _ poller => rw [absent] at poller; cases poller
  | release released =>
      rw [Option.toList_none, List.append_nil]
      cases holds with
      | blank _ _ empty => rw [empty] at released; cases released
      | gone built absent _ fits posted =>
          obtain ⟨ended, fits⟩ := fits.clear released _
          exact .gone built absent ended fits posted
      | here built poller fits posted =>
          exact .here built poller (fits.clear released _).2 posted
  | add unbuilt =>
      rw [Option.toList_none, List.append_nil]
      cases holds with
      | blank silent absent empty unasked =>
          subst silent
          refine .here trivial rfl ?_ unasked
          rw [empty]
          exact LongPoll.fits_new _
      | here built => exact absurd built unbuilt
      | gone built => exact absurd built unbuilt
  | addOther unbuilt =>
      rw [Option.toList_none, List.append_nil]
      cases holds with
      | blank silent absent empty unasked => exact .blank silent rfl empty unasked
      | here built => exact absurd built unbuilt
      | gone built => exact absurd built unbuilt

/-- What a network holds of a line fits the history of that line. -/
theorem holds_history (line : Nat) (moves : List Move) :
    Holds (history line moves) ((after moves).view line) := by
  induction moves using List.reverseRecOn with
  | nil => exact .blank rfl rfl rfl rfl
  | append_singleton moves move ih =>
      rw [history_concat, after_concat]
      exact ih.turn (turn (after moves) line move)

/-- The polls on the ledger are those that the transport asked to post. -/
theorem polls_history (line : Nat) (moves : List Move) :
    (after moves).polls line = asked (history line moves) := by
  cases holds_history line moves with
  | blank silent _ _ unasked =>
      rw [silent]
      exact unasked
  | here _ _ _ posted => exact posted
  | gone _ _ _ _ posted => exact posted

/-! ## The polls that are held -/

/-- The polls of a line that are in flight. -/
def heldPolls (n : Network) (line : Nat) : List Request :=
  n.exchange.entries.filter fun request =>
    request.owner = .job line .polling ∧ request.standing = .waiting

theorem length_heldPolls {moves : List Move} (calm : (after moves).errands = []) (line : Nat) :
    ((after moves).heldPolls line).length = ((after moves).docket line).flights .polling := by
  unfold heldPolls
  rw [← List.countP_eq_length_filter]
  refine List.countP_congr fun request posted => ?_
  simp only [isHeld, decide_eq_true_eq]
  refine and_congr_right fun _ => ⟨?_, waiting_of_calm calm posted⟩
  intro waits
  simp [waits]

theorem docket_calm {n : Network} (calm : n.errands = []) (line : Nat) :
    (n.docket line).wakes .polling = 0 ∧ (n.docket line).released = false := by
  simp [docket, calm]

/-- **A polling transport holds one poll.**  Whatever happened, the bodies of the polls that it
posted are those that it owes: its id with each token in turn, from the first one on.  Where no
errand is left, at most one poll is in flight, and one is exactly if the transport opened and has
neither failed nor been reset or dropped. -/
theorem one_poll_in_turn (line : Nat) (moves : List Move) :
    ((after moves).polls line = [] ∨ (after moves).polls line = due (history line moves)) ∧
      ((after moves).errands = [] →
        ((after moves).heldPolls line).length ≤ 1 ∧
          (((after moves).heldPolls line).length = 1 ↔
            Opened (history line moves) ∧ ¬Ended (history line moves)) ∧
          (Opened (history line moves) ∧ ¬Ended (history line moves) →
            (after moves).polls line = due (history line moves))) := by
  have fitted {t : LongPoll} (fits : Fits (history line moves) t ((after moves).docket line))
      (calm : (after moves).errands = []) := by
    obtain ⟨idle, kept⟩ := docket_calm calm line
    exact (length_heldPolls calm line).symm ▸ fits.calm idle kept
  cases holds_history line moves with
  | blank silent absent empty unasked =>
      refine ⟨.inl unasked, fun calm => ?_⟩
      have none : ((after moves).docket line).flights .polling = 0 :=
        congrArg (fun d => d.flights .polling) empty
      rw [length_heldPolls calm, none, silent]
      simp [Opened]
  | here built poller fits posted =>
      have same : (after moves).polls line = asked (history line moves) := posted
      rw [same]
      exact ⟨fits.paid, fitted fits⟩
  | gone built absent ended fits posted =>
      have same : (after moves).polls line = asked (history line moves) := posted
      rw [same]
      exact ⟨fits.paid, fitted fits⟩

/-- A transport that opened and whose first poll brought a frame. -/
def polledOnce : List Move :=
  [.add { webSocket := none, longPoll := { sendUrl := "send", pollUrl := "poll" } } .polling,
    .start 0, .errand 0,
    .answer (.path "send") (.response (.ofBody "u&a".toUTF8.toList)), .errand 0, .errand 0,
    .answer (.path "poll") (.response (.ofBody "b&hello".toUTF8.toList)), .errand 0]

/-- The second poll is held, with the token that the first one brought. -/
theorem second_poll_held :
    (after polledOnce).errands = [] ∧ ((after polledOnce).heldPolls 0).length = 1 ∧
      (after polledOnce).polls 0 = ["u&a", "u&b"] := by
  have calm : (after polledOnce).errands = [] := by decide +kernel
  have live : Opened (history 0 polledOnce) ∧ ¬Ended (history 0 polledOnce) := by decide +kernel
  have bodies : due (history 0 polledOnce) = ["u&a", "u&b"] := by decide +kernel
  obtain ⟨-, held⟩ := one_poll_in_turn 0 polledOnce
  obtain ⟨-, one, owed⟩ := held calm
  exact ⟨calm, one.2 live, (owed live).trans bodies⟩

end Tether.Network
