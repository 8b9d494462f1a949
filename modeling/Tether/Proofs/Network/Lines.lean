/-
# Tether.Proofs.Network.Lines -- the conduct of each transport

What is proved of one transport call by call holds of every polling transport on a network, move
by move: a move tells a line of at most one call, which spends from the docket of that line what
it waited for, and all other moves leave the line as it is.

The conduct of a transport is all that its calls keep: its docket and its mail fit its log, it has
told what it heard, and it goes by the id and the options that it was given.

* `Conduct.heed` -- every call keeps the conduct.
* `conduct_solo` -- the conduct of a transport that is alone at first.
* `blank_or_conduct` -- the conduct of every polling transport that was ever built.
-/
import Tether.Proofs.LongPoll.Mail
import Tether.Proofs.LongPoll.Tale
import Tether.Proofs.Network.Polls

set_option autoImplicit false

namespace Tether.LongPoll

/-- A frame is reported right after the next poll was posted, with the token that came before the
frame. -/
def Ahead (options : Options) (early : List Beat) (beat : Beat) : Prop :=
  ∀ frame, .emit (.message frame) ∈ beat.acts →
    ∃ response token rest, beat.call = .answer .polling (.response response) ∧
      cut response.text = some (token, frame) ∧
      beat.acts =
        .post .polling
          { url := options.pollUrl
            headers := Http.plainText
            body := (assigned early).getD "" ++ "&" ++ token }
          options.pollTimeout :: .emit (.message frame) :: rest

def Addressed (options : Options) (_ : List Beat) (beat : Beat) : Prop :=
  ∀ job request limit, .post job request limit ∈ beat.acts → request.url = options.url job

/-- All that the calls of a transport keep. -/
structure Conduct (options : Options) (log : List Beat) (t : LongPoll) (d : Docket) : Prop where
  fits : Fits log t d
  mails : Mails log t d
  tale : Tale (events log) log t.phase
  named : Named log t
  steady : t.options = options
  inTurn : Throughout InTurn log
  fails : Throughout FailsFirst log
  hushed : Throughout Hushed log
  ahead : Throughout (Ahead options) log
  addressed : Throughout (Addressed options) log

section Conduct

variable {options : Options} {log : List Beat} {beat : Beat} {t : LongPoll} {d d' : Docket}

theorem ahead (named : Named log beat.before) (steady : beat.before.options = options) :
    Ahead options log beat := by
  intro frame told
  obtain ⟨outcome, token, request, limit, rest, called, next, brought, rfl, acted⟩ :=
    message_after_poll told
  obtain ⟨response, own, rfl, cuts, carries⟩ := frame?_eq_some brought
  have same : own = token := Option.some.inj ((carries _).symm.trans next)
  subst same
  have posts : .post .polling _ limit ∈ (beat.before.heed beat.call).2 :=
    acted ▸ List.mem_cons_self
  have time := (post_terms posts).2
  refine ⟨response, own, rest, called, cuts, ?_⟩
  rw [acted, time, ← named, ← steady]
  rfl

theorem conduct_new (options : Options) : Conduct options [] { options } {} where
  fits := fits_new options
  mails := mails_new options
  tale := ⟨rfl, rfl⟩
  named := rfl
  steady := rfl
  inTurn := throughout_nil
  fails := throughout_nil
  hushed := throughout_nil
  ahead := throughout_nil
  addressed := throughout_nil

/-- **Every call keeps the conduct**, if it spends what it waited for. -/
theorem Conduct.heed (kept : Conduct options log beat.before d)
    (spends : Docket.Spends d beat.call d') :
    Conduct options (log ++ [beat]) beat.after (d'.enterAll beat.acts) where
  fits := kept.fits.heed spends
  mails := kept.mails.heed kept.fits spends
  tale := kept.tale.heed kept.fits spends
  named := kept.named.heed kept.fits spends
  steady := (heed_fst _ _).1.trans kept.steady
  inTurn := kept.inTurn.concat (kept.mails.inTurn spends)
  fails := kept.fails.concat (fails_first kept.fits)
  hushed := kept.hushed.concat (LongPoll.hushed kept.fits)
  ahead := kept.ahead.concat (LongPoll.ahead kept.named kept.steady)
  addressed := kept.addressed.concat fun _ _ _ posts =>
    kept.steady ▸ (post_terms (t := beat.before) posts).1

/-- What waits for a transport that has ended can lapse. -/
theorem Conduct.lapse {call : Call} (kept : Conduct options log t d) (ended : t.phase = .ended)
    (spends : Docket.Spends d call d') : Conduct options log t d' :=
  { kept with
    fits := kept.fits.lapse ended spends
    mails := kept.mails.lapse ended spends }

/-- Once the requests of a transport are given up, none is in flight. -/
theorem Conduct.clear (kept : Conduct options log t d) (released : d.released = true)
    (again : Bool) : Conduct options log t (d.clear again) :=
  { kept with
    fits := (kept.fits.clear released again).2
    mails := kept.mails.clear (kept.fits.clear released again).1 again }

end Conduct

end Tether.LongPoll

namespace Tether.Network

open LongPoll (Beat Call Conduct Docket Options)

/-- There never was a polling transport on a line. -/
structure Blank (log : List Beat) (v : View) : Prop where
  silent : log = []
  absent : v.poller = none
  empty : v.docket = {}

/-- A polling transport with this log was built on a line. -/
structure Built (options : Options) (log : List Beat) (v : View) (t : LongPoll) : Prop where
  built : v.built
  /-- The transport is there until it is dropped. -/
  stays : v.poller = some t ∨ v.poller = none ∧ t.phase = .ended
  conduct : Conduct options log t v.docket

section Turns

variable {options : Options} {log : List Beat} {v v' : View} {beat : Option Beat} {t : LongPoll}

/-- A transport keeps its conduct, turn by turn. -/
theorem Built.turn (built : Built options log v t) (turn : Turn v beat v') :
    ∃ t', Built options (log ++ beat.toList) v' t' := by
  obtain ⟨there, stays, conduct⟩ := built
  cases turn with
  | aside => exact ⟨t, there, stays, (List.append_nil log).symm ▸ conduct⟩
  | hear poller spends goes =>
      rename_i beat d kept
      have here : beat.before = t := by
        rcases stays with same | ⟨absent, -⟩
        · rw [poller] at same
          exact Option.some.inj same
        · rw [poller] at absent
          cases absent
      subst here
      have after := conduct.heed spends
      rcases goes with rfl | ⟨rfl, ended⟩
      · exact ⟨beat.after, there, .inl rfl, after⟩
      · exact ⟨beat.after, there, .inr ⟨rfl, ended⟩, after⟩
  | lapse absent spends =>
      rcases stays with same | ⟨-, ended⟩
      · rw [absent] at same
        cases same
      · refine ⟨t, there, .inr ⟨absent, ended⟩, ?_⟩
        exact (List.append_nil log).symm ▸ conduct.lapse ended spends
  | release released =>
      exact ⟨t, there, stays, (List.append_nil log).symm ▸ conduct.clear released _⟩
  | add unbuilt => exact absurd there unbuilt
  | addOther unbuilt => exact absurd there unbuilt

/-- A line stays blank until a polling transport is built on it. -/
theorem Blank.turn (blank : Blank log v) (turn : Turn v beat v') :
    Blank (log ++ beat.toList) v' ∨
      ¬v.built ∧ log ++ beat.toList = [] ∧ ∃ options, Built options [] v' { options } := by
  obtain ⟨silent, absent, empty⟩ := blank
  subst silent
  cases turn with
  | aside => exact .inl ⟨rfl, absent, empty⟩
  | hear poller =>
      rw [absent] at poller
      cases poller
  | lapse _ spends => exact .inl ⟨rfl, absent, spends_empty spends empty⟩
  | release released =>
      rw [empty] at released
      cases released
  | @add unbuilt options =>
      refine .inr ⟨unbuilt, rfl, options, trivial, .inl rfl, ?_⟩
      simp only [empty]
      exact LongPoll.conduct_new options
  | addOther => exact .inl ⟨rfl, rfl, empty⟩

end Turns

/-- The conduct of every polling transport that was ever built. -/
theorem blank_or_conduct (line : Nat) (moves : List Move) :
    Blank (history line moves) ((after moves).view line) ∨
      ∃ options t, Built options (history line moves) ((after moves).view line) t := by
  induction moves using List.reverseRecOn with
  | nil => exact .inl ⟨rfl, rfl, rfl⟩
  | append_singleton moves move ih =>
      rw [history_concat, after_concat]
      rcases ih with blank | ⟨options, t, built⟩
      · refine (blank.turn (turn (after moves) line move)).imp_right ?_
        rintro ⟨-, silent, options, built⟩
        exact ⟨options, { options }, silent ▸ built⟩
      · exact .inr ⟨options, built.turn (turn (after moves) line move)⟩

theorem Built.run {options : Options} {log : List Beat} {line : Nat} {n : Network} {t : LongPoll}
    (built : Built options log (n.view line) t) (moves : List Move) :
    ∃ t', Built options (log ++ historyFrom line n moves) ((n.afterFrom moves).view line) t' := by
  induction moves generalizing n log t with
  | nil => exact ⟨t, (List.append_nil log).symm ▸ built⟩
  | cons move moves ih =>
      obtain ⟨t', next⟩ := built.turn (Network.turn n line move)
      rw [historyFrom, ← List.append_assoc]
      exact ih next

/-! ## A transport alone -/

/-- The run of a polling transport that is built first: its line is the first. -/
def solo (options : Options) (moves : List Move) : List Move :=
  .add { webSocket := none, longPoll := options } .polling :: moves

theorem conduct_solo (options : Options) (moves : List Move) :
    ∃ t, Built options (history 0 (solo options moves)) ((after (solo options moves)).view 0) t := by
  have first : Built options []
      ((make {} (.add { webSocket := none, longPoll := options } .polling)).view 0) { options } :=
    ⟨Nat.zero_lt_one, .inl rfl, LongPoll.conduct_new options⟩
  exact first.run moves

end Tether.Network
