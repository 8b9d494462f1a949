/-
# Tether.Proofs.Network.Reports -- transports whose caller keeps to the rules

A caller keeps to the rules if it takes all its transports from one factory and leaves their sinks
alone (`Orderly`).  It may open, reset and drop them as it likes, and hand them frames at any
time.  Then it can rely on what the transports report: one that has ended without being reset or
dropped has said so, and whatever was said stays among the arrivals until it is fetched.

* `blank_or_manned` -- every line of an orderly run.
* `fallen_make` -- a transport that ends by itself says so.
* `poller_make` -- what no call undoes holds of a transport for good.
* `flights_of_gone`, `poll_of_live`, `flights_le` -- what is in flight where no errand is left.
* `addressed_after` -- every request went to the endpoint that it is meant for.
-/
import Tether.Proofs.Network.Asks
import Tether.Proofs.Network.Channel

set_option autoImplicit false

namespace Tether.Network

open LongPoll (Beat Call Ended Options)

/-! ## Order -/

/-- The move takes a transport from this factory, if it adds one, and touches no sink. -/
def Move.Orderly (factory : Factory) : Move → Prop
  | .add other _ => other = factory
  | .detach _ | .emit _ _ => False
  | _ => True

/-- All transports come from this factory, and their sinks are left to them. -/
def Orderly (factory : Factory) (moves : List Move) : Prop :=
  ∀ move ∈ moves, move.Orderly factory

section Order

variable {factory : Factory} {moves : List Move} {move : Move}

theorem orderly_concat :
    Orderly factory (moves ++ [move]) ↔ Orderly factory moves ∧ move.Orderly factory := by
  simp [Orderly, or_imp, forall_and]

theorem Orderly.append {more : List Move} (orderly : Orderly factory moves)
    (rest : Orderly factory more) : Orderly factory (moves ++ more) := by
  intro move member
  exact (List.mem_append.1 member).elim (orderly move) (rest move)

theorem Move.Orderly.apart (orderly : move.Orderly factory) (line : Nat) : ¬move.Meddles line := by
  cases move with
  | detach | emit => exact orderly.elim
  | _ => exact not_false

end Order

/-! ## One line -/

/-- A polling transport was built on a line, and nobody but it touches its sink. -/
structure Manned (options : Options) (log : List Beat) (n : Network) (line : Nat) (t : LongPoll) :
    Prop where
  built : Built options log (n.view line) t
  polling : ¬n.isPersistent line
  own : Own log (n.sight line) (LongPoll.events log)

section Line

variable {factory : Factory} {options : Options} {log : List Beat} {n : Network} {line : Nat}
  {t : LongPoll} {move : Move}

/-- A transport reports its events to the end of the arrivals. -/
theorem Manned.make (manned : Manned options log n line t) (apart : ¬move.Meddles line) :
    (∃ t', Manned options (log ++ (n.beat? line move).toList) (n.make move) line t') ∧
      (move ≠ .fetch → (n.make move).news line =
        n.news line ++ (n.actsOf line move).filterMap LongPoll.Act.event?) := by
  obtain ⟨built, polling, own⟩ := manned
  obtain ⟨t', next⟩ := built.turn (turn n line move)
  have still := polling_make built.built polling move
  by_cases fetches : move = .fetch
  · subst fetches
    have mute : n.beat? line .fetch = none := rfl
    rw [mute, Option.toList_none, List.append_nil] at next ⊢
    exact ⟨⟨t', next, still, own.told, own.sink⟩, fun other => absurd rfl other⟩
  · have fits (beat : Beat) (hears : n.beat? line move = some beat) :
        ∃ d, LongPoll.Fits log beat.before d :=
      ⟨_, (built.before hears).symm ▸ built.conduct.fits⟩
    obtain ⟨more, news, after⟩ := own.step built.built polling fits apart fetches
    have told : LongPoll.events (log ++ (n.beat? line move).toList) =
        LongPoll.events log ++ (n.actsOf line move).filterMap LongPoll.Act.event? := by
      unfold actsOf
      cases n.beat? line move with
      | none => simp
      | some beat => exact LongPoll.events_concat log beat
    have same : more = (n.actsOf line move).filterMap LongPoll.Act.event? :=
      List.append_cancel_left (after.told.trans told)
    refine ⟨⟨t', next, still, ?_⟩, fun _ => same ▸ news⟩
    rw [told, ← same]
    exact after

/-- Only a transport that is added makes the lines more. -/
theorem length_make (n : Network) (move : Move) (others : ∀ factory kind, move ≠ .add factory kind) :
    (n.make move).lines.length = n.lines.length := by
  by_cases intervenes : move.Intervenes
  · cases move with
    | add factory kind => exact absurd rfl (others factory kind)
    | drop line =>
        exact (length_setCarrier ..).trans (proceeds_reset (n := n) line).lines
    | ask | abandon | fetch => rfl
    | start | send | reset | detach | emit | answer | set | cancel | wait | errand | alarm =>
        exact intervenes.elim
  · exact (proceeds_make move intervenes).lines

/-- A transport that is built has its options from the factory, and its sink is free. -/
theorem manned_add {other : Factory} {kind : TransportKind} (unbuilt : ¬(n.view line).built)
    (built : Built options [] ((n.addLine (other.create kind)).view line) { options }) :
    options = other.longPoll ∧
      Manned options [] (n.addLine (other.create kind)) line { options } := by
  have last : line = n.lines.length := by
    have before : ¬line < n.lines.length := unbuilt
    have now : line < (n.addLine (other.create kind)).lines.length := built.built
    have length : (n.addLine (other.create kind)).lines.length = n.lines.length + 1 := by
      simp [addLine]
    omega
  subst last
  have entry : (n.addLine (other.create kind)).lines[n.lines.length]? =
      some { carrier := some (other.create kind) } := by
    simp [addLine]
  have poller : (n.addLine (other.create kind)).poller? n.lines.length = some { options } := by
    rcases built.stays with here | ⟨-, ended⟩
    · exact here
    · cases ended
  have carrier := poller?_eq_some.1 poller
  have created : other.create kind = .polling { options } := by
    simpa [carrier?, entry] using carrier
  refine ⟨congrArg LongPoll.options (create_polling created), built, ?_, rfl, .inl ⟨?_, ?_⟩⟩
  · rintro ⟨ws, persistent⟩
    rw [carrier] at persistent
    cases persistent
  · simp [sight, entry]
  · simp [Ended]

end Line

/-- **Every line of an orderly run**: there never was a polling transport on it, or there was one
from the factory, with its sink to itself. -/
theorem blank_or_manned {factory : Factory} (line : Nat) {moves : List Move}
    (orderly : Orderly factory moves) :
    Blank (history line moves) ((after moves).view line) ∨
      ∃ t, Manned factory.longPoll (history line moves) (after moves) line t := by
  induction moves using List.reverseRecOn with
  | nil => exact .inl ⟨rfl, rfl, rfl⟩
  | append_singleton moves move ih =>
      obtain ⟨before, fair⟩ := orderly_concat.1 orderly
      rw [history_concat, after_concat]
      rcases ih before with blank | ⟨t, manned⟩
      · refine (blank.turn (turn (after moves) line move)).imp_right ?_
        rintro ⟨unbuilt, silent, options, built⟩
        by_cases adds : ∃ other kind, move = .add other kind
        · obtain ⟨other, kind, rfl⟩ := adds
          obtain ⟨same, manned⟩ := manned_add unbuilt built
          have own : other = factory := fair
          subst own
          rw [silent, ← same]
          exact ⟨_, manned⟩
        · have same := length_make (after moves) move fun other kind added =>
            adds ⟨other, kind, added⟩
          have there : line < (after moves).lines.length := same ▸ built.built
          exact absurd there unbuilt
      · exact .inr (manned.make (fair.apart line)).1

/-! ## What becomes of a transport -/

/-- The transport of a line is no longer there, or it has ended. -/
def Gone (n : Network) (line : Nat) : Prop := ∀ t, n.poller? line = some t → t.phase = .ended

/-- The transport of a line is still there, and it has ended. -/
def Fallen (n : Network) (line : Nat) : Prop := ∃ t, n.poller? line = some t ∧ t.phase = .ended

/-- The transport opened, whatever became of it. -/
def Launched (t : LongPoll) : Prop := t.phase = .live ∨ t.phase = .ended

section Fates

variable {n : Network} {line : Nat}

/-- What no call undoes holds of the transport of a line for good. -/
theorem poller_make {P : LongPoll → Prop} (kept : ∀ t call, P t → P (t.heed call).1)
    (built : line < n.lines.length) (held : ∀ t, n.poller? line = some t → P t) (move : Move) :
    ∀ t, (n.make move).poller? line = some t → P t := by
  have turned := turn n line move
  generalize n.beat? line move = beat at turned
  intro t here
  change ((n.make move).view line).poller = some t at here
  generalize (n.make move).view line = v at turned here
  cases turned with
  | aside | lapse | release => exact held t here
  | hear poller spends stays =>
      rcases stays with rfl | ⟨rfl, -⟩
      · cases here
        exact kept _ _ (held _ poller)
      · cases here
  | add unbuilt => exact absurd built unbuilt
  | addOther unbuilt => exact absurd built unbuilt

theorem length_le_make (n : Network) (move : Move) :
    n.lines.length ≤ (n.make move).lines.length := by
  by_cases adds : ∃ factory kind, move = .add factory kind
  · obtain ⟨factory, kind, rfl⟩ := adds
    simp [make, addLine]
  · exact Nat.le_of_eq (length_make n move fun factory kind same => adds ⟨factory, kind, same⟩).symm

theorem length_le_run (n : Network) (moves : List Move) :
    n.lines.length ≤ (n.afterFrom moves).lines.length := by
  induction moves generalizing n with
  | nil => exact Nat.le_refl _
  | cons move moves ih => exact Nat.le_trans (length_le_make n move) (ih _)

theorem length_run {moves : List Move}
    (others : ∀ move ∈ moves, ∀ factory kind, move ≠ .add factory kind) :
    (n.afterFrom moves).lines.length = n.lines.length := by
  induction moves generalizing n with
  | nil => rfl
  | cons move moves ih =>
      have rest := ih (n := n.make move) fun other member => others other (List.mem_cons_of_mem _ member)
      exact rest.trans (length_make n move (others move List.mem_cons_self))

theorem poller_run {P : LongPoll → Prop} (kept : ∀ t call, P t → P (t.heed call).1)
    (built : line < n.lines.length) (held : ∀ t, n.poller? line = some t → P t)
    (moves : List Move) : ∀ t, (n.afterFrom moves).poller? line = some t → P t := by
  induction moves generalizing n with
  | nil => exact held
  | cons move moves ih =>
      exact ih (Nat.lt_of_lt_of_le built (length_le_make n move)) (poller_make kept built held move)

/-- A transport that has ended, or was dropped, stays so. -/
theorem Gone.run (gone : n.Gone line) (built : line < n.lines.length) (moves : List Move) :
    (n.afterFrom moves).Gone line := by
  refine poller_run (fun t call ended => ?_) built gone moves
  rw [LongPoll.heed_over ended]
  exact ended

theorem gone_of_unbuilt (unbuilt : n.lines.length ≤ line) : n.Gone line := by
  intro t here
  exact absurd (lt_of_carrier? (poller?_eq_some.1 here)) (Nat.not_lt_of_le unbuilt)

theorem gone_reset (n : Network) (line : Nat) : (n.make (.reset line)).Gone line := by
  intro t here
  rcases (tells_reset : n.Tells line .reset (n.reset line)) with ⟨s, carrier, same⟩ | ⟨absent, kept⟩
  · have poller := congrArg View.poller (view_advancePolling n line (s.heed .reset)
      (lt_of_carrier? carrier))
    rw [if_pos rfl, ← same] at poller
    cases here.symm.trans poller
    rfl
  · have poller := (congrArg View.poller (kept line)).trans absent
    cases here.symm.trans poller

theorem gone_drop (n : Network) (line : Nat) : (n.make (.drop line)).Gone line := by
  intro t here
  have carrier := poller?_eq_some.1 here
  simp only [make, drop, carrier?_setCarrier, true_and] at carrier
  split at carrier
  · cases carrier
  · exact absurd (lt_of_carrier? carrier) ‹_›

/-- Among moves, one that ends a transport ends it for good. -/
theorem gone_of_mem {moves : List Move} {move : Move} (member : move ∈ moves)
    (ends : ∀ m : Network, (m.make move).Gone line) (built : line < n.lines.length) :
    (n.afterFrom moves).Gone line := by
  obtain ⟨first, rest, rfl⟩ := List.append_of_mem member
  rw [afterFrom_append]
  have there := Nat.lt_of_lt_of_le built (length_le_run n first)
  generalize n.afterFrom first = m at there
  exact (ends m).run (Nat.lt_of_lt_of_le there (length_le_make m move)) rest

theorem launched_waits {t after : LongPoll} {acts all : List LongPoll.Act}
    (launched : Launched t) (waits : LongPoll.Waits t acts after all) : Launched after := by
  rcases waits with ⟨rfl, -⟩ | ⟨rfl, -⟩
  · exact launched
  · exact .inr rfl

theorem Launched.heed {t : LongPoll} (launched : Launched t) (call : Call) :
    Launched (t.heed call).1 := by
  rcases launched with live | ended
  · have up := LongPoll.upshot (t := t) (by simp [live]) call
    generalize (t.heed call).1 = after, (t.heed call).2 = acts at up
    cases up with
    | idle | enqueue => exact .inl live
    | greet => exact .inl rfl
    | poll _ _ waits | again _ _ waits | feed _ _ waits =>
        refine launched_waits ?_ waits
        exact .inl live
    | fail | reset => exact .inr rfl
    | start fresh => cases live.symm.trans fresh
    | ask opening => cases live.symm.trans opening
  · rw [LongPoll.heed_over ended]
    exact .inr ended

/-- Whatever becomes of a transport, it has opened once it has. -/
theorem launched_run (launched : ∀ t, n.poller? line = some t → Launched t)
    (built : line < n.lines.length) (moves : List Move) :
    ∀ t, (n.afterFrom moves).poller? line = some t → Launched t :=
  poller_run (fun _ call launched => launched.heed call) built launched moves

/-- A transport that was dropped does not come back. -/
theorem dropped_make (dropped : n.poller? line = none) (built : line < n.lines.length)
    (move : Move) : (n.make move).poller? line = none := by
  have none := poller_make (P := fun _ => False) (fun _ _ nothing => nothing) built
    (fun t here => by rw [dropped] at here; cases here) move
  cases here : (n.make move).poller? line with
  | none => rfl
  | some t => exact (none t here).elim

/-- **A transport that ends without being reset or dropped says so**, and what was said stays. -/
theorem fallen_make {factory : Factory} {moves : List Move} {move : Move}
    (orderly : Orderly factory (moves ++ [move]))
    (spared : (after moves).told move ≠ some (line, .reset)) (keeps : move ≠ .fetch)
    (fallen : ((after moves).make move).Fallen line) :
    .failed ∈ ((after moves).make move).news line ∨
      (after moves).Fallen line ∧
        ∀ event ∈ (after moves).news line, event ∈ ((after moves).make move).news line := by
  obtain ⟨before, fair⟩ := orderly_concat.1 orderly
  obtain ⟨last, here, ended⟩ := fallen
  rcases blank_or_manned line before with blank | ⟨t, manned⟩
  · -- A transport that was just built has not ended.
    rcases blank.turn (turn (after moves) line move) with still | ⟨-, -, options, built⟩
    · have absent : ((after moves).make move).poller? line = none := still.absent
      rw [absent] at here
      cases here
    · rcases built.stays with there | ⟨-, past⟩
      · have same : last = { options } := Option.some.inj (here.symm.trans there)
        subst same
        cases ended
      · cases past
  · obtain ⟨⟨t', manned'⟩, news⟩ := manned.make (fair.apart line)
    have news := news keeps
    have same : t' = last := by
      rcases manned'.built.stays with there | ⟨absent, -⟩
      · exact Option.some.inj (there.symm.trans here)
      · cases here.symm.trans absent
    subst same
    have past := manned'.built.conduct.fits.ended_iff.1 ended
    have there : (after moves).poller? line = some t := by
      rcases manned.built.stays with there | ⟨absent, -⟩
      · exact there
      · rw [dropped_make absent manned.built.built move] at here
        cases here
    have kept : ∀ event ∈ (after moves).news line,
        event ∈ ((after moves).make move).news line := by
      intro event member
      rw [news]
      exact List.mem_append_left _ member
    cases hears : (after moves).beat? line move with
    | none =>
        rw [hears, Option.toList_none, List.append_nil] at past
        exact .inr ⟨⟨t, there, manned.built.conduct.fits.ended_iff.2 past⟩, kept⟩
    | some beat =>
        rw [hears, Option.toList_some, LongPoll.ended_concat] at past
        rcases past with earlier | failed | reset
        · exact .inr ⟨⟨t, there, manned.built.conduct.fits.ended_iff.2 earlier⟩, kept⟩
        · left
          rw [news, actsOf, hears]
          exact List.mem_append_right _ (List.mem_filterMap.2 ⟨_, failed, rfl⟩)
        · have told := (told_of_beat hears).1
          rw [reset] at told
          exact absurd told spared

/-- The move neither ends the transport of a line nor takes its news away. -/
def Move.Spares (line : Nat) : Move → Prop
  | .reset other | .drop other => other ≠ line
  | .fetch => False
  | _ => True

theorem told_of_spares {move : Move} (spares : move.Spares line) :
    n.told move ≠ some (line, .reset) := by
  cases move with
  | reset other | drop other =>
      intro told
      cases told
      exact spares rfl
  | errand index =>
      intro told
      obtain ⟨errand, -, told⟩ := Option.bind_eq_some_iff.1 told
      unfold toldByErrand at told
      split at told
      · cases told
      · split at told <;> cases told
      · cases told
  | alarm limit =>
      intro told
      obtain ⟨⟨alarm, clock⟩, -, told⟩ := Option.bind_eq_some_iff.1 told
      unfold toldByAlarm at told
      split at told
      · split at told <;> cases told
      · cases told
      · cases told
  | _ => exact nofun

/-- A transport that ends while it is spared says so, and what was said stays. -/
theorem fallen_run {factory : Factory} {moves more : List Move}
    (orderly : Orderly factory (moves ++ more)) (spared : ∀ move ∈ more, move.Spares line)
    (fallen : (after (moves ++ more)).Fallen line) :
    .failed ∈ (after (moves ++ more)).news line ∨
      (after moves).Fallen line ∧
        ∀ event ∈ (after moves).news line, event ∈ (after (moves ++ more)).news line := by
  induction more using List.reverseRecOn with
  | nil =>
      rw [List.append_nil] at fallen ⊢
      exact .inr ⟨fallen, fun _ there => there⟩
  | append_singleton more move ih =>
      rw [← List.append_assoc] at orderly fallen ⊢
      rw [after_concat] at fallen ⊢
      have spares := spared move (List.mem_append_right _ (List.mem_singleton_self move))
      have keeps : move ≠ .fetch := by
        rintro rfl
        exact spares
      rcases fallen_make orderly (told_of_spares spares) keeps fallen with said | ⟨before, stays⟩
      · exact .inl said
      · have first := (orderly_concat.1 orderly).1
        have spared := fun other member => spared other (List.mem_append_left _ member)
        rcases ih first spared before with said | ⟨start, kept⟩
        · exact .inl (stays _ said)
        · exact .inr ⟨start, fun event there => stays event (kept event there)⟩

/-- Only who drops a polling transport makes it vanish. -/
theorem present_make (here : (n.poller? line).isSome = true) {move : Move}
    (keeps : ∀ other, move ≠ .drop other) : ((n.make move).poller? line).isSome = true := by
  obtain ⟨t, poller⟩ := Option.isSome_iff_exists.1 here
  have carrier := poller?_eq_some.1 poller
  have polling : ¬n.isPersistent line := by
    rintro ⟨ws, persistent⟩
    cases carrier.symm.trans persistent
  have built := lt_of_carrier? carrier
  have there : ((n.make move).carrier? line).isSome = true := by
    by_cases intervenes : move.Intervenes
    · cases move with
      | add factory kind =>
          have same : (n.addLine (factory.create kind)).carrier? line = n.carrier? line := by
            simp only [addLine, carrier?, List.getElem?_append_left built]
          simp [make, same, carrier]
      | drop other => exact absurd rfl (keeps other)
      | ask | abandon | fetch => exact Option.isSome_iff_exists.2 ⟨_, carrier⟩
      | start | send | reset | detach | emit | answer | set | cancel | wait | errand | alarm =>
          exact intervenes.elim
    · exact (proceeds_make move intervenes).carriers line (by simp [carrier])
  obtain ⟨after, same⟩ := Option.isSome_iff_exists.1 there
  cases after with
  | polling t => exact Option.isSome_iff_exists.2 ⟨t, poller?_eq_some.2 same⟩
  | persistent ws => exact absurd ⟨ws, same⟩ (polling_make built polling move)

theorem present_run (here : (n.poller? line).isSome = true) {moves : List Move}
    (keeps : ∀ move ∈ moves, ∀ other, move ≠ .drop other) :
    ((n.afterFrom moves).poller? line).isSome = true := by
  induction moves generalizing n with
  | nil => exact here
  | cons move moves ih =>
      have first := present_make here (keeps move List.mem_cons_self)
      exact ih first fun other member => keeps other (List.mem_cons_of_mem _ member)

end Fates

/-! ## Where no errand is left -/

section Calm

variable {moves : List Move} {line : Nat}

theorem flights_blank {log : List Beat} {v : View} (blank : Blank log v) (job : LongPoll.Job) :
    v.docket.flights job = 0 := by
  rw [blank.empty]

/-- A transport that has ended has nothing in flight. -/
theorem flights_of_gone (calm : (after moves).errands = []) (gone : (after moves).Gone line)
    (job : LongPoll.Job) : ((after moves).docket line).flights job = 0 := by
  rcases blank_or_conduct line moves with blank | ⟨options, t, built⟩
  · exact flights_blank blank job
  · have ended : t.phase = .ended := by
      rcases built.stays with here | ⟨-, past⟩
      · exact gone t here
      · exact past
    have mails := built.conduct.mails
    simp only [LongPoll.Mails, ended] at mails
    rcases mails.2 with released | empty
    · have kept : ((after moves).docket line).released = false := (docket_calm calm line).2
      cases kept.symm.trans released
    · exact empty job

/-- A transport that is open holds one poll. -/
theorem poll_of_live {t : LongPoll} (calm : (after moves).errands = [])
    (here : (after moves).poller? line = some t) (live : t.phase = .live) :
    ((after moves).docket line).flights .polling = 1 := by
  rcases blank_or_conduct line moves with blank | ⟨options, other, built⟩
  · have absent : (after moves).poller? line = none := blank.absent
    rw [absent] at here
    cases here
  · have same : other = t := by
      rcases built.stays with there | ⟨absent, -⟩
      · exact Option.some.inj (there.symm.trans here)
      · cases here.symm.trans absent
    subst same
    have fits := built.conduct.fits
    obtain ⟨idle, kept⟩ := docket_calm calm line
    exact (fits.calm idle kept).2.1.2 (fits.live_iff.1 live)

/-- No transport has more than one poll and one request to the send endpoint in flight. -/
theorem flights_le (calm : (after moves).errands = []) (line : Nat) :
    ((after moves).docket line).flights .polling ≤ 1 ∧
      ((after moves).docket line).flights .opening + ((after moves).docket line).flights .sending ≤
        1 := by
  rcases blank_or_conduct line moves with blank | ⟨options, t, built⟩
  · have none (job : LongPoll.Job) : ((after moves).docket line).flights job = 0 :=
      flights_blank blank job
    simp only [none]
    exact ⟨Nat.zero_le 1, Nat.zero_le 1⟩
  · obtain ⟨idle, kept⟩ := docket_calm calm line
    obtain ⟨done, mail⟩ := built.conduct.mails.kept
    exact ⟨(built.conduct.fits.calm idle kept).1, mail.single⟩

end Calm

/-! ## Where requests go -/

/-- The request, with its job, if a transport posted it. -/
def jobLetter? (request : Request) : Option (LongPoll.Job × Http.Request) :=
  match request.owner with
  | .job _ job => some (job, request.request)
  | .reconnect _ _ => none

/-- All that transports ever posted, oldest first. -/
def mailing (n : Network) : List (LongPoll.Job × Http.Request) :=
  n.exchange.entries.filterMap jobLetter?

/-- Whatever transports posted went to the endpoint of its job. -/
def Addressed (options : Options) (n : Network) : Prop :=
  ∀ letter ∈ n.mailing, letter.2.url = options.url letter.1

section Addresses

variable {n m : Network} {options : Options} {line : Nat}

theorem mailing_pollingAct (line : Nat) (act : LongPoll.Act) :
    (pollingAct line n act).mailing = n.mailing ++ act.posted?.toList := by
  cases act with
  | post job request limit =>
      simp [pollingAct, mailing, post, Http.Exchange.post, jobLetter?, LongPoll.Act.posted?]
  | emit event =>
      have same : (n.emit line event).2.mailing = n.mailing := by
        unfold emit
        split <;> rfl
      exact same.trans (List.append_nil _).symm
  | wake | detach | release => exact (List.append_nil _).symm

theorem mailing_advancePolling (line : Nat) (step : LongPoll × List LongPoll.Act) :
    (n.advancePolling line step).mailing = n.mailing ++ step.2.filterMap LongPoll.Act.posted? := by
  have acts (acts : List LongPoll.Act) (m : Network) :
      (acts.foldl (pollingAct line) m).mailing =
        m.mailing ++ acts.filterMap LongPoll.Act.posted? := by
    induction acts generalizing m with
    | nil => simp
    | cons act acts ih =>
        rw [List.foldl_cons, ih, mailing_pollingAct, List.append_assoc]
        cases posted : act.posted? <;> simp [posted]
  exact acts step.2 (n.setCarrier line (some (.polling step.1)))

/-- A persistent transport posts nothing. -/
theorem exchange_advancePersistent (line : Nat) (step : WebSocket × List WebSocket.Act) :
    (n.advancePersistent line step).exchange = n.exchange := by
  have acts (acts : List WebSocket.Act) (m : Network) :
      (acts.foldl (persistentAct line) m).exchange = m.exchange := by
    induction acts generalizing m with
    | nil => rfl
    | cons act acts ih =>
        rw [List.foldl_cons, ih]
        cases act with
        | emit event =>
            simp only [persistentAct, emit]
            split <;> rfl
        | connect | write | close | abandon | detach => rfl
  exact acts step.2 _

theorem Addressed.same (addressed : Addressed options n) (same : m.mailing = n.mailing) :
    Addressed options m := by
  rwa [Addressed, same]

theorem Addressed.serves {call : Call} (addressed : Addressed options n)
    (steady : ∀ t, n.poller? line = some t → t.options = options) (serves : n.Serves line call m) :
    Addressed options m := by
  cases serves with
  | absent => exact addressed
  | persistent _ step =>
      refine addressed.same ?_
      rw [mailing, exchange_advancePersistent]
      rfl
  | @polling t carrier =>
      rintro ⟨job, request⟩ there
      rw [mailing_advancePolling, List.mem_append] at there
      rcases there with old | new
      · exact addressed _ old
      · obtain ⟨act, acted, posts⟩ := List.mem_filterMap.1 new
        cases act with
        | post own letter limit =>
            cases posts
            rw [← steady t (poller?_eq_some.2 carrier)]
            exact (LongPoll.post_terms acted).1
        | wake | emit | detach | release => cases posts

theorem mailing_settled (number : Nat) (standing : Http.Standing) :
    (n.settled number standing).mailing = n.mailing :=
  filterMap_modify jobLetter? fun _ => rfl

theorem mailing_givenUp (p : Owner → Bool) : (n.givenUp p).mailing = n.mailing := by
  have kept (request : Request) :
      jobLetter? (if p request.owner then { request with standing := .closed } else request) =
        jobLetter? request := by
    split <;> rfl
  simp only [mailing, givenUp, Http.Exchange.giveUp, List.filterMap_map, Function.comp_def, kept]

theorem Addressed.finish (addressed : Addressed options n)
    (steady : ∀ line t, n.poller? line = some t → t.options = options) (number : Nat)
    (owner : Owner) (outcome : Http.Outcome) :
    Addressed options (n.finish number owner outcome) := by
  have closed : Addressed options (n.closing number) :=
    addressed.same (mailing_settled number .closed)
  rw [finish_eq]
  cases owner with
  | reconnect attempt manual => exact closed
  | job line job => exact closed.serves (steady line) (serves_deliver _ _ job outcome)

theorem Addressed.make (addressed : Addressed options n)
    (steady : ∀ line t, n.poller? line = some t → t.options = options) (move : Move) :
    Addressed options (n.make move) := by
  cases move with
  | add | detach | set | cancel | fetch | wait => exact addressed
  | start line => exact addressed.serves (steady line) (serves_start ..)
  | send line frame => exact addressed.serves (steady line) (serves_send _ _ frame)
  | reset line => exact addressed.serves (steady line) (serves_reset ..)
  | drop line =>
      have reset : Addressed options (n.reset line) := addressed.serves (steady line) (serves_reset ..)
      exact reset
  | emit line event =>
      refine addressed.same ?_
      simp only [Network.make, emit]
      split <;> rfl
  | answer address outcome =>
      refine addressed.same ?_
      simp only [Network.make, answer]
      split
      · rfl
      · exact mailing_settled _ _
  | ask request attempt manual limit =>
      refine addressed.same ?_
      simp [Network.make, mailing, post, Http.Exchange.post, jobLetter?]
  | abandon attempt => exact addressed.same (mailing_givenUp _)
  | errand index =>
      simp only [Network.make]
      split
      · rename_i errand here
        -- Taking an errand off the list sends nothing and leaves every transport as it was.
        have less : Addressed options (n.withErrands (n.errands.eraseIdx index)) := addressed
        have same : ∀ line t, (n.withErrands (n.errands.eraseIdx index)).poller? line = some t →
            t.options = options := steady
        generalize n.withErrands (n.errands.eraseIdx index) = m at less same
        cases errand with
        | wake line job => exact less.serves (same line) (serves_wake _ _ job)
        | release line => exact less.same (mailing_givenUp _)
        | answered number =>
            simp only [runErrand]
            split
            · exact less.finish same number _ _
            · exact less
      · exact addressed
  | alarm limit =>
      simp only [Network.make]
      split
      · rename_i alarm clock fires
        have later : Addressed options { n with clock } := addressed
        have same : ∀ line t, ({ n with clock } : Network).poller? line = some t →
            t.options = options := steady
        generalize ({ n with clock } : Network) = m at later same
        cases alarm with
        | session => exact later
        | deadline number =>
            simp only [ring]
            split
            · exact later.finish same number _ _
            · exact later
        | connect line =>
            simp only [ring]
            split
            · refine later.same ?_
              rw [mailing, exchange_advancePersistent]
              rfl
            · exact later
      · exact addressed

end Addresses

/-- **Every request that a transport posted went to the endpoint of its job.** -/
theorem addressed_after {factory : Factory} {moves : List Move} (orderly : Orderly factory moves) :
    Addressed factory.longPoll (after moves) := by
  induction moves using List.reverseRecOn with
  | nil => exact nofun
  | append_singleton moves move ih =>
      obtain ⟨before, -⟩ := orderly_concat.1 orderly
      rw [after_concat]
      refine (ih before).make (fun line t here => ?_) move
      rcases blank_or_manned line before with blank | ⟨other, manned⟩
      · have absent : (after moves).poller? line = none := blank.absent
        rw [absent] at here
        cases here
      · rcases manned.built.stays with there | ⟨absent, -⟩
        · cases here.symm.trans there
          exact manned.built.conduct.steady
        · cases here.symm.trans absent

end Tether.Network
