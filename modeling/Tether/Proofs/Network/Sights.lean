/-
# Tether.Proofs.Network.Sights -- what comes out of a line

The server sees the requests that are posted for a line, and the caller the events that pass its
sink.  Both are the sight of the line.  A call adds to it what the transport asks for, act by act
(`Sight.see`); all other moves leave it alone, but for a caller that takes the sink into its own
hands.

* `sight_make` -- all that a move does to the sight of a line.
* `letters_solo` -- what was posted for a line is what its transport asked to post.
* `delivered_solo` -- as long as the sink is left to the transport, every event passes.
-/
import Tether.Proofs.Network.Lines

set_option autoImplicit false

namespace Tether.Network

open LongPoll (Beat Call Docket Options Job)

/-! ## What a call does to a network -/

/-- What becomes of a network when a line is served a call. -/
inductive Serves (n : Network) (line : Nat) (call : Call) : Network → Prop
  | polling {t : LongPoll} (carrier : n.carrier? line = some (.polling t)) :
      Serves n line call (n.advancePolling line (t.heed call))
  | persistent {ws : WebSocket} (carrier : n.carrier? line = some (.persistent ws))
      (step : WebSocket × List WebSocket.Act) : Serves n line call (n.advancePersistent line step)
  | absent (absent : n.poller? line = none) : Serves n line call n

section Serves

variable {n after : Network} {line : Nat} {call : Call}

theorem serves_of
    (polling : ∀ t, n.carrier? line = some (.polling t) →
      after = n.advancePolling line (t.heed call))
    (persistent : ∀ ws, n.carrier? line = some (.persistent ws) →
      after = n ∨ ∃ step, after = n.advancePersistent line step)
    (absent : n.carrier? line = none → after = n) : n.Serves line call after := by
  cases carrier : n.carrier? line with
  | none =>
      rw [absent carrier]
      exact .absent (by simp [poller?, carrier])
  | some found =>
      cases found with
      | polling t =>
          rw [polling t carrier]
          exact .polling carrier
      | persistent ws =>
          rcases persistent ws carrier with same | ⟨step, same⟩
          · rw [same]
            exact .absent (by simp [poller?, carrier, Carrier.poller?])
          · rw [same]
            exact .persistent carrier step

theorem serves_start (n : Network) (line : Nat) : n.Serves line .start (n.start line) := by
  refine serves_of ?_ ?_ ?_
  · intro t carrier
    simp only [start, carrier]
    rfl
  · intro ws carrier
    exact .inr ⟨ws.start, by simp only [start, carrier]⟩
  · intro absent
    simp only [start, absent]

theorem serves_reset (n : Network) (line : Nat) : n.Serves line .reset (n.reset line) := by
  refine serves_of ?_ ?_ ?_
  · intro t carrier
    simp only [reset, carrier]
    rfl
  · intro ws carrier
    exact .inr ⟨ws.reset, by simp only [reset, carrier]⟩
  · intro absent
    simp only [reset, absent]

theorem serves_send (n : Network) (line : Nat) (frame : String) :
    n.Serves line (.send frame) (n.send line frame).2 := by
  refine serves_of ?_ ?_ ?_
  · intro t carrier
    simp only [send, carrier, LongPoll.heed]
    cases t.send frame with
    | ok step => rfl
    | error fault => exact (setCarrier_self carrier).symm
  · intro ws carrier
    simp only [send, carrier]
    cases ws.send frame with
    | ok after => exact .inr ⟨after.flush, rfl⟩
    | error fault => exact .inl rfl
  · intro absent
    simp only [send, absent]

theorem serves_wake (n : Network) (line : Nat) (job : Job) :
    n.Serves line (.wake job) (n.runErrand (.wake line job)) := by
  refine serves_of ?_ ?_ ?_
  · intro t carrier
    simp only [runErrand, carrier]
    rfl
  · intro ws carrier
    exact .inl (by simp only [runErrand, carrier])
  · intro absent
    simp only [runErrand, absent]

theorem serves_deliver (n : Network) (line : Nat) (job : Job) (outcome : Http.Outcome) :
    n.Serves line (.answer job outcome) (n.deliver (.job line job) outcome) := by
  refine serves_of ?_ ?_ ?_
  · intro t carrier
    simp only [deliver, carrier]
    rfl
  · intro ws carrier
    exact .inl (by simp only [deliver, carrier])
  · intro absent
    simp only [deliver, absent]

end Serves

/-! ## Sights -/

/-- The request, with its job, if it was posted for `line`. -/
def letter? (line : Nat) (request : Request) : Option (Job × Http.Request) :=
  match request.owner with
  | .job other job => if other = line then some (job, request.request) else none
  | .reconnect _ _ => none

/-- The event, if it came from `line`. -/
def event? (line : Nat) : Arrival → Option TransportEvent
  | .event other event => if other = line then some event else none
  | .resolved _ _ _ | .expired _ _ => none

/-- The requests that were posted for a line, oldest first. -/
def letters (n : Network) (line : Nat) : List (Job × Http.Request) :=
  n.exchange.entries.filterMap (letter? line)

/-- The events of a line that were not fetched yet. -/
def news (n : Network) (line : Nat) : List TransportEvent := n.arrivals.filterMap (event? line)

def isPersistent (n : Network) (line : Nat) : Prop := ∃ ws, n.carrier? line = some (.persistent ws)

/-- What a line shows to the server and to the caller. -/
structure Sight where
  letters : List (Job × Http.Request)
  sink : Option Sink
  news : List TransportEvent
  persistent : Prop

def sight (n : Network) (line : Nat) : Sight where
  letters := n.letters line
  sink := n.lines[line]?.map (·.sink)
  news := n.news line
  persistent := n.isPersistent line

def Sight.see (s : Sight) : LongPoll.Act → Sight
  | .post job request _ => { s with letters := s.letters ++ [(job, request)] }
  | .emit event =>
      match s.sink with
      | none => s
      | some sink =>
          { s with
            sink := some (sink.emit event).2
            news := if (sink.emit event).1 then s.news ++ [event] else s.news }
  | .detach => { s with sink := s.sink.map Sink.detach }
  | .wake _ | .release => s

section Acts

variable {n after : Network} {line other : Nat}

theorem sight_congr (exchange : after.letters line = n.letters line)
    (lines : after.lines[line]? = n.lines[line]?) (arrivals : after.arrivals = n.arrivals) :
    after.sight line = n.sight line := by
  unfold sight news isPersistent carrier?
  rw [exchange, lines, arrivals]

theorem sight_emit_self (n : Network) (line : Nat) (event : TransportEvent) :
    (n.emit line event).2.sight line = (n.sight line).see (.emit event) := by
  cases here : n.lines[line]? with
  | none => simp [emit, sight, Sight.see, here]
  | some entry =>
      obtain ⟨inside, same⟩ := List.getElem?_eq_some_iff.1 here
      cases passes : (entry.sink.emit event).1 <;>
        simp [emit, sight, Sight.see, letters, news, isPersistent, carrier?, inside, same, event?,
          passes]

theorem sight_emit_other (event : TransportEvent) (foreign : line ≠ other) :
    (n.emit line event).2.sight other = n.sight other := by
  cases here : n.lines[line]? with
  | none => simp [emit, here]
  | some entry =>
      cases passes : (entry.sink.emit event).1 <;>
        simp [emit, sight, here, letters, news, isPersistent, carrier?, event?, passes, foreign]

theorem sight_detach (n : Network) (line other : Nat) :
    (n.detach line).sight other =
      if line = other then (n.sight other).see .detach else n.sight other := by
  by_cases mine : line = other
  · subst mine
    cases here : n.lines[line]? <;>
      simp [detach, sight, letters, news, isPersistent, carrier?, Sight.see, here]
  · simp [detach, sight, letters, news, isPersistent, carrier?, mine]

/-- A transport that takes the place of one of its own flavour is not seen. -/
theorem sight_setCarrier (n : Network) {carrier : Option Carrier} {line : Nat} (other : Nat)
    (same : line = other → ((∃ ws, carrier = some (.persistent ws)) ↔ n.isPersistent other)) :
    (n.setCarrier line carrier).sight other = n.sight other := by
  have persistent : (n.setCarrier line carrier).isPersistent other = n.isPersistent other := by
    refine propext ?_
    simp only [isPersistent, carrier?_setCarrier]
    split
    · rename_i mine
      exact same mine.1
    · rfl
  have sink : (n.setCarrier line carrier).lines[other]?.map (·.sink) =
      n.lines[other]?.map (·.sink) := by
    simp only [setCarrier, List.getElem?_modify]
    cases n.lines[other]? with
    | none => rfl
    | some entry => by_cases mine : line = other <;> simp [mine]
  unfold sight
  rw [persistent, sink]
  rfl

theorem sight_pollingAct (n : Network) (line other : Nat) (act : LongPoll.Act) :
    (pollingAct line n act).sight other =
      if line = other then (n.sight other).see act else n.sight other := by
  cases act with
  | emit event =>
      by_cases mine : line = other
      · subst mine
        rw [if_pos rfl]
        exact sight_emit_self n line event
      · rw [if_neg mine]
        exact sight_emit_other event mine
  | detach => exact sight_detach n line other
  | wake | release => split <;> rfl
  | post job request limit =>
      by_cases mine : line = other
      · simp [pollingAct, sight, letters, news, isPersistent, carrier?, Sight.see, post,
          Http.Exchange.post, letter?, mine]
      · simp [pollingAct, sight, letters, news, isPersistent, carrier?, post, Http.Exchange.post,
          letter?, mine]

/-- A polling transport that acts is seen on its own line, and on no other. -/
theorem sight_advancePolling {t : LongPoll} (here : n.carrier? line = some (.polling t))
    (other : Nat) (step : LongPoll × List LongPoll.Act) :
    (n.advancePolling line step).sight other =
      if line = other then step.2.foldl Sight.see (n.sight other) else n.sight other := by
  have acts (acts : List LongPoll.Act) (m : Network) :
      (acts.foldl (pollingAct line) m).sight other =
        if line = other then acts.foldl Sight.see (m.sight other) else m.sight other := by
    induction acts generalizing m with
    | nil => split <;> rfl
    | cons act acts ih =>
        rw [List.foldl_cons, ih, sight_pollingAct]
        split <;> rfl
  unfold advancePolling
  rw [acts, sight_setCarrier]
  rintro rfl
  simp [isPersistent, here]

theorem sight_persistentAct (n : Network) (act : WebSocket.Act) (foreign : line ≠ other) :
    (persistentAct line n act).sight other = n.sight other := by
  cases act with
  | connect | write | close | abandon => rfl
  | emit event => exact sight_emit_other event foreign
  | detach => exact (sight_detach n line other).trans (if_neg foreign)

theorem sight_advancePersistent (n : Network) (step : WebSocket × List WebSocket.Act)
    (foreign : line ≠ other) : (n.advancePersistent line step).sight other = n.sight other := by
  have acts (acts : List WebSocket.Act) (m : Network) :
      (acts.foldl (persistentAct line) m).sight other = m.sight other := by
    induction acts generalizing m with
    | nil => rfl
    | cons act acts ih => rw [List.foldl_cons, ih, sight_persistentAct _ _ foreign]
  unfold advancePersistent
  rw [acts, sight_setCarrier]
  exact fun mine => absurd mine foreign

/-- A polling transport that is served a call is seen to do what it is asked for. -/
theorem Serves.sight {call : Call} (serves : n.Serves line call after)
    (own : ¬n.isPersistent other) :
    after.sight other =
      ((n.heard other (line, call)).elim [] Beat.acts).foldl Sight.see (n.sight other) := by
  cases serves with
  | polling carrier =>
      rw [sight_advancePolling carrier]
      by_cases mine : line = other
      · subst mine
        simp only [heard, if_true, poller?_eq_some.2 carrier, Option.map_some, Option.elim_some]
        rfl
      · simp [heard, mine]
  | persistent carrier step =>
      have foreign : line ≠ other := by
        rintro rfl
        exact own ⟨_, carrier⟩
      rw [sight_advancePersistent n step foreign]
      simp [heard, foreign]
  | absent absent =>
      by_cases mine : line = other
      · subst mine
        simp [heard, absent]
      · simp [heard, mine]

end Acts

/-! ## Moves -/

/-- The caller takes the sink of a line into its own hands. -/
def Move.Meddles (line : Nat) : Move → Prop
  | .detach other | .emit other _ => other = line
  | _ => False

section Moves

variable {n : Network} {line number : Nat} {request : Request}

/-- What the transport of a line is asked for by a move. -/
def actsOf (n : Network) (line : Nat) (move : Move) : List LongPoll.Act :=
  (n.beat? line move).elim [] Beat.acts

theorem see_persistent (s : Sight) (acts : List LongPoll.Act) :
    (acts.foldl Sight.see s).persistent = s.persistent := by
  induction acts generalizing s with
  | nil => rfl
  | cons act acts ih =>
      rw [List.foldl_cons, ih]
      unfold Sight.see
      split
      · rfl
      · split <;> rfl
      · rfl
      · rfl
      · rfl

theorem letters_settled (n : Network) (number line : Nat) (standing : Http.Standing) :
    (n.settled number standing).letters line = n.letters line :=
  filterMap_modify (letter? line) fun _ => rfl

theorem letters_givenUp (n : Network) (p : Owner → Bool) (line : Nat) :
    (n.givenUp p).letters line = n.letters line := by
  simp only [letters, givenUp, Http.Exchange.giveUp, List.filterMap_map]
  congr 1
  funext request
  by_cases closes : p request.owner <;> simp [letter?, closes]

theorem sight_givenUp (n : Network) (p : Owner → Bool) (line : Nat) :
    (n.givenUp p).sight line = n.sight line :=
  sight_congr (letters_givenUp n p line) rfl rfl

theorem sight_finish (number : Nat) (own : ¬n.isPersistent line) (owner : Owner) (outcome : Http.Outcome) :
    (n.finish number owner outcome).sight line =
      (((toldByEnd outcome owner).bind (n.heard line)).elim [] Beat.acts).foldl Sight.see
        (n.sight line) := by
  have closed : (n.closing number).sight line = n.sight line :=
    sight_congr (letters_settled n number line .closed) rfl rfl
  rw [finish_eq]
  cases owner with
  | reconnect attempt manual =>
      rw [← closed]
      simp [deliver, toldByEnd, sight, letters, news, isPersistent, carrier?, event?]
  | job other job =>
      have serves : (n.closing number).Serves other (.answer job outcome) _ :=
        serves_deliver _ _ job outcome
      rw [serves.sight own, closed]
      rfl

theorem sight_errand (own : ¬n.isPersistent line) (errand : Errand) :
    (n.runErrand errand).sight line =
      (((n.toldByErrand errand).bind (n.heard line)).elim [] Beat.acts).foldl Sight.see
        (n.sight line) := by
  cases errand with
  | wake other job => exact (serves_wake n other job).sight own
  | release other =>
      change (n.givenUp (isJobOf other)).sight line = _
      rw [sight_givenUp]
      rfl
  | answered number =>
      rcases runErrand_answered n number with ⟨request, outcome, -, -, ends, told⟩ | ⟨stays, told⟩
      · rw [ends, told]
        exact sight_finish number own request.owner outcome
      · rw [stays, told]
        rfl

theorem sight_ring (own : ¬n.isPersistent line) (alarm : Alarm) :
    (n.ring alarm).sight line =
      (((n.toldByAlarm alarm).bind (n.heard line)).elim [] Beat.acts).foldl Sight.see
        (n.sight line) := by
  cases alarm with
  | session timer ticket =>
      simp [ring, toldByAlarm, sight, letters, news, isPersistent, carrier?, event?]
  | connect other =>
      simp only [ring]
      split
      · rename_i ws carrier
        refine sight_advancePersistent n _ ?_
        rintro rfl
        exact own ⟨ws, carrier⟩
      · rfl
  | deadline number =>
      rcases ring_deadline n number with ⟨request, -, -, ends, told⟩ | ⟨stays, told⟩
      · rw [ends, told]
        exact sight_finish number own request.owner .timedOut
      · rw [stays, told]
        rfl

/-- **All that a move does to the sight of a polling line**, unless the caller takes the sink into
its own hands or fetches what came out. -/
theorem sight_make (built : line < n.lines.length) (own : ¬n.isPersistent line) (move : Move)
    (apart : ¬move.Meddles line) (keeps : move ≠ .fetch) :
    (n.make move).sight line = (n.actsOf line move).foldl Sight.see (n.sight line) := by
  unfold actsOf
  cases move with
  | add factory kind =>
      refine sight_congr rfl ?_ rfl
      exact List.getElem?_append_left built
  | start other => exact (serves_start n other).sight own
  | send other frame => exact (serves_send n other frame).sight own
  | reset other => exact (serves_reset n other).sight own
  | drop other =>
      have resets := (serves_reset n other).sight own
      have still : (n.reset other).isPersistent line = n.isPersistent line :=
        (congrArg Sight.persistent resets).trans (see_persistent _ _)
      change ((n.reset other).setCarrier other none).sight line = _
      rw [sight_setCarrier _ _ (by simp [still, own])]
      exact resets
  | detach other =>
      change (n.detach other).sight line = _
      rw [sight_detach, if_neg (show ¬other = line from apart)]
      rfl
  | emit other event => exact sight_emit_other event apart
  | answer address outcome =>
      change (n.answer address outcome).2.sight line = _
      unfold answer
      split
      · rfl
      · exact sight_congr (letters_settled n _ line _) rfl rfl
  | ask request attempt manual limit =>
      refine sight_congr ?_ rfl rfl
      simp [make, letters, post, Http.Exchange.post, letter?]
  | abandon attempt => exact sight_givenUp n _ line
  | set | cancel | wait => rfl
  | fetch => exact absurd rfl keeps
  | errand index =>
      simp only [beat?, told, make]
      cases here : n.errands[index]? with
      | none => rfl
      | some errand => exact sight_errand (n := n.withErrands (n.errands.eraseIdx index)) own errand
  | alarm limit =>
      simp only [beat?, told, make]
      cases fires : n.clock.next? limit with
      | none => rfl
      | some fired => exact sight_ring (n := { n with clock := fired.2 }) own fired.1

end Moves

/-! ## Acts in a row -/

section Rows

variable {s : Sight} {acts : List LongPoll.Act}

theorem see_letters (s : Sight) (acts : List LongPoll.Act) :
    (acts.foldl Sight.see s).letters = s.letters ++ acts.filterMap LongPoll.Act.posted? := by
  induction acts generalizing s with
  | nil => simp
  | cons act acts ih =>
      have head : (s.see act).letters = s.letters ++ (LongPoll.Act.posted? act).toList := by
        cases act with
        | post | wake | detach | release => simp [Sight.see, LongPoll.Act.posted?]
        | emit event => cases sink : s.sink <;> simp [Sight.see, LongPoll.Act.posted?, sink]
      rw [List.foldl_cons, ih, head, List.append_assoc]
      cases posted : LongPoll.Act.posted? act <;> simp [posted]

/-- Every event passes a sink that is not detached. -/
theorem see_open (attached : s.sink = some {}) (open_ : ∀ act ∈ acts, act.IsOpen) :
    (acts.foldl Sight.see s).sink = some {} ∧
      (acts.foldl Sight.see s).news = s.news ++ acts.filterMap LongPoll.Act.event? := by
  induction acts generalizing s with
  | nil => simpa using attached
  | cons act acts ih =>
      obtain ⟨first, rest⟩ := List.forall_mem_cons.1 open_
      have head : (s.see act).sink = some {} ∧
          (s.see act).news = s.news ++ (LongPoll.Act.event? act).toList := by
        cases act with
        | post | wake | release => simpa [Sight.see, LongPoll.Act.event?] using attached
        | detach => exact first.elim
        | emit event =>
            have goes : event.isTerminal = false := first
            simp [Sight.see, LongPoll.Act.event?, attached, Sink.emit, goes]
      obtain ⟨sink, news⟩ := ih head.1 rest
      refine ⟨sink, ?_⟩
      rw [List.foldl_cons, news, head.2, List.append_assoc]
      cases event : LongPoll.Act.event? act <;> simp [event]

/-- The sink of a line, as long as it is left to its transport: it is detached once that has
ended. -/
structure Own (log : List Beat) (s : Sight) (told : List TransportEvent) : Prop where
  told : told = LongPoll.events log
  sink : (s.sink = some {} ∧ ¬LongPoll.Ended log) ∨
    (s.sink = some { detached := true } ∧ LongPoll.Ended log)

/-- A beat passes what it reports, and detaches the sink at the end. -/
theorem Own.hear {log : List Beat} {beat : Beat} {d : Docket} {told : List TransportEvent}
    (own : Own log s told) (fits : LongPoll.Fits log beat.before d) :
    ∃ more, (beat.acts.foldl Sight.see s).news = s.news ++ more ∧
      Own (log ++ [beat]) (beat.acts.foldl Sight.see s) (told ++ more) := by
  obtain ⟨rfl, sink⟩ := own
  rcases sink with ⟨attached, going⟩ | ⟨detached, ended⟩
  · have goes : beat.before.phase ≠ .ended := mt fits.ended_iff.1 going
    obtain ⟨first, last, acted, open_, ends⟩ := LongPoll.acts_split goes
    obtain ⟨sink, news⟩ := see_open attached open_
    rcases ends with ⟨rfl, alive⟩ | rfl | ⟨rfl, reset⟩
    · rw [List.append_nil] at acted
      rw [acted]
      refine ⟨_, news, ?_, .inl ⟨sink, ?_⟩⟩
      · rw [LongPoll.events_concat, acted]
      · rw [LongPoll.ended_concat, not_or]
        exact ⟨going, alive⟩
    · have failed : .emit .failed ∈ beat.acts := by simp [acted]
      rw [acted, List.foldl_append]
      generalize first.foldl Sight.see s = seen at sink news
      refine ⟨first.filterMap LongPoll.Act.event? ++ [.failed], ?_, ?_, .inr ⟨?_, ?_⟩⟩
      · simp [Sight.see, sink, Sink.emit, news]
      · rw [LongPoll.events_concat, acted, List.filterMap_append]
        rfl
      · simp [Sight.see, sink, Sink.emit, TransportEvent.isTerminal, Sink.detach]
      · exact (LongPoll.ended_concat log beat).2 (.inr (.inl failed))
    · rw [acted, List.foldl_append]
      generalize first.foldl Sight.see s = seen at sink news
      refine ⟨first.filterMap LongPoll.Act.event?, ?_, ?_, .inr ⟨?_, ?_⟩⟩
      · simp [Sight.see, news]
      · rw [LongPoll.events_concat, acted, List.filterMap_append]
        simp [LongPoll.Act.event?]
      · simp [Sight.see, sink, Sink.detach]
      · exact (LongPoll.ended_concat log beat).2 (.inr (.inr reset))
  · obtain ⟨-, acted⟩ := LongPoll.hushed fits ended
    have still : LongPoll.Ended (log ++ [beat]) := (LongPoll.ended_concat log beat).2 (.inl ended)
    refine ⟨[], ?_, ?_, .inr ⟨?_, still⟩⟩
    · rw [acted]
      split <;> simp [Sight.see]
    · rw [LongPoll.events_concat, acted]
      split <;> simp [LongPoll.Act.event?]
    · rw [acted]
      split <;> simp [Sight.see, detached, Sink.detach]

end Rows

/-! ## Runs -/

def fetched (n : Network) (line : Nat) : Move → List TransportEvent
  | .fetch => n.news line
  | _ => []

def fetchedFrom (line : Nat) (n : Network) : List Move → List TransportEvent
  | [] => []
  | move :: moves => n.fetched line move ++ fetchedFrom line (n.make move) moves

def delivered (line : Nat) (moves : List Move) : List TransportEvent :=
  fetchedFrom line {} moves ++ (after moves).news line

/-- The sink of a line is left to its transport until that has ended. -/
def Attached (line : Nat) (moves : List Move) : Prop :=
  ∀ early move, early ++ [move] <+: moves → move.Meddles line → LongPoll.Ended (history line early)

/-- What holds of every entry and those before it can be checked place by place. -/
theorem forall_prefix_iff {α : Type} {P : List α → α → Prop} {l : List α} :
    (∀ early a, early ++ [a] <+: l → P early a) ↔
      ∀ place : Fin l.length, P (l.take place) l[place] := by
  constructor
  · intro all place
    refine all _ _ ?_
    rw [Fin.getElem_fin, List.take_append_getElem]
    exact List.take_prefix ..
  · rintro all early a ⟨late, rfl⟩
    simpa using all ⟨early.length, by simp⟩

instance decidableForallPrefix {α : Type} {P : List α → α → Prop}
    [decides : ∀ early a, Decidable (P early a)] (l : List α) :
    Decidable (∀ early a, early ++ [a] <+: l → P early a) :=
  decidable_of_iff _ forall_prefix_iff.symm

instance (line : Nat) (move : Move) : Decidable (move.Meddles line) := by
  cases move <;> unfold Move.Meddles <;> infer_instance

instance (line : Nat) (moves : List Move) : Decidable (Attached line moves) :=
  decidableForallPrefix moves

theorem fetchedFrom_concat (line : Nat) (n : Network) (moves : List Move) (move : Move) :
    fetchedFrom line n (moves ++ [move]) =
      fetchedFrom line n moves ++ (n.afterFrom moves).fetched line move := by
  induction moves generalizing n with
  | nil => simp [fetchedFrom, afterFrom]
  | cons first moves ih =>
      simp only [List.cons_append, fetchedFrom, ih, List.append_assoc]
      rfl

theorem attached_concat {line : Nat} {moves : List Move} {move : Move}
    (attached : Attached line (moves ++ [move])) :
    Attached line moves ∧ (move.Meddles line → LongPoll.Ended (history line moves)) :=
  ⟨fun early other here => attached early other (here.trans (List.prefix_append ..)),
    attached moves move (List.prefix_refl _)⟩

theorem solo_concat (options : Options) (moves : List Move) (move : Move) :
    solo options (moves ++ [move]) = solo options moves ++ [move] := rfl

/-- What a line hears of a move is the call that the move tells it of. -/
theorem told_of_beat {n : Network} {line : Nat} {move : Move} {beat : Beat}
    (hears : n.beat? line move = some beat) :
    n.told move = some (line, beat.call) ∧ n.poller? line = some beat.before := by
  obtain ⟨⟨other, call⟩, told, heard⟩ := Option.bind_eq_some_iff.1 hears
  simp only [Network.heard] at heard
  split at heard
  · rename_i mine
    obtain ⟨t, here, rfl⟩ := Option.map_eq_some_iff.1 heard
    exact ⟨mine ▸ told, here⟩
  · cases heard

/-- It is the transport of the line that hears. -/
theorem Built.before {options : Options} {log : List Beat} {n : Network} {line : Nat} {move : Move}
    {beat : Beat} {t : LongPoll} (built : Built options log (n.view line) t)
    (hears : n.beat? line move = some beat) : beat.before = t := by
  have here : (n.view line).poller = some beat.before := (told_of_beat hears).2
  rcases built.stays with same | ⟨absent, -⟩
  · rw [here] at same
    exact Option.some.inj same
  · rw [here] at absent
    cases absent

section Steps

variable {n : Network} {line : Nat} {move : Move}

/-- A caller that meddles with a sink posts nothing. -/
theorem sight_meddled (meddles : move.Meddles line) :
    n.beat? line move = none ∧ ∃ act, (act = .detach ∨ ∃ event, act = .emit event) ∧
      (n.make move).sight line = (n.sight line).see act := by
  cases move with
  | detach other =>
      have mine : other = line := meddles
      subst mine
      exact ⟨rfl, .detach, .inl rfl, (sight_detach n other other).trans (if_pos rfl)⟩
  | emit other event =>
      have mine : other = line := meddles
      subst mine
      exact ⟨rfl, .emit event, .inr ⟨event, rfl⟩, sight_emit_self n other event⟩
  | add | start | send | reset | drop | answer | ask | abandon | set | cancel | fetch | wait
  | errand | alarm => exact meddles.elim

theorem letters_make (built : line < n.lines.length) (own : ¬n.isPersistent line) (move : Move) :
    (n.make move).letters line =
      n.letters line ++ (n.actsOf line move).filterMap LongPoll.Act.posted? := by
  by_cases meddles : move.Meddles line
  · obtain ⟨mute, act, other, same⟩ := sight_meddled (n := n) meddles
    have letters := congrArg Sight.letters same
    have quiet : n.actsOf line move = [] := by simp [actsOf, mute]
    rw [quiet, List.filterMap_nil, List.append_nil]
    refine letters.trans ((see_letters (n.sight line) [act]).trans ?_)
    rcases other with rfl | ⟨event, rfl⟩ <;> exact List.append_nil _
  · by_cases fetches : move = .fetch
    · subst fetches
      exact (List.append_nil _).symm
    · have letters := congrArg Sight.letters (sight_make built own move meddles fetches)
      rw [see_letters] at letters
      exact letters

/-- The flavour of a transport stays. -/
theorem polling_make (built : line < n.lines.length) (own : ¬n.isPersistent line) (move : Move) :
    ¬(n.make move).isPersistent line := by
  by_cases meddles : move.Meddles line
  · obtain ⟨-, act, -, same⟩ := sight_meddled (n := n) meddles
    have persistent := (congrArg Sight.persistent same).trans (see_persistent (n.sight line) [act])
    exact fun persists => own (persistent.mp persists)
  · by_cases fetches : move = .fetch
    · subst fetches
      exact own
    · have persistent := congrArg Sight.persistent (sight_make built own move meddles fetches)
      rw [see_persistent] at persistent
      exact fun persists => own (persistent.mp persists)

/-- What a transport reports comes out, as long as the caller leaves its sink alone. -/
theorem Own.step {log : List Beat} {told : List TransportEvent} (own : Own log (n.sight line) told)
    (built : line < n.lines.length) (polling : ¬n.isPersistent line)
    (fits : ∀ beat, n.beat? line move = some beat → ∃ d, LongPoll.Fits log beat.before d)
    (apart : ¬move.Meddles line) (keeps : move ≠ .fetch) :
    ∃ more, (n.make move).news line = n.news line ++ more ∧
      Own (log ++ (n.beat? line move).toList) ((n.make move).sight line) (told ++ more) := by
  have seen := sight_make built polling move apart keeps
  have news : (n.make move).news line = ((n.make move).sight line).news := rfl
  rw [news, seen]
  unfold actsOf
  cases hears : n.beat? line move with
  | none =>
      refine ⟨[], (List.append_nil _).symm, ?_⟩
      simp only [Option.elim_none, List.foldl_nil, Option.toList_none, List.append_nil]
      exact own
  | some beat =>
      obtain ⟨d, fits⟩ := fits beat hears
      exact own.hear fits

/-- A move keeps the sink of a line in order, if the caller leaves it alone until the end. -/
theorem Own.make {log : List Beat} {early : List TransportEvent}
    (own : Own log (n.sight line) (early ++ n.news line)) (built : line < n.lines.length)
    (polling : ¬n.isPersistent line)
    (fits : ∀ beat, n.beat? line move = some beat → ∃ d, LongPoll.Fits log beat.before d)
    (past : move.Meddles line → LongPoll.Ended log) :
    Own (log ++ (n.beat? line move).toList) ((n.make move).sight line)
      (early ++ n.fetched line move ++ (n.make move).news line) := by
  obtain ⟨told, sink⟩ := own
  -- Whoever meddles with the sink does so after the end, when it is cut off already.
  by_cases meddles : move.Meddles line
  · obtain ⟨mute, act, other, same⟩ := sight_meddled (n := n) meddles
    have ended := past meddles
    have detached := (sink.resolve_left fun attached => attached.2 ended).1
    have seen : ((n.sight line).see act).sink = some { detached := true } ∧
        ((n.sight line).see act).news = (n.sight line).news := by
      rcases other with rfl | ⟨event, rfl⟩
      · simp [Sight.see, detached, Sink.detach]
      · cases terminal : event.isTerminal <;>
          simp [Sight.see, detached, Sink.emit, Sink.detach, terminal]
    have fetches : n.fetched line move = [] := by
      cases move <;> first | rfl | exact meddles.elim
    have news : (n.make move).news line = n.news line := (congrArg Sight.news same).trans seen.2
    rw [mute, fetches, news, same, Option.toList_none, List.append_nil, List.append_nil]
    exact ⟨told, .inr ⟨seen.1, ended⟩⟩
  · by_cases fetches : move = .fetch
    · subst fetches
      have mute : n.beat? line .fetch = none := rfl
      have news : (n.make .fetch).news line = [] := rfl
      rw [mute, news, Option.toList_none, List.append_nil, List.append_nil]
      exact ⟨told, sink⟩
    · have unfetched : n.fetched line move = [] := by
        cases move <;> first | rfl | exact absurd rfl fetches
      obtain ⟨more, news, next⟩ := Own.step ⟨told, sink⟩ built polling fits meddles fetches
      rw [unfetched, List.append_nil, news, ← List.append_assoc]
      exact next

end Steps

section Solo

variable (options : Options) (moves : List Move)

theorem polling_solo : ¬(after (solo options moves)).isPersistent 0 := by
  induction moves using List.reverseRecOn with
  | nil =>
      rintro ⟨ws, carrier⟩
      cases carrier
  | append_singleton moves move ih =>
      obtain ⟨t, built⟩ := conduct_solo options moves
      rw [solo_concat, after_concat]
      exact polling_make built.built ih move

/-- What was posted for the line is what its transport asked to post. -/
theorem letters_solo :
    (after (solo options moves)).letters 0 = LongPoll.posted (history 0 (solo options moves)) := by
  induction moves using List.reverseRecOn with
  | nil => rfl
  | append_singleton moves move ih =>
      obtain ⟨t, built⟩ := conduct_solo options moves
      rw [solo_concat, after_concat, history_concat,
        letters_make built.built (polling_solo options moves) move, ih]
      unfold actsOf
      cases (after (solo options moves)).beat? 0 move with
      | none => simp
      | some beat => simp

/-- As long as the sink is left to the transport, every event that it reports comes out. -/
theorem own_solo (attached : Attached 0 (solo options moves)) :
    Own (history 0 (solo options moves)) ((after (solo options moves)).sight 0)
      (delivered 0 (solo options moves)) := by
  induction moves using List.reverseRecOn with
  | nil => exact ⟨rfl, .inl ⟨rfl, by simp [LongPoll.Ended, history, historyFrom, solo, beat?, told]⟩⟩
  | append_singleton moves move ih =>
      obtain ⟨t, built⟩ := conduct_solo options moves
      have polling := polling_solo options moves
      rw [solo_concat] at attached
      obtain ⟨before, past⟩ := attached_concat attached
      rw [solo_concat, after_concat, history_concat]
      unfold delivered
      rw [fetchedFrom_concat, after_concat]
      refine (ih before).make built.built polling (fun beat hears => ?_) past
      rw [built.before hears]
      exact ⟨_, built.conduct.fits⟩

end Solo

end Tether.Network
