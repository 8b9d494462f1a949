/-
# Tether.Proofs.Network.Moves -- what can happen to a network

A move is one thing that happens to a network.  Its caller adds a transport, opens it, hands it
a frame, resets or drops it; an answer comes in for a request; the caller goes on about its own
requests and timers; or the network runs an errand or lets an alarm ring.  Errands run in any
order, not only in the one in which they came up, an alarm may ring before they have run, and
moves of different lines mix freely.  So a list of moves is any run of any transports that
share a network.

A move tells at most one transport of at most one call.  The history of a line is the log of
its polling transport: the calls that it was told of, in order.

* `turn` -- all that a move can do to one line.
* `after_append`, `history_append` -- a longer run continues a shorter one.
-/
import Tether.Proofs.Network.Views

set_option autoImplicit false

namespace Tether.Network

open LongPoll (Beat Call Docket)

inductive Move
  /-- A transport is built by a factory. -/
  | add (factory : Factory) (kind : TransportKind)
  | start (line : Nat)
  | send (line : Nat) (frame : String)
  | reset (line : Nat)
  | drop (line : Nat)
  | detach (line : Nat)
  /-- An event is pushed into the sink of a transport from outside. -/
  | emit (line : Nat) (event : TransportEvent)
  | answer (address : Http.Exchange.Address) (outcome : Http.Outcome)
  /-- Credentials are asked for. -/
  | ask (request : Http.Request) (attempt : Nat) (manual : Bool) (limit : Nat)
  /-- The request of an attempt is given up. -/
  | abandon (attempt : Nat)
  | set (delay : Nat) (timer : SessionTimer) (ticket : Ticket)
  | cancel (timer : SessionTimer) (ticket : Ticket)
  /-- What came out is fetched. -/
  | fetch
  /-- Time passes. -/
  | wait (time : Nat)
  /-- The errand at a place of the list runs. -/
  | errand (index : Nat)
  /-- The next alarm that is due rings. -/
  | alarm (limit : Nat)

def make (n : Network) : Move → Network
  | .add factory kind => n.addLine (factory.create kind)
  | .start line => n.start line
  | .send line frame => (n.send line frame).2
  | .reset line => n.reset line
  | .drop line => n.drop line
  | .detach line => n.detach line
  | .emit line event => (n.emit line event).2
  | .answer address outcome => (n.answer address outcome).2
  | .ask request attempt manual limit => n.post request (.reconnect attempt manual) limit
  | .abandon attempt => n.abandon attempt
  | .set delay timer ticket => { n with clock := n.clock.set delay (.session timer ticket) }
  | .cancel timer ticket => { n with clock := n.clock.cancel (· == .session timer ticket) }
  | .fetch => { n with arrivals := [] }
  | .wait time => { n with clock := n.clock.moveTo time }
  | .errand index =>
      match n.errands[index]? with
      | some errand => (n.withErrands (n.errands.eraseIdx index)).runErrand errand
      | none => n
  | .alarm limit =>
      match n.clock.next? limit with
      | some (alarm, clock) => { n with clock }.ring alarm
      | none => n

/-- The call that an errand tells a line of. -/
def toldByErrand (n : Network) : Errand → Option (Nat × Call)
  | .wake line job => some (line, .wake job)
  | .answered number =>
      match n.exchange.entries[number]? with
      | some { owner := .job line job, standing := .answered outcome, .. } =>
          some (line, .answer job outcome)
      | _ => none
  | .release _ => none

def toldByAlarm (n : Network) : Alarm → Option (Nat × Call)
  | .deadline number =>
      match n.exchange.entries[number]? with
      | some { owner := .job line job, standing := .waiting, .. } =>
          some (line, .answer job .timedOut)
      | _ => none
  | .connect _ | .session _ _ => none

/-- The call that a move tells a line of. -/
def told (n : Network) : Move → Option (Nat × Call)
  | .start line => some (line, .start)
  | .send line frame => some (line, .send frame)
  | .reset line | .drop line => some (line, .reset)
  | .errand index => n.errands[index]?.bind n.toldByErrand
  | .alarm limit => (n.clock.next? limit).bind fun fired => n.toldByAlarm fired.1
  | .add _ _ | .detach _ | .emit _ _ | .answer _ _ | .ask _ _ _ _ | .abandon _ | .set _ _ _
  | .cancel _ _ | .fetch | .wait _ => none

/-- What the polling transport of `line` hears when `call` is told. -/
def heard (n : Network) (line : Nat) (call : Nat × Call) : Option Beat :=
  if call.1 = line then (n.poller? line).map fun t => { before := t, call := call.2 } else none

/-- What the polling transport of a line hears of a move. -/
def beat? (n : Network) (line : Nat) (move : Move) : Option Beat :=
  (n.told move).bind (n.heard line)

def afterFrom (n : Network) (moves : List Move) : Network := moves.foldl make n

def historyFrom (line : Nat) (n : Network) : List Move → List Beat
  | [] => []
  | move :: moves => (n.beat? line move).toList ++ historyFrom line (n.make move) moves

def after (moves : List Move) : Network := afterFrom {} moves

/-- The log of the polling transport of a line. -/
def history (line : Nat) (moves : List Move) : List Beat := historyFrom line {} moves

theorem afterFrom_append (n : Network) (first second : List Move) :
    n.afterFrom (first ++ second) = (n.afterFrom first).afterFrom second := List.foldl_append

theorem after_append (first second : List Move) :
    after (first ++ second) = (after first).afterFrom second := List.foldl_append

theorem historyFrom_append (line : Nat) (n : Network) (first second : List Move) :
    historyFrom line n (first ++ second) =
      historyFrom line n first ++ historyFrom line (n.afterFrom first) second := by
  induction first generalizing n with
  | nil => rfl
  | cons move first ih =>
      simp only [List.cons_append, historyFrom, ih, List.append_assoc]
      rfl

theorem history_append (line : Nat) (first second : List Move) :
    history line (first ++ second) =
      history line first ++ historyFrom line (after first) second :=
  historyFrom_append line {} first second

theorem history_concat (line : Nat) (moves : List Move) (move : Move) :
    history line (moves ++ [move]) =
      history line moves ++ ((after moves).beat? line move).toList := by
  rw [history_append]
  simp only [historyFrom, List.append_nil]

theorem after_concat (moves : List Move) (move : Move) :
    after (moves ++ [move]) = (after moves).make move := after_append moves [move]

/-! ## What a move does to a line -/

/-- All that a move can do to what a network holds of a line. -/
inductive Turn (v : View) : Option Beat → View → Prop
  /-- The move is about something else. -/
  | aside : Turn v none v
  /-- The transport hears a call that waited for it, or that comes from outside. -/
  | hear {beat : Beat} {d : Docket} {kept : Option LongPoll} (poller : v.poller = some beat.before)
      (spends : Docket.Spends v.docket beat.call d)
      (stays : kept = some beat.after ∨ kept = none ∧ beat.after.phase = .ended) :
      Turn v (some beat)
        { v with
          poller := kept
          docket := d.enterAll beat.acts
          polls := v.polls ++ beat.acts.filterMap LongPoll.Act.pollBody? }
  /-- There is no polling transport to hear it. -/
  | lapse {call : Call} {d : Docket} (absent : v.poller = .none)
      (spends : Docket.Spends v.docket call d) :
      Turn v none { v with docket := d }
  /-- The requests of the transport are given up. -/
  | release {again : Bool} (released : v.docket.released = true) :
      Turn v none { v with docket := v.docket.clear again }
  | add (unbuilt : ¬v.built) {options : LongPoll.Options} :
      Turn v none { v with built := True, poller := some { options } }
  /-- A persistent transport. -/
  | addOther (unbuilt : ¬v.built) : Turn v none { v with built := True, poller := none }

/-- `after` is `n` once `line` was told of `call`. -/
def Tells (n : Network) (line : Nat) (call : Call) (after : Network) : Prop :=
  (∃ t, n.carrier? line = some (.polling t) ∧ after = n.advancePolling line (t.heed call)) ∨
    (n.poller? line = none ∧ ∀ other, after.view other = n.view other)

section Tells

variable {n m after : Network} {line other : Nat} {call : Call}

theorem tells_of
    (polling : ∀ t, n.carrier? line = some (.polling t) →
      after = n.advancePolling line (t.heed call))
    (persistent : ∀ ws, n.carrier? line = some (.persistent ws) →
      ∀ other, after.view other = n.view other)
    (absent : n.carrier? line = none → after = n) : n.Tells line call after := by
  cases carrier : n.carrier? line with
  | none => exact .inr ⟨by simp [poller?, carrier], fun _ => by rw [absent carrier]⟩
  | some found =>
      cases found with
      | polling t => exact .inl ⟨t, carrier, polling t carrier⟩
      | persistent ws =>
          exact .inr ⟨by simp [poller?, carrier, Carrier.poller?], persistent ws carrier⟩

theorem tells_start : n.Tells line .start (n.start line) := by
  refine tells_of ?_ ?_ ?_
  · intro t carrier
    simp only [start, carrier]
    rfl
  · intro ws carrier other
    simp only [start, carrier, view_advancePersistent carrier]
  · intro absent
    simp only [start, absent]

theorem tells_reset : n.Tells line .reset (n.reset line) := by
  refine tells_of ?_ ?_ ?_
  · intro t carrier
    simp only [reset, carrier]
    rfl
  · intro ws carrier other
    simp only [reset, carrier, view_advancePersistent carrier]
  · intro absent
    simp only [reset, absent]

/-- A transport that refuses a frame is left as it is. -/
theorem setCarrier_self {carrier : Carrier} (here : n.carrier? line = some carrier) :
    n.setCarrier line (some carrier) = n := by
  have same : n.lines.modify line (fun entry => { entry with carrier := some carrier }) = n.lines := by
    refine List.ext_getElem? fun other => ?_
    rw [List.getElem?_modify]
    by_cases mine : line = other
    · subst mine
      obtain ⟨entry, found, holds⟩ := Option.bind_eq_some_iff.1 here
      simp [found, ← holds]
    · simp [mine]
  unfold setCarrier
  rw [same]

theorem tells_send (frame : String) : n.Tells line (.send frame) (n.send line frame).2 := by
  refine tells_of ?_ ?_ ?_
  · intro t carrier
    simp only [send, carrier, LongPoll.heed]
    cases t.send frame with
    | ok step => rfl
    | error fault => exact (setCarrier_self carrier).symm
  · intro ws carrier other
    simp only [send, carrier]
    split
    · exact view_advancePersistent carrier other _
    · rfl
  · intro absent
    simp only [send, absent]

theorem tells_wake (job : LongPoll.Job) :
    n.Tells line (.wake job) (n.runErrand (.wake line job)) := by
  refine tells_of ?_ ?_ ?_
  · intro t carrier
    simp only [runErrand, carrier]
    rfl
  · intro ws carrier other
    simp only [runErrand, carrier]
  · intro absent
    simp only [runErrand, absent]

theorem tells_deliver (job : LongPoll.Job) (outcome : Http.Outcome) :
    n.Tells line (.answer job outcome) (n.deliver (.job line job) outcome) := by
  refine tells_of ?_ ?_ ?_
  · intro t carrier
    simp only [deliver, carrier]
    rfl
  · intro ws carrier other
    simp only [deliver, carrier]
  · intro absent
    simp only [deliver, absent]

/-- A line that is told of a call takes its turn, when what the call waited for is spent. -/
theorem Tells.turn (tells : m.Tells line call after)
    (same : m.view line = { n.view line with docket := m.docket line })
    (spends : Docket.Spends (n.docket line) call (m.docket line)) :
    Turn (n.view line) (n.heard line (line, call)) (after.view line) := by
  have poller : m.poller? line = n.poller? line := congrArg View.poller same
  rcases tells with ⟨t, carrier, rfl⟩ | ⟨absent, kept⟩
  · have here : n.poller? line = some t := by
      rw [← poller]
      exact poller?_eq_some.2 carrier
    have polls : m.polls line = n.polls line := congrArg View.polls same
    rw [view_advancePolling m line _ (lt_of_carrier? carrier), if_pos rfl, same, polls]
    simp only [heard, if_true, here, Option.map_some]
    exact .hear here spends (.inl rfl)
  · have none : n.poller? line = none := poller ▸ absent
    rw [kept, same]
    simp only [heard, if_true, none, Option.map_none]
    exact .lapse none spends

/-- What one line is told is nothing to another. -/
theorem Tells.view_other (tells : m.Tells line call after) (foreign : line ≠ other) :
    after.view other = m.view other := by
  rcases tells with ⟨t, carrier, rfl⟩ | ⟨-, kept⟩
  · rw [view_advancePolling m other _ (lt_of_carrier? carrier), if_neg foreign]
  · exact kept other

theorem heard_other (foreign : line ≠ other) : n.heard other (line, call) = none := if_neg foreign

/-- A call from outside waits for nothing. -/
theorem Tells.turn_outside (tells : n.Tells line call after) (other : Nat)
    (free : Docket.Spends (n.docket line) call (n.docket line)) :
    Turn (n.view other) (n.heard other (line, call)) (after.view other) := by
  by_cases mine : line = other
  · subst mine
    exact tells.turn rfl free
  · rw [heard_other mine, tells.view_other mine]
    exact .aside

end Tells

section Turns

variable {n : Network} {request : Request} {number : Nat}

/-- A dropped transport hears the same as one that is reset. -/
theorem turn_drop (line other : Nat) :
    Turn (n.view other) (n.heard other (line, .reset)) ((n.drop line).view other) := by
  have resets : n.Tells line .reset (n.reset line) := tells_reset
  unfold drop
  by_cases built : line < (n.reset line).lines.length
  · rw [view_setCarrier _ _ other built]
    by_cases mine : line = other
    · subst mine
      rw [if_pos rfl]
      rcases resets with ⟨t, carrier, same⟩ | ⟨absent, kept⟩
      · rw [same, view_advancePolling n line _ (lt_of_carrier? carrier), if_pos rfl]
        simp only [heard, if_true, poller?_eq_some.2 carrier, Option.map_some]
        exact .hear (poller?_eq_some.2 carrier) (.reset _) (.inr ⟨rfl, rfl⟩)
      · have same : { n.view line with poller := none } = n.view line := by
          rw [← absent]
          rfl
        rw [kept]
        simp only [heard, if_true, absent, Option.map_none]
        exact same.symm ▸ .aside
    · rw [if_neg mine, heard_other mine, resets.view_other mine]
      exact .aside
  · have same : (n.reset line).setCarrier line none = n.reset line := by
      unfold setCarrier
      rw [List.modify_eq_self (Nat.le_of_not_lt built)]
    rw [same]
    exact resets.turn_outside other (.reset _)

/-- A request that ended is told to its job, if a job owns it. -/
def toldByEnd (outcome : Http.Outcome) : Owner → Option (Nat × Call)
  | .job line job => some (line, .answer job outcome)
  | .reconnect _ _ => none

/-- The network once a request is closed, before its owner is told. -/
def closing (n : Network) (number : Nat) : Network :=
  { n with
    exchange := n.exchange.settle number .closed
    clock := n.clock.cancel (· == .deadline number) }

theorem finish_eq (n : Network) (number : Nat) (owner : Owner) (outcome : Http.Outcome) :
    n.finish number owner outcome = (n.closing number).deliver owner outcome := rfl

/-- The errand of a request ends it, if it was answered, and does nothing otherwise. -/
theorem runErrand_answered (n : Network) (number : Nat) :
    (∃ request outcome, n.exchange.entries[number]? = some request ∧
        request.standing = .answered outcome ∧
        n.runErrand (.answered number) = n.finish number request.owner outcome ∧
        n.toldByErrand (.answered number) = toldByEnd outcome request.owner) ∨
      n.runErrand (.answered number) = n ∧ n.toldByErrand (.answered number) = none := by
  rcases found : n.exchange.entries[number]? with _ | ⟨request, owner, standing⟩
  · exact .inr (by simp [runErrand, toldByErrand, found])
  · cases standing with
    | waiting | closed => exact .inr (by simp [runErrand, toldByErrand, found])
    | answered outcome =>
        refine .inl ⟨_, outcome, rfl, rfl, by simp [runErrand, found], ?_⟩
        simp only [toldByErrand, found]
        cases owner <;> rfl

/-- The deadline of a request ends it, if it waits, and does nothing otherwise. -/
theorem ring_deadline (n : Network) (number : Nat) :
    (∃ request, n.exchange.entries[number]? = some request ∧ request.standing = .waiting ∧
        n.ring (.deadline number) = n.finish number request.owner .timedOut ∧
        n.toldByAlarm (.deadline number) = toldByEnd .timedOut request.owner) ∨
      n.ring (.deadline number) = n ∧ n.toldByAlarm (.deadline number) = none := by
  rcases found : n.exchange.entries[number]? with _ | ⟨request, owner, standing⟩
  · exact .inr (by simp [ring, toldByAlarm, found])
  · cases standing with
    | answered | closed => exact .inr (by simp [ring, toldByAlarm, found])
    | waiting =>
        refine .inl ⟨_, rfl, rfl, by simp [ring, found], ?_⟩
        simp only [toldByAlarm, found]
        cases owner <;> rfl

theorem view_settled (n : Network) (number line : Nat) (standing : Http.Standing) :
    (n.settled number standing).view line =
      { n.view line with docket := (n.settled number standing).docket line } := by
  unfold view
  rw [polls_settled]
  rfl

/-- The end of a request is a turn of the line that it was posted for. -/
theorem turn_finish (here : n.exchange.entries[number]? = some request)
    (held : request.standing ≠ .closed) (outcome : Http.Outcome) (other : Nat) :
    Turn (n.view other) ((toldByEnd outcome request.owner).bind (n.heard other))
      ((n.finish number request.owner outcome).view other) := by
  rw [finish_eq]
  cases owner : request.owner with
  | reconnect attempt manual =>
      have same : (n.closing number).view other = n.view other :=
        view_closed_other here (by simp [owner])
      change Turn (n.view other) none ((n.closing number).view other)
      rw [same]
      exact .aside
  | job line job =>
      have tells : (n.closing number).Tells line (.answer job outcome) _ := tells_deliver job outcome
      change Turn (n.view other) (n.heard other (line, .answer job outcome)) _
      by_cases mine : line = other
      · subst mine
        refine tells.turn (view_settled n number line .closed) ?_
        rw [docket_closed here owner held]
        exact .answer _ job outcome
      · have same : (n.closing number).view other = n.view other :=
          view_closed_other here (by simp [owner, mine])
        rw [heard_other mine, tells.view_other mine, same]
        exact .aside

/-- The errand at a place of the list splits it. -/
theorem split_at_errand {index : Nat} {errand : Errand} (here : n.errands[index]? = some errand) :
    n.errands = n.errands.take index ++ errand :: n.errands.drop (index + 1) := by
  obtain ⟨inside, found⟩ := List.getElem?_eq_some_iff.1 here
  rw [← found, List.getElem_cons_drop, List.take_append_drop]

/-- What an errand does, once it is off the list. -/
theorem turn_errand {front back : List Errand} {errand : Errand}
    (split : n.errands = front ++ errand :: back) (line : Nat) :
    Turn (n.view line) ((n.toldByErrand errand).bind (n.heard line))
      (((n.withErrands (front ++ back)).runErrand errand).view line) := by
  cases errand with
  | wake other job =>
      have tells : (n.withErrands (front ++ back)).Tells other (.wake job) _ := tells_wake job
      change Turn (n.view line) (n.heard line (other, .wake job)) _
      by_cases mine : other = line
      · subst mine
        refine tells.turn (view_withErrands n _ other) ?_
        rw [docket_woken split]
        exact .wake _ job
      · have same : (n.withErrands (front ++ back)).view line = n.view line :=
          view_run_other split (by simp [mine]) (by simp)
        rw [heard_other mine, tells.view_other mine, same]
        exact .aside
  | answered number =>
      have same : (n.withErrands (front ++ back)).view line = n.view line :=
        view_run_other split (by simp) (by simp)
      rcases runErrand_answered (n.withErrands (front ++ back)) number with
        ⟨request, outcome, here, standing, ends, told⟩ | ⟨stays, told⟩
      · have turn := turn_finish here (by simp [standing]) outcome line
        rw [same, ← told, ← ends] at turn
        exact turn
      · have mute : n.toldByErrand (.answered number) = none := told
        rw [stays, mute, same]
        exact .aside
  | release other =>
      change Turn (n.view line) none _
      by_cases mine : other = line
      · subst mine
        have released : (n.docket other).released = true := by simp [docket, split]
        have same (again : Bool) : ((n.withErrands (front ++ back)).docket other).clear again =
            (n.docket other).clear again := by
          simp [Docket.clear, docket, withErrands, split]
        rw [runErrand_release, view_released, same]
        exact .release released
      · have same : (n.withErrands (front ++ back)).view line = n.view line :=
          view_run_other split (by simp) (by simp [mine])
        rw [runErrand_release, view_givenUp _ fun _ => decide_eq_false (Ne.symm mine), same]
        exact .aside

/-- What an alarm does, once it is off the clock. -/
theorem turn_alarm (clock : Clock Alarm) (alarm : Alarm) (line : Nat) :
    Turn (n.view line) ((n.toldByAlarm alarm).bind (n.heard line))
      (({ n with clock } : Network).ring alarm |>.view line) := by
  cases alarm with
  | session timer ticket => exact .aside
  | connect other =>
      have same : (({ n with clock } : Network).ring (.connect other)).view line = n.view line := by
        simp only [ring]
        split
        · rename_i ws carrier
          exact view_advancePersistent carrier line _
        · rfl
      exact same.symm ▸ .aside
  | deadline number =>
      rcases ring_deadline { n with clock } number with
        ⟨request, here, standing, ends, told⟩ | ⟨stays, told⟩
      · have turn := turn_finish here (by simp [standing]) .timedOut line
        rw [← told, ← ends] at turn
        exact turn
      · have mute : n.toldByAlarm (.deadline number) = none := told
        rw [stays, mute]
        exact .aside

theorem create_polling {factory : Factory} {kind : TransportKind} {t : LongPoll}
    (built : factory.create kind = .polling t) : t = { options := factory.longPoll } := by
  unfold Factory.create at built
  split at built <;> cases built
  rfl

/-- A transport is added at the end of the lines. -/
theorem turn_add (factory : Factory) (kind : TransportKind) (line : Nat) :
    Turn (n.view line) none ((n.addLine (factory.create kind)).view line) := by
  have length : (n.addLine (factory.create kind)).lines.length = n.lines.length + 1 := by
    simp [addLine]
  by_cases last : n.lines.length = line
  · have unbuilt : ¬(n.view line).built := by simp [view, last]
    have carrier : (n.addLine (factory.create kind)).carrier? line = some (factory.create kind) := by
      simp [addLine, carrier?, ← last]
    have view (poller : Option LongPoll) (found : Carrier.poller? (factory.create kind) = poller) :
        (n.addLine (factory.create kind)).view line =
          { n.view line with built := True, poller } := by
      simp only [Network.view, poller?, carrier, Option.bind_some, found, length, last,
        Nat.lt_succ_self]
      rfl
    cases built : factory.create kind with
    | polling t =>
        rw [← built, view (some { options := factory.longPoll }) (by
          rw [built, create_polling built]
          rfl)]
        exact .add unbuilt
    | persistent ws =>
        rw [← built, view none (by rw [built]; rfl)]
        exact .addOther unbuilt
  · have carrier : (n.addLine (factory.create kind)).carrier? line = n.carrier? line := by
      simp only [carrier?, addLine, List.getElem?_append]
      split
      · rfl
      · rw [List.getElem?_eq_none (by simp; omega), List.getElem?_eq_none (by omega)]
    have built : (line < n.lines.length + 1) = (line < n.lines.length) := propext (by omega)
    have same : (n.addLine (factory.create kind)).view line = n.view line := by
      simp only [view, poller?, carrier, length, built]
      rfl
    rw [same]
    exact .aside

/-- An address only finds a request that waits for its answer. -/
theorem waiting_of_find? {address : Http.Exchange.Address}
    (found : n.exchange.find? address = some number) :
    ∃ request, n.exchange.entries[number]? = some request ∧ request.standing = .waiting := by
  have inFlight : n.exchange.isInFlight number = true := by
    cases address with
    | number other =>
        simp only [Http.Exchange.find?] at found
        split at found <;> cases found
        assumption
    | path segment =>
        exact (List.mem_filter.1 (List.mem_of_find?_eq_some found)).2
  unfold Http.Exchange.isInFlight at inFlight
  cases here : n.exchange.entries[number]? with
  | none => simp [here] at inFlight
  | some request =>
      refine ⟨request, rfl, ?_⟩
      cases standing : request.standing <;> simp_all [Http.Standing.isWaiting]

theorem turn_answer (address : Http.Exchange.Address) (outcome : Http.Outcome) (line : Nat) :
    Turn (n.view line) none ((n.answer address outcome).2.view line) := by
  unfold answer
  cases found : n.exchange.find? address with
  | none => exact .aside
  | some number =>
      obtain ⟨request, here, waits⟩ := waiting_of_find? found
      have same : ({ n with
          exchange := n.exchange.settle number (.answered outcome)
          errands := n.errands ++ [.answered number] } : Network).view line =
            (n.settled number (.answered outcome)).view line := by
        simp [view, docket, polls, poller?, carrier?, settled]
      exact (same.trans (view_answered outcome here waits)).symm ▸ .aside

/-- All that a move can do to what a network holds of a line. -/
theorem turn (n : Network) (line : Nat) (move : Move) :
    Turn (n.view line) (n.beat? line move) ((n.make move).view line) := by
  cases move with
  | add factory kind => exact turn_add factory kind line
  | start other => exact tells_start.turn_outside line (.start _)
  | send other frame => exact (tells_send frame).turn_outside line (.send _ _)
  | reset other => exact tells_reset.turn_outside line (.reset _)
  | drop other => exact turn_drop other line
  | detach other => exact (view_detach other line).symm ▸ .aside
  | emit other event => exact (view_emit other line event).symm ▸ .aside
  | answer address outcome => exact turn_answer address outcome line
  | ask request attempt manual limit =>
      have same : (n.post request (.reconnect attempt manual) limit).view line = n.view line :=
        view_post request limit (by simp)
      exact same.symm ▸ .aside
  | abandon attempt =>
      have same : (n.abandon attempt).view line = n.view line := view_givenUp n fun _ => rfl
      exact same.symm ▸ .aside
  | set | cancel | fetch | wait => exact .aside
  | errand index =>
      simp only [beat?, told, make]
      cases here : n.errands[index]? with
      | none => exact .aside
      | some errand =>
          rw [List.eraseIdx_eq_take_drop_succ]
          exact turn_errand (split_at_errand here) line
  | alarm limit =>
      simp only [beat?, told, make]
      cases fires : n.clock.next? limit with
      | none => exact .aside
      | some fired => exact turn_alarm fired.2 fired.1 line

end Turns

end Tether.Network
