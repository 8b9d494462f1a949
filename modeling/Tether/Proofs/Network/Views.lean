/-
# Tether.Proofs.Network.Views -- what a network holds of one line

Of all that is in a network, only little concerns the polling transport of one line: the
transport itself, the errands that wake its jobs or give its requests up, its requests that
were neither taken nor given up, and the polls it ever posted.  That is the view of the line.
The acts of the transport change its view as they enter its docket, and what concerns another
line leaves it alone.

* `view_advancePolling` -- a transport that acts changes the view of its own line only.
* `view_advancePersistent` -- persistent transports have nothing in the docket of any line.
* `docket_settle` -- a request that is closed leaves the docket of its job.
-/
import Tether.Network
import Tether.Proofs.LongPoll.Docket

set_option autoImplicit false

namespace Tether

/-! ## Lists with one entry changed -/

section Modify

variable {α β : Type} {f : α → α} {a : α} {l : List α} {i : Nat}

theorem countP_modify (p : α → Bool) (here : l[i]? = some a) :
    (l.modify i f).countP p + (if p a then 1 else 0) =
      l.countP p + if p (f a) then 1 else 0 := by
  induction l generalizing i with
  | nil => cases here
  | cons head l ih =>
      cases i with
      | zero =>
          cases here
          simp only [List.modify_zero_cons, List.countP_cons]
          omega
      | succ i =>
          have rest := ih here
          simp only [List.modify_succ_cons, List.countP_cons]
          omega

theorem filterMap_modify (g : α → Option β) (same : ∀ a, g (f a) = g a) :
    (l.modify i f).filterMap g = l.filterMap g := by
  induction l generalizing i with
  | nil => cases i <;> rfl
  | cons head l ih =>
      cases i with
      | zero => simp only [List.modify_zero_cons, List.filterMap_cons, same]
      | succ i => simp only [List.modify_succ_cons, List.filterMap_cons, ih]

end Modify

def Carrier.poller? : Carrier → Option LongPoll
  | .polling t => some t
  | .persistent _ => none

namespace Network

open LongPoll (Docket)

abbrev Request := Http.Entry Owner

/-- The request is one of a job of `line`, and was neither taken nor given up. -/
def isHeld (line : Nat) (job : LongPoll.Job) (request : Request) : Bool :=
  decide (request.owner = .job line job ∧ request.standing ≠ .closed)

def pollBody? (line : Nat) (request : Request) : Option String :=
  if request.owner = .job line .polling then some request.request.body else none

/-- What waits for the transport of a line. -/
def docket (n : Network) (line : Nat) : Docket where
  wakes job := n.errands.count (.wake line job)
  flights job := n.exchange.entries.countP (isHeld line job)
  released := n.errands.contains (.release line)

/-- The bodies of the polls of a line, oldest first. -/
def polls (n : Network) (line : Nat) : List String := n.exchange.entries.filterMap (pollBody? line)

/-- The polling transport of a line, until it is dropped. -/
def poller? (n : Network) (line : Nat) : Option LongPoll :=
  (n.carrier? line).bind Carrier.poller?

structure View where
  /-- Whether there is a transport on the line, or was one. -/
  built : Prop := False
  poller : Option LongPoll := none
  docket : Docket := {}
  polls : List String := []

def view (n : Network) (line : Nat) : View where
  built := line < n.lines.length
  poller := n.poller? line
  docket := n.docket line
  polls := n.polls line

/-! ## What leaves a view alone -/

section Lines

variable {n after : Network} {line other : Nat}

theorem view_congr (errands : after.errands = n.errands) (exchange : after.exchange = n.exchange)
    (length : after.lines.length = n.lines.length)
    (carrier : after.carrier? line = n.carrier? line) : after.view line = n.view line := by
  unfold view docket polls poller?
  rw [errands, exchange, length, carrier]

theorem carrier?_modify {f : Line → Line} (same : ∀ entry, (f entry).carrier = entry.carrier) :
    ({ n with lines := n.lines.modify line f } : Network).carrier? other = n.carrier? other := by
  simp only [carrier?, List.getElem?_modify]
  cases n.lines[other]? with
  | none => rfl
  | some entry =>
      by_cases here : line = other
      · simp [here, same]
      · simp [here]

theorem view_detach (line other : Nat) : (n.detach line).view other = n.view other :=
  view_congr rfl rfl (List.length_modify ..) (carrier?_modify fun _ => rfl)

theorem view_emit (line other : Nat) (event : TransportEvent) :
    (n.emit line event).2.view other = n.view other := by
  unfold emit
  split
  · rfl
  · rename_i entry here
    refine view_congr rfl rfl (List.length_set ..) ?_
    simp only [carrier?, List.getElem?_set]
    by_cases same : line = other
    · subst same
      have inside : line < n.lines.length := (List.getElem?_eq_some_iff.1 here).1
      rw [here]
      simp [inside]
    · simp [same]

theorem carrier?_setCarrier (n : Network) (carrier : Option Carrier) (line other : Nat) :
    (n.setCarrier line carrier).carrier? other =
      if line = other ∧ other < n.lines.length then carrier else n.carrier? other := by
  simp only [carrier?, setCarrier, List.getElem?_modify]
  by_cases inside : other < n.lines.length
  · by_cases same : line = other <;> simp [inside, same]
  · simp [inside]

theorem length_setCarrier (n : Network) (carrier : Option Carrier) (line : Nat) :
    (n.setCarrier line carrier).lines.length = n.lines.length := List.length_modify ..

theorem lt_of_carrier? {carrier : Carrier} (here : n.carrier? line = some carrier) :
    line < n.lines.length := by
  obtain ⟨entry, found, -⟩ := Option.bind_eq_some_iff.1 here
  exact (List.getElem?_eq_some_iff.1 found).1

theorem poller?_eq_some {t : LongPoll} :
    n.poller? line = some t ↔ n.carrier? line = some (.polling t) := by
  unfold poller?
  cases n.carrier? line with
  | none => simp
  | some carrier => cases carrier <;> simp [Carrier.poller?]

end Lines

/-- What is posted for another is no business of a line. -/
theorem view_post {n : Network} {line : Nat} {owner : Owner} (request : Http.Request)
    (limit : Nat) (foreign : ∀ job, owner ≠ .job line job) :
    (n.post request owner limit).view line = n.view line := by
  simp [view, docket, polls, poller?, carrier?, post, Http.Exchange.post, isHeld, pollBody?, foreign]

/-! ## Acts -/

theorem isHeld_posted (line other : Nat) (job waiting : LongPoll.Job) (request : Http.Request) :
    isHeld other waiting { request, owner := .job line job } =
      (decide (line = other) && decide (job = waiting)) := by
  by_cases same : line = other <;> by_cases one : job = waiting <;> simp [isHeld, same, one]

theorem view_setCarrier (n : Network) (carrier : Option Carrier) {line : Nat} (other : Nat)
    (built : line < n.lines.length) :
    (n.setCarrier line carrier).view other =
      if line = other then { n.view other with poller := carrier.bind Carrier.poller? }
      else n.view other := by
  by_cases same : line = other
  · subst same
    simp only [view, if_true, poller?, carrier?_setCarrier, built, and_self, length_setCarrier]
    rfl
  · rw [if_neg same]
    exact view_congr rfl rfl (length_setCarrier ..) (by simp [carrier?_setCarrier, same])

theorem view_pollingAct (n : Network) (line other : Nat) (act : LongPoll.Act) :
    (pollingAct line n act).view other =
      if line = other then
        { n.view other with
          docket := (n.docket other).enter act
          polls := n.polls other ++ (LongPoll.Act.pollBody? act).toList }
      else n.view other := by
  cases act with
  | emit event =>
      rw [pollingAct, view_emit]
      split <;> simp [LongPoll.Act.pollBody?, Docket.enter, view]
  | detach =>
      rw [pollingAct, view_detach]
      split <;> simp [LongPoll.Act.pollBody?, Docket.enter, view]
  | release =>
      by_cases same : line = other
      · simp [pollingAct, view, same, Docket.enter, LongPoll.Act.pollBody?, docket, polls, poller?,
          carrier?]
      · simp [pollingAct, view, same, docket, polls, poller?, carrier?, Ne.symm same]
  | wake job =>
      by_cases same : line = other
      · simp [pollingAct, view, same, Docket.enter, Docket.wake, LongPoll.Act.pollBody?, docket,
          polls, poller?, carrier?, List.count_singleton]
      · simp [pollingAct, view, same, docket, polls, poller?, carrier?]
  | post job request limit =>
      by_cases same : line = other
      · cases job <;>
        simp [pollingAct, view, same, Docket.enter, Docket.post, LongPoll.Act.pollBody?, docket,
          polls, poller?, carrier?, post, Http.Exchange.post, isHeld_posted, pollBody?,
          List.countP_singleton]
      · simp [pollingAct, view, same, docket, polls, poller?, carrier?, post, Http.Exchange.post,
          isHeld_posted, pollBody?]

theorem view_pollingActs (n : Network) (line other : Nat) (acts : List LongPoll.Act) :
    (acts.foldl (pollingAct line) n).view other =
      if line = other then
        { n.view other with
          docket := (n.docket other).enterAll acts
          polls := n.polls other ++ acts.filterMap LongPoll.Act.pollBody? }
      else n.view other := by
  induction acts generalizing n with
  | nil =>
      rw [List.foldl_nil, List.filterMap_nil, List.append_nil]
      split <;> rfl
  | cons act acts ih =>
      have head := view_pollingAct n line other act
      rw [List.foldl_cons, ih]
      by_cases same : line = other
      · rw [if_pos same] at head ⊢
        have docket := congrArg View.docket head
        have polls := congrArg View.polls head
        simp only [view] at docket polls
        rw [head, docket, polls, if_pos same, List.append_assoc]
        cases found : act.pollBody? <;> simp [found, Docket.enterAll]
      · rw [if_neg same] at head ⊢
        rw [head, if_neg same]

/-- A polling transport that acts changes the view of its own line, and of no other. -/
theorem view_advancePolling (n : Network) {line : Nat} (other : Nat)
    (step : LongPoll × List LongPoll.Act) (built : line < n.lines.length) :
    (n.advancePolling line step).view other =
      if line = other then
        { n.view other with
          poller := some step.1
          docket := (n.docket other).enterAll step.2
          polls := n.polls other ++ step.2.filterMap LongPoll.Act.pollBody? }
      else n.view other := by
  unfold advancePolling
  rw [view_pollingActs, view_setCarrier n _ other built]
  by_cases same : line = other
  · simp only [same, if_true]
    rfl
  · simp only [same, if_false]

theorem view_persistentAct (n : Network) (line other : Nat) (act : WebSocket.Act) :
    (persistentAct line n act).view other = n.view other := by
  cases act with
  | connect | write | close | abandon => rfl
  | emit event => exact view_emit line other event
  | detach => exact view_detach line other

/-- Persistent transports have nothing in any view. -/
theorem view_advancePersistent {n : Network} {line : Nat} {ws : WebSocket}
    (here : n.carrier? line = some (.persistent ws)) (other : Nat)
    (step : WebSocket × List WebSocket.Act) :
    (n.advancePersistent line step).view other = n.view other := by
  unfold advancePersistent
  have quiet (acts : List WebSocket.Act) (m : Network) :
      (acts.foldl (persistentAct line) m).view other = m.view other := by
    induction acts generalizing m with
    | nil => rfl
    | cons act acts ih => rw [List.foldl_cons, ih, view_persistentAct]
  rw [quiet, view_setCarrier n _ other (lt_of_carrier? here)]
  by_cases same : line = other
  · subst same
    simp [view, poller?, here, Carrier.poller?]
  · rw [if_neg same]

/-- Without an errand more or less, only the requests of a line count. -/
theorem docket_congr {n after : Network} {line : Nat} (errands : after.errands = n.errands)
    (flights : ∀ job, (after.docket line).flights job = (n.docket line).flights job) :
    after.docket line = n.docket line := by
  have same : after.docket line = { n.docket line with flights := (after.docket line).flights } := by
    simp only [docket, errands]
  rw [same, funext flights]

/-! ## Requests -/

section Requests

variable {n : Network} {number line : Nat} {request : Request}

def settled (n : Network) (number : Nat) (standing : Http.Standing) : Network :=
  { n with exchange := n.exchange.settle number standing }

theorem polls_settled (standing : Http.Standing) :
    (n.settled number standing).polls line = n.polls line :=
  filterMap_modify (pollBody? line) fun _ => rfl

theorem flights_settled (line : Nat) (standing : Http.Standing) (job : LongPoll.Job)
    (here : n.exchange.entries[number]? = some request) :
    ((n.settled number standing).docket line).flights job +
        (if isHeld line job request then 1 else 0) =
      (n.docket line).flights job + if isHeld line job { request with standing } then 1 else 0 :=
  countP_modify (isHeld line job) here

/-- An answer that waits to be taken leaves a request in the docket. -/
theorem view_answered (outcome : Http.Outcome) (here : n.exchange.entries[number]? = some request)
    (waits : request.standing = .waiting) :
    (n.settled number (.answered outcome)).view line = n.view line := by
  have docket : (n.settled number (.answered outcome)).docket line = n.docket line := by
    refine docket_congr rfl fun job => ?_
    have counted := flights_settled line (.answered outcome) job here
    have same : isHeld line job { request with standing := .answered outcome } =
        isHeld line job request := by
      simp [isHeld, waits]
    rw [same] at counted
    omega
  unfold view
  rw [docket, polls_settled]
  rfl

/-- A request that is closed leaves the docket of its job. -/
theorem docket_closed {job : LongPoll.Job} (here : n.exchange.entries[number]? = some request)
    (owner : request.owner = .job line job) (held : request.standing ≠ .closed) :
    n.docket line = ((n.settled number .closed).docket line).post job := by
  have flights (other : LongPoll.Job) :
      (n.docket line).flights other =
        ((n.settled number .closed).docket line).flights other + if job = other then 1 else 0 := by
    have counted := flights_settled line .closed other here
    have gone : isHeld line other { request with standing := .closed } = false := by
      simp [isHeld]
    have mine : isHeld line other request = decide (job = other) := by
      simp [isHeld, owner, held]
    rw [gone, mine] at counted
    simpa using counted.symm
  exact congrArg (fun counts => { n.docket line with flights := counts }) (funext flights)

/-- The request of another is in no docket of this line. -/
theorem view_closed_other (here : n.exchange.entries[number]? = some request)
    (foreign : ∀ job, request.owner ≠ .job line job) :
    (n.settled number .closed).view line = n.view line := by
  have docket : (n.settled number .closed).docket line = n.docket line := by
    refine docket_congr rfl fun job => ?_
    have counted := flights_settled line .closed job here
    simpa [isHeld, foreign job] using counted
  unfold view
  rw [docket, polls_settled]
  rfl

end Requests

/-! ## Errands -/

section Errands

variable {n : Network} {front back : List Errand} {line : Nat}

def withErrands (n : Network) (errands : List Errand) : Network := { n with errands }

theorem view_withErrands (n : Network) (errands : List Errand) (line : Nat) :
    (n.withErrands errands).view line =
      { n.view line with docket := (n.withErrands errands).docket line } := rfl

/-- A wake that is run leaves the docket of its line. -/
theorem docket_woken {job : LongPoll.Job} (split : n.errands = front ++ .wake line job :: back) :
    n.docket line = ((n.withErrands (front ++ back)).docket line).wake job := by
  have wakes (other : LongPoll.Job) :
      (n.docket line).wakes other =
        ((n.withErrands (front ++ back)).docket line).wakes other +
          if job = other then 1 else 0 := by
    simp only [docket, withErrands, split, List.count_append, List.count_cons, beq_iff_eq,
      Errand.wake.injEq, true_and]
    omega
  have released : (n.docket line).released =
      ((n.withErrands (front ++ back)).docket line).released := by
    simp [docket, withErrands, split]
  unfold Docket.wake
  rw [← released]
  exact congrArg (fun counts => { n.docket line with wakes := counts }) (funext wakes)

/-- Errands that neither wake a job of the line nor give its requests up are not in its docket. -/
theorem view_run_other {errand : Errand} (split : n.errands = front ++ errand :: back)
    (quiet : ∀ job, errand ≠ .wake line job) (kept : errand ≠ .release line) :
    (n.withErrands (front ++ back)).view line = n.view line := by
  have docket : (n.withErrands (front ++ back)).docket line = n.docket line := by
    simp [Network.docket, withErrands, split, quiet, kept.symm]
  unfold view
  rw [docket]
  rfl

end Errands

/-! ## Requests that are given up -/

section GivenUp

variable {n : Network} {p : Owner → Bool} {line : Nat}

def givenUp (n : Network) (p : Owner → Bool) : Network :=
  { n with exchange := n.exchange.giveUp p }

def isJobOf (line : Nat) : Owner → Bool
  | .job other _ => other == line
  | .reconnect _ _ => false

theorem runErrand_release (n : Network) (line : Nat) :
    n.runErrand (.release line) = n.givenUp (isJobOf line) := rfl

theorem polls_givenUp : (n.givenUp p).polls line = n.polls line := by
  simp only [polls, givenUp, Http.Exchange.giveUp, List.filterMap_map]
  congr 1
  funext request
  by_cases closes : p request.owner <;> simp [pollBody?, closes]

theorem isHeld_givenUp (job : LongPoll.Job) (request : Request) :
    isHeld line job (if p request.owner then { request with standing := .closed } else request) =
      (isHeld line job request && !p (.job line job)) := by
  by_cases mine : request.owner = .job line job
  · by_cases closes : p (.job line job) <;> simp [isHeld, mine, closes]
  · by_cases closes : p request.owner <;> simp [isHeld, mine, closes]

theorem flights_givenUp (job : LongPoll.Job) :
    ((n.givenUp p).docket line).flights job =
      if p (.job line job) then 0 else (n.docket line).flights job := by
  simp only [docket, givenUp, Http.Exchange.giveUp, List.countP_map, Function.comp_def,
    isHeld_givenUp]
  by_cases closes : p (.job line job) <;> simp [closes]

theorem view_givenUp (n : Network) (foreign : ∀ job, p (.job line job) = false) :
    (n.givenUp p).view line = n.view line := by
  have docket : (n.givenUp p).docket line = n.docket line :=
    docket_congr rfl fun job => (flights_givenUp job).trans (by simp [foreign])
  unfold view
  rw [docket, polls_givenUp]
  rfl

/-- A line whose requests are given up has none left. -/
theorem view_released (n : Network) (line : Nat) :
    (n.givenUp (isJobOf line)).view line =
      { n.view line with docket := (n.docket line).clear (n.docket line).released } := by
  have docket : (n.givenUp (isJobOf line)).docket line =
      (n.docket line).clear (n.docket line).released :=
    congrArg (fun counts => { n.docket line with flights := counts })
      (funext fun job => (flights_givenUp job).trans (by simp [isJobOf]))
  unfold view
  rw [docket, polls_givenUp]
  rfl

end GivenUp

end Network

end Tether
