/-
# Tether.Proofs.Network.Asks -- requests for credentials, until they end

A request for credentials is counted once, from the moment it is posted until its owner takes
notice of its end: first in the ledger, as long as it was neither taken nor given up, and then
among the arrivals.  Whatever a network does by itself or for one of its transports, it only
carries such requests from the one place to the other.  To post one or to give one up takes the
caller.

* `proceeds_make` -- all but a few moves leave the requests for credentials and the transports
  where they are.
* `asking_ask`, `asking_abandon` -- what the others do.
-/
import Tether.Proofs.Network.Answers

set_option autoImplicit false

namespace Tether.Network

/-! ## Counting -/

/-- The attempt that asks, if credentials are asked for. -/
def Owner.attempt? : Owner → Option Nat
  | .reconnect attempt _ => some attempt
  | .job _ _ => none

/-- The request is one of an attempt, and was neither taken nor given up. -/
def isAsk (attempt : Nat) (request : Request) : Bool :=
  decide (request.owner.attempt? = some attempt ∧ request.standing ≠ .closed)

def Arrival.attempt? : Arrival → Option Nat
  | .resolved attempt _ _ => some attempt
  | .event _ _ | .expired _ _ => none

/-- How many requests of an attempt were neither taken nor given up. -/
def asking (n : Network) (attempt : Nat) : Nat := n.exchange.entries.countP (isAsk attempt)

/-- How many requests of an attempt came to an end that was not fetched yet. -/
def endings (n : Network) (attempt : Nat) : Nat :=
  n.arrivals.countP fun arrival => decide (arrival.attempt? = some attempt)

def asked? (request : Request) : Option Http.Request :=
  request.owner.attempt?.map fun _ => request.request

/-- All that was ever posted for an attempt, oldest first. -/
def askings (n : Network) : List Http.Request := n.exchange.entries.filterMap asked?

/-! ## What goes on by itself -/

/-- From `n` to `m` no credentials are asked for: requests for them only come to their ends. -/
structure Carries (n m : Network) : Prop where
  askings : m.askings = n.askings
  asking : ∀ attempt, m.asking attempt ≤ n.asking attempt
  total : ∀ attempt, m.asking attempt + m.endings attempt = n.asking attempt + n.endings attempt

/-- From `n` to `m` no transport is added or dropped either. -/
structure Proceeds (n m : Network) : Prop extends Carries n m where
  lines : m.lines.length = n.lines.length
  carriers : ∀ line, (n.carrier? line).isSome = true → (m.carrier? line).isSome = true

theorem Carries.refl (n : Network) : Carries n n :=
  ⟨rfl, fun _ => Nat.le_refl _, fun _ => rfl⟩

theorem Carries.trans {n m k : Network} (first : Carries n m) (second : Carries m k) :
    Carries n k where
  askings := second.askings.trans first.askings
  asking attempt := Nat.le_trans (second.asking attempt) (first.asking attempt)
  total attempt := (second.total attempt).trans (first.total attempt)

section Proceeds

variable {n m k : Network} {line number : Nat}

theorem Proceeds.trans (first : Proceeds n m) (second : Proceeds m k) : Proceeds n k where
  toCarries := first.toCarries.trans second.toCarries
  lines := second.lines.trans first.lines
  carriers line there := second.carriers line (first.carriers line there)

/-- Neither the ledger nor the ends of requests are touched. -/
theorem proceeds_of_same (lines : m.lines.length = n.lines.length)
    (carriers : ∀ line, (n.carrier? line).isSome = true → (m.carrier? line).isSome = true)
    (exchange : m.exchange = n.exchange)
    (endings : ∀ attempt, m.endings attempt = n.endings attempt) : Proceeds n m where
  lines := lines
  carriers := carriers
  askings := by simp only [Network.askings, exchange]
  asking attempt := by simp only [Network.asking, exchange, Nat.le_refl]
  total attempt := by rw [endings attempt]; simp only [Network.asking, exchange]

theorem Proceeds.refl (n : Network) : Proceeds n n :=
  proceeds_of_same rfl (fun _ there => there) rfl fun _ => rfl

theorem proceeds_emit (line : Nat) (event : TransportEvent) : Proceeds n (n.emit line event).2 := by
  have views (other : Nat) : (n.emit line event).2.carrier? other = n.carrier? other := by
    unfold emit
    split
    · rfl
    · rename_i entry here
      obtain ⟨inside, same⟩ := List.getElem?_eq_some_iff.1 here
      simp only [carrier?, List.getElem?_set]
      split
      · rename_i mine
        subst mine
        simp [inside, same]
      · rfl
  refine proceeds_of_same ?_ (fun other there => (views other).symm ▸ there) ?_ fun attempt => ?_
  · unfold emit
    split
    · rfl
    · exact List.length_set ..
  · unfold emit
    split <;> rfl
  · unfold emit
    split
    · rfl
    · dsimp only [endings]
      split
      · simp [List.countP_append, Arrival.attempt?]
      · rfl

theorem proceeds_detach (line : Nat) : Proceeds n (n.detach line) := by
  have views (other : Nat) : (n.detach line).carrier? other = n.carrier? other :=
    carrier?_modify fun _ => rfl
  exact proceeds_of_same (List.length_modify ..) (fun other there => (views other).symm ▸ there) rfl
    fun _ => rfl

theorem proceeds_setCarrier (line : Nat) (carrier : Carrier) :
    Proceeds n (n.setCarrier line (some carrier)) := by
  refine proceeds_of_same (length_setCarrier ..) (fun other there => ?_) rfl fun _ => rfl
  rw [carrier?_setCarrier]
  split
  · rfl
  · exact there

/-- What a transport posts is no request for credentials. -/
theorem proceeds_post (request : Http.Request) (line : Nat) (job : LongPoll.Job) (limit : Nat) :
    Proceeds n (n.post request (.job line job) limit) where
  lines := rfl
  carriers _ there := there
  askings := by simp [Network.askings, post, Http.Exchange.post, asked?, Owner.attempt?]
  asking attempt := by simp [Network.asking, post, Http.Exchange.post, isAsk, Owner.attempt?]
  total attempt := by
    simp [Network.asking, Network.endings, post, Http.Exchange.post, isAsk, Owner.attempt?]

theorem proceeds_pollingAct (line : Nat) (act : LongPoll.Act) :
    Proceeds n (pollingAct line n act) := by
  cases act with
  | post job request limit => exact proceeds_post request line job limit
  | emit event => exact proceeds_emit line event
  | detach => exact proceeds_detach line
  | wake | release => exact proceeds_of_same rfl (fun _ there => there) rfl fun _ => rfl

theorem proceeds_persistentAct (line : Nat) (act : WebSocket.Act) :
    Proceeds n (persistentAct line n act) := by
  cases act with
  | connect | close | abandon => exact proceeds_of_same rfl (fun _ there => there) rfl fun _ => rfl
  | write => exact .refl n
  | emit event => exact proceeds_emit line event
  | detach => exact proceeds_detach line

theorem proceeds_foldl {act : Type} {go : Network → act → Network}
    (proceeds : ∀ n a, Proceeds n (go n a)) (acts : List act) (n : Network) :
    Proceeds n (acts.foldl go n) := by
  induction acts generalizing n with
  | nil => exact .refl n
  | cons a acts ih => exact (proceeds n a).trans (ih _)

theorem proceeds_advancePolling (line : Nat) (step : LongPoll × List LongPoll.Act) :
    Proceeds n (n.advancePolling line step) :=
  (proceeds_setCarrier line _).trans
    (proceeds_foldl (fun _ act => proceeds_pollingAct line act) step.2 _)

theorem proceeds_advancePersistent (line : Nat) (step : WebSocket × List WebSocket.Act) :
    Proceeds n (n.advancePersistent line step) :=
  (proceeds_setCarrier line _).trans
    (proceeds_foldl (fun _ act => proceeds_persistentAct line act) step.2 _)

theorem proceeds_start (line : Nat) : Proceeds n (n.start line) := by
  unfold start
  split
  · exact proceeds_advancePolling line _
  · exact proceeds_advancePersistent line _
  · exact .refl n

theorem proceeds_reset (line : Nat) : Proceeds n (n.reset line) := by
  unfold reset
  split
  · exact proceeds_advancePolling line _
  · exact proceeds_advancePersistent line _
  · exact .refl n

theorem proceeds_send (line : Nat) (frame : String) : Proceeds n (n.send line frame).2 := by
  unfold send
  split
  · split
    · exact proceeds_advancePolling line _
    · exact .refl n
  · split
    · exact proceeds_advancePersistent line _
    · exact .refl n
  · exact .refl n

/-! ### The ledger -/

variable {request : Request}

theorem askings_settled (number : Nat) (standing : Http.Standing) :
    (n.settled number standing).askings = n.askings :=
  filterMap_modify asked? fun _ => rfl

theorem asking_settled (standing : Http.Standing) (attempt : Nat)
    (here : n.exchange.entries[number]? = some request) :
    (n.settled number standing).asking attempt + (if isAsk attempt request then 1 else 0) =
      n.asking attempt + if isAsk attempt { request with standing } then 1 else 0 :=
  countP_modify (isAsk attempt) here

/-- An answer leaves a request where it is until it is taken. -/
theorem proceeds_answer (address : Http.Exchange.Address) (outcome : Http.Outcome) :
    Proceeds n (n.answer address outcome).2 := by
  unfold answer
  split
  · exact .refl n
  · rename_i number found
    obtain ⟨request, here, waits⟩ := waiting_of_find? found
    have same (attempt : Nat) :
        (n.settled number (.answered outcome)).asking attempt = n.asking attempt := by
      have counted := asking_settled (.answered outcome) attempt here
      have still : isAsk attempt { request with standing := .answered outcome } =
          isAsk attempt request := by
        simp [isAsk, waits]
      rw [still] at counted
      omega
    exact
      { lines := rfl
        carriers := fun _ there => there
        askings := askings_settled number _
        asking := fun attempt => Nat.le_of_eq (same attempt)
        total := fun attempt => congrArg (· + n.endings attempt) (same attempt) }

theorem askings_givenUp (p : Owner → Bool) : (n.givenUp p).askings = n.askings := by
  have kept (request : Request) :
      asked? (if p request.owner then { request with standing := .closed } else request) =
        asked? request := by
    split <;> rfl
  simp only [Network.askings, givenUp, Http.Exchange.giveUp, List.filterMap_map, Function.comp_def,
    kept]

theorem asking_givenUp (p : Owner → Bool) (attempt : Nat) :
    (n.givenUp p).asking attempt =
      n.exchange.entries.countP fun request => isAsk attempt request && !p request.owner := by
  have closed (request : Request) :
      isAsk attempt (if p request.owner then { request with standing := .closed } else request) =
        (isAsk attempt request && !p request.owner) := by
    cases given : p request.owner <;> simp [isAsk]
  simp only [Network.asking, givenUp, Http.Exchange.giveUp, List.countP_map, Function.comp_def,
    closed]

/-- The requests of a transport are given up. -/
theorem proceeds_release (line : Nat) : Proceeds n (n.givenUp (isJobOf line)) := by
  have same (attempt : Nat) : (n.givenUp (isJobOf line)).asking attempt = n.asking attempt := by
    rw [asking_givenUp]
    refine List.countP_congr fun request _ => ?_
    cases owner : request.owner <;> simp [isAsk, owner, Owner.attempt?, isJobOf]
  exact
    { lines := rfl
      carriers := fun _ there => there
      askings := askings_givenUp _
      asking := fun attempt => Nat.le_of_eq (same attempt)
      total := fun attempt => congrArg (· + n.endings attempt) (same attempt) }

/-- A request that ends is closed, and if credentials were asked for the end comes out. -/
theorem proceeds_finish (here : n.exchange.entries[number]? = some request)
    (held : request.standing ≠ .closed) (outcome : Http.Outcome) :
    Proceeds n (n.finish number request.owner outcome) := by
  have closed (attempt : Nat) :
      (n.closing number).asking attempt + (if request.owner.attempt? = some attempt then 1 else 0) =
        n.asking attempt := by
    have counted := asking_settled .closed attempt here
    have gone : isAsk attempt { request with standing := .closed } = false := by simp [isAsk]
    have mine : isAsk attempt request = decide (request.owner.attempt? = some attempt) := by
      simp [isAsk, held]
    simp only [gone, mine, decide_eq_true_eq, Bool.false_eq_true, if_false] at counted
    exact counted
  rw [finish_eq]
  cases owner : request.owner with
  | job line job =>
      have same (attempt : Nat) : (n.closing number).asking attempt = n.asking attempt := by
        simpa [owner, Owner.attempt?] using closed attempt
      have first : Proceeds n (n.closing number) :=
        { lines := rfl
          carriers := fun _ there => there
          askings := askings_settled number _
          asking := fun attempt => Nat.le_of_eq (same attempt)
          total := fun attempt => congrArg (· + n.endings attempt) (same attempt) }
      refine first.trans ?_
      unfold deliver
      dsimp only
      split
      · exact proceeds_advancePolling line _
      · exact .refl _
  | reconnect other manual =>
      have ends (attempt : Nat) :
          ((n.closing number).deliver (.reconnect other manual) outcome).endings attempt =
            n.endings attempt + if request.owner.attempt? = some attempt then 1 else 0 := by
        simp [deliver, endings, closing, owner, Owner.attempt?, Arrival.attempt?,
          List.countP_singleton]
      exact
        { lines := rfl
          carriers := fun _ there => there
          askings := askings_settled number _
          asking := fun attempt => Nat.le.intro (closed attempt)
          total := fun attempt => by
            have left := closed attempt
            have right := ends attempt
            change (n.closing number).asking attempt + _ = _
            omega }

/-! ### Moves -/

/-- The caller adds or drops a transport, asks for credentials or gives up to ask, or fetches what
came out. -/
def Move.Intervenes : Move → Prop
  | .add _ _ | .drop _ | .ask _ _ _ _ | .abandon _ | .fetch => True
  | _ => False

theorem proceeds_errand (index : Nat) : Proceeds n (n.make (.errand index)) := by
  simp only [make]
  split
  · rename_i errand here
    have less : Proceeds n (n.withErrands (n.errands.eraseIdx index)) :=
      proceeds_of_same rfl (fun _ there => there) rfl fun _ => rfl
    refine less.trans ?_
    generalize n.withErrands (n.errands.eraseIdx index) = m
    cases errand with
    | wake line job =>
        simp only [runErrand]
        split
        · exact proceeds_advancePolling line _
        · exact .refl m
    | release line => exact proceeds_release line
    | answered number =>
        simp only [runErrand]
        split
        · rename_i found
          exact proceeds_finish found (by simp) _
        · exact .refl m
  · exact .refl n

theorem proceeds_alarm (limit : Nat) : Proceeds n (n.make (.alarm limit)) := by
  simp only [make]
  split
  · rename_i alarm clock fires
    have later : Proceeds n { n with clock } :=
      proceeds_of_same rfl (fun _ there => there) rfl fun _ => rfl
    refine later.trans ?_
    generalize { n with clock } = m
    cases alarm with
    | deadline number =>
        simp only [ring]
        split
        · rename_i found
          exact proceeds_finish found (by simp) _
        · exact .refl m
    | connect line =>
        simp only [ring]
        split
        · exact proceeds_advancePersistent line _
        · exact .refl m
    | session timer ticket =>
        refine proceeds_of_same rfl (fun _ there => there) rfl fun attempt => ?_
        simp [ring, endings, Arrival.attempt?, List.countP_append]
  · exact .refl n

/-- **All but a few moves leave transports and requests for credentials where they are.** -/
theorem proceeds_make (move : Move) (aside : ¬move.Intervenes) : Proceeds n (n.make move) := by
  cases move with
  | add | drop | ask | abandon | fetch => exact absurd trivial aside
  | start line => exact proceeds_start line
  | send line frame => exact proceeds_send line frame
  | reset line => exact proceeds_reset line
  | detach line => exact proceeds_detach line
  | emit line event => exact proceeds_emit line event
  | answer address outcome => exact proceeds_answer address outcome
  | set | cancel | wait => exact proceeds_of_same rfl (fun _ there => there) rfl fun _ => rfl
  | errand index => exact proceeds_errand index
  | alarm limit => exact proceeds_alarm limit

end Proceeds

/-! ## What takes the caller -/

section Caller

variable (n : Network)

/-- The caller asks for credentials, gives up to ask, or fetches what came out. -/
def Move.Asks : Move → Prop
  | .ask _ _ _ _ | .abandon _ | .fetch => True
  | _ => False

/-- Transports that are added or dropped carry no request for credentials away. -/
theorem carries_make (move : Move) (others : ¬move.Asks) : Carries n (n.make move) := by
  by_cases intervenes : move.Intervenes
  · cases move with
    | ask | abandon | fetch => exact absurd trivial others
    | add factory kind => exact ⟨rfl, fun _ => Nat.le_refl _, fun _ => rfl⟩
    | drop line =>
        obtain ⟨askings, asking, total⟩ := (proceeds_reset (n := n) line).toCarries
        exact ⟨askings, asking, total⟩
    | start | send | reset | detach | emit | answer | set | cancel | errand | alarm | wait =>
        exact intervenes.elim
  · exact (proceeds_make move intervenes).toCarries

theorem carries_run {moves : List Move} (others : ∀ move ∈ moves, ¬move.Asks) :
    Carries n (n.afterFrom moves) := by
  induction moves generalizing n with
  | nil => exact .refl n
  | cons move moves ih =>
      have first := carries_make n move (others move List.mem_cons_self)
      exact first.trans (ih _ fun other member => others other (List.mem_cons_of_mem _ member))

theorem askings_ask (request : Http.Request) (attempt : Nat) (manual : Bool) (limit : Nat) :
    (n.make (.ask request attempt manual limit)).askings = n.askings ++ [request] := by
  simp [make, askings, post, Http.Exchange.post, asked?, Owner.attempt?]

/-- A request more of its attempt. -/
theorem asking_ask (request : Http.Request) (attempt : Nat) (manual : Bool) (limit other : Nat) :
    (n.make (.ask request attempt manual limit)).asking other =
      n.asking other + if attempt = other then 1 else 0 := by
  by_cases mine : attempt = other <;>
    simp [make, asking, post, Http.Exchange.post, isAsk, Owner.attempt?, mine]

def isAskOf (attempt : Nat) : Owner → Bool
  | .reconnect other _ => other == attempt
  | .job _ _ => false

theorem make_abandon (attempt : Nat) : n.make (.abandon attempt) = n.givenUp (isAskOf attempt) := rfl

/-- An attempt that is abandoned has no request left, and the others have theirs. -/
theorem asking_abandon (attempt other : Nat) :
    (n.make (.abandon attempt)).asking other = if attempt = other then 0 else n.asking other := by
  have still (request : Request) :
      (isAsk other request && !isAskOf attempt request.owner) =
        (isAsk other request && decide (attempt ≠ other)) := by
    cases owner : request.owner with
    | job => simp [isAsk, owner, Owner.attempt?]
    | reconnect made manual =>
        by_cases mine : made = other
        · subst mine
          by_cases same : made = attempt
          · simp [isAskOf, same]
          · simp [isAskOf, same, Ne.symm (a := made) same]
        · simp [isAsk, owner, Owner.attempt?, mine]
  rw [make_abandon, asking_givenUp, funext still]
  by_cases same : attempt = other <;> simp [asking, same]

end Caller

end Tether.Network
