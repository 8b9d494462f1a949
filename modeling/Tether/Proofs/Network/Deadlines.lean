/-
# Tether.Proofs.Network.Deadlines -- no request outlives its time

A run is prompt if time passes only where no errand is left, and past no alarm that is due.  What
is left to the scheduler by that is the order of things, not how late they come.  In a prompt run
every request of a line is answered within the time of its job, or it times out at the end of that
time and at no other moment.

The time at which a request was posted is not kept by the network; it is read off the run
(`postedAt`).  A request that waits has its alarm on the clock (`Clocked.armed`), and an answer
that waits to be taken came in time (`Clocked.inTime`).

* `clocked_solo` -- what the clock holds of the requests of a transport.
* `punctual_solo` -- every answer that a transport hears comes in time.
-/
import Tether.Proofs.Alarms
import Tether.Proofs.Network.Sights

set_option autoImplicit false

namespace Tether.Network

open LongPoll (Beat Call Options Job)

/-! ## Prompt runs -/

/-- Time passes only where no errand is left, and past no alarm that is due; and what comes in for
a request is an answer, not the end of its time. -/
def Prompt (n : Network) : Move → Prop
  | .wait time => n.errands = [] ∧ ∀ alarm ∈ n.clock.alarms, time ≤ alarm.1
  | .alarm _ => n.errands = []
  | .answer _ outcome => outcome ≠ .timedOut
  | _ => True

/-- Every move of the run is prompt. -/
def Timely (moves : List Move) : Prop :=
  ∀ early move, early ++ [move] <+: moves → Prompt (after early) move

instance (n : Network) : (move : Move) → Decidable (Prompt n move)
  | .wait time =>
      inferInstanceAs (Decidable (n.errands = [] ∧ ∀ alarm ∈ n.clock.alarms, time ≤ alarm.1))
  | .alarm _ => inferInstanceAs (Decidable (n.errands = []))
  | .answer _ outcome => inferInstanceAs (Decidable (outcome ≠ .timedOut))
  | .add .. | .start .. | .send .. | .reset .. | .drop .. | .detach .. | .emit .. | .ask .. |
    .abandon .. | .set .. | .cancel .. | .fetch | .errand .. => inferInstanceAs (Decidable True)

instance (moves : List Move) : Decidable (Timely moves) := decidableForallPrefix moves

def postedFrom (n : Network) : List Move → List Nat
  | [] => []
  | move :: moves =>
      List.replicate ((n.make move).exchange.size - n.exchange.size) (n.make move).clock.now ++
        postedFrom (n.make move) moves

/-- The time at which each request was posted, by number. -/
def postedAt (moves : List Move) : List Nat := postedFrom {} moves

theorem postedAt_concat (moves : List Move) (move : Move) :
    postedAt (moves ++ [move]) =
      postedAt moves ++
        List.replicate (((after moves).make move).exchange.size - (after moves).exchange.size)
          ((after moves).make move).clock.now := by
  have from_ (n : Network) : postedFrom n (moves ++ [move]) =
      postedFrom n moves ++
        List.replicate (((n.afterFrom moves).make move).exchange.size -
          (n.afterFrom moves).exchange.size) ((n.afterFrom moves).make move).clock.now := by
    induction moves generalizing n with
    | nil => simp [postedFrom, afterFrom]
    | cons first moves ih =>
        simp only [List.cons_append, postedFrom, ih, List.append_assoc]
        rfl
  exact from_ {}

/-! ## What the clock holds -/

/-- A request of a job of a line, that was posted at the time `since`. -/
structure Sent (line : Nat) (posted : List Nat) (n : Network) (number : Nat) (job : Job)
    (since : Nat) (standing : Http.Standing) : Prop where
  here : ∃ request : Request, n.exchange.entries[number]? = some request ∧
    request.owner = .job line job ∧ request.standing = standing
  since : posted[number]? = some since

structure Clocked (line : Nat) (options : Options) (posted : List Nat) (n : Network) : Prop where
  length : posted.length = n.exchange.size
  past : ∀ since ∈ posted, since ≤ n.clock.now
  ahead : ∀ alarm ∈ n.clock.alarms, n.clock.now ≤ alarm.1
  known : ∀ due number, (due, .deadline number) ∈ n.clock.alarms → number < n.exchange.size
  due : ∀ due number job since standing, (due, .deadline number) ∈ n.clock.alarms →
    Sent line posted n number job since standing →
      options.limit job < Clock.never ∧ due = since + options.limit job
  /-- A request that waits has its alarm. -/
  armed : ∀ number job since, Sent line posted n number job since .waiting →
    options.limit job < Clock.never →
      (since + options.limit job, .deadline number) ∈ n.clock.alarms
  /-- An answer that was not taken came in time. -/
  inTime : ∀ number job since outcome, Sent line posted n number job since (.answered outcome) →
    outcome ≠ .timedOut ∧
      (options.limit job < Clock.never → n.clock.now ≤ since + options.limit job)

/-- `m` is `n` with fewer requests and alarms, and perhaps alarms of others. -/
structure Fades (n m : Network) : Prop where
  now : m.clock.now = n.clock.now
  alarms : ∀ alarm ∈ m.clock.alarms, alarm ∈ n.clock.alarms ∨
    m.clock.now ≤ alarm.1 ∧ ∀ number, alarm.2 ≠ .deadline number
  size : m.exchange.size = n.exchange.size
  requests : ∀ (number : Nat) (request : Request), m.exchange.entries[number]? = some request →
    ∃ old : Request, n.exchange.entries[number]? = some old ∧ old.owner = request.owner ∧
      (request.standing = old.standing ∨ request.standing = .closed)
  kept : ∀ due number, (due, .deadline number) ∈ n.clock.alarms →
    (∃ request : Request, m.exchange.entries[number]? = some request ∧
      request.standing = .waiting) → (due, .deadline number) ∈ m.clock.alarms

section Fades

variable {n m k : Network} {line : Nat} {options : Options} {posted : List Nat}

theorem Fades.trans (first : Fades n m) (second : Fades m k) : Fades n k where
  now := second.now.trans first.now
  alarms alarm there := by
    rcases second.alarms alarm there with before | later
    · rcases first.alarms alarm before with old | new
      · exact .inl old
      · exact .inr ⟨second.now ▸ new.1, new.2⟩
    · exact .inr later
  size := second.size.trans first.size
  requests number request there := by
    obtain ⟨middle, found, owner, standing⟩ := second.requests number request there
    obtain ⟨old, here, same, stood⟩ := first.requests number middle found
    refine ⟨old, here, same.trans owner, ?_⟩
    rcases standing with unchanged | closed
    · rw [unchanged]
      exact stood
    · exact .inr closed
  kept due number there waits := by
    obtain ⟨request, found, waiting⟩ := waits
    obtain ⟨middle, here, -, standing⟩ := second.requests number request found
    refine second.kept due number (first.kept due number there ⟨middle, here, ?_⟩)
      ⟨request, found, waiting⟩
    rcases standing with unchanged | closed
    · rw [← unchanged, waiting]
    · rw [waiting] at closed
      cases closed

theorem fades_of_same (clock : m.clock = n.clock) (exchange : m.exchange = n.exchange) :
    Fades n m where
  now := by rw [clock]
  alarms alarm there := .inl (clock ▸ there)
  size := by rw [exchange]
  requests number request there := ⟨request, exchange ▸ there, rfl, .inl rfl⟩
  kept due number there _ := clock.symm ▸ there

/-- A request that was sent was sent before. -/
theorem Fades.sent (fades : Fades n m) {number since : Nat} {job : Job} {standing : Http.Standing}
    (sent : Sent line posted m number job since standing) :
    ∃ stood, Sent line posted n number job since stood ∧ (standing = stood ∨ standing = .closed) := by
  obtain ⟨⟨request, found, owner, rfl⟩, time⟩ := sent
  obtain ⟨old, here, same, stood⟩ := fades.requests number request found
  exact ⟨old.standing, ⟨⟨old, here, same.trans owner, rfl⟩, time⟩, stood⟩

theorem Clocked.fades (clocked : Clocked line options posted n) (fades : Fades n m) :
    Clocked line options posted m where
  length := clocked.length.trans fades.size.symm
  past since there := fades.now.symm ▸ clocked.past since there
  ahead alarm there := by
    rcases fades.alarms alarm there with old | new
    · exact fades.now.symm ▸ clocked.ahead alarm old
    · exact new.1
  known due number there := by
    rcases fades.alarms _ there with old | new
    · exact fades.size.symm ▸ clocked.known due number old
    · exact absurd rfl (new.2 number)
  due due number job since standing there sent := by
    obtain ⟨stood, before, -⟩ := fades.sent sent
    rcases fades.alarms _ there with old | new
    · exact clocked.due due number job since stood old before
    · exact absurd rfl (new.2 number)
  armed number job since sent finite := by
    obtain ⟨stood, before, same⟩ := fades.sent sent
    have waits : stood = .waiting := by
      rcases same with same | closed
      · exact same.symm
      · cases closed
    subst waits
    obtain ⟨request, found, -, waiting⟩ := sent.here
    exact fades.kept _ number (clocked.armed number job since before finite) ⟨request, found, waiting⟩
  inTime number job since outcome sent := by
    obtain ⟨stood, before, same⟩ := fades.sent sent
    have answered : stood = .answered outcome := by
      rcases same with same | closed
      · exact same.symm
      · cases closed
    subst answered
    rw [fades.now]
    exact clocked.inTime number job since outcome before

theorem fades_cancel (p : Alarm → Bool) (others : ∀ number, p (.deadline number) = false) :
    Fades n { n with clock := n.clock.cancel p } where
  now := rfl
  alarms alarm there := .inl (List.mem_filter.1 there).1
  size := rfl
  requests number request there := ⟨request, there, rfl, .inl rfl⟩
  kept due number there _ := List.mem_filter.2 ⟨there, by simp [others]⟩

theorem fades_set (delay : Nat) (tag : Alarm) (other : ∀ number, tag ≠ .deadline number) :
    Fades n { n with clock := n.clock.set delay tag } where
  now := Clock.set_now ..
  alarms alarm there := by
    rcases (Clock.mem_set _).1 there with old | ⟨-, rfl⟩
    · exact .inl old
    · refine .inr ⟨?_, other⟩
      rw [Clock.set_now]
      exact Nat.le_add_right ..
  size := rfl
  requests number request there := ⟨request, there, rfl, .inl rfl⟩
  kept due number there _ := (Clock.mem_set _).2 (.inl there)

theorem fades_givenUp (p : Owner → Bool) : Fades n (n.givenUp p) where
  now := rfl
  alarms alarm there := .inl there
  size := List.length_map _
  requests number request there := by
    simp only [givenUp, Http.Exchange.giveUp, List.getElem?_map, Option.map_eq_some_iff] at there
    obtain ⟨old, here, rfl⟩ := there
    refine ⟨old, here, ?_, ?_⟩
    · split <;> rfl
    · split
      · exact .inr rfl
      · exact .inl rfl
  kept due number there _ := there

theorem fades_closing (number : Nat) : Fades n (n.closing number) where
  now := rfl
  alarms alarm there := .inl (List.mem_filter.1 there).1
  size := List.length_modify ..
  requests other request there := by
    simp only [closing, Http.Exchange.settle, List.getElem?_modify, Option.map_eq_map,
      Option.map_eq_some_iff] at there
    obtain ⟨old, here, rfl⟩ := there
    refine ⟨old, here, ?_, ?_⟩
    · split <;> rfl
    · split
      · exact .inr rfl
      · exact .inl rfl
  kept due other there waits := by
    obtain ⟨request, found, waiting⟩ := waits
    refine List.mem_filter.2 ⟨there, ?_⟩
    by_cases same : number = other
    · subst same
      simp only [closing, Http.Exchange.settle, List.getElem?_modify, Option.map_eq_map, if_true,
        Option.map_eq_some_iff] at found
      obtain ⟨old, -, rfl⟩ := found
      cases waiting
    · simpa using Ne.symm same

theorem fades_emit (line : Nat) (event : TransportEvent) : Fades n (n.emit line event).2 := by
  unfold emit
  split <;> exact fades_of_same rfl rfl

theorem fades_persistentAct (line : Nat) (act : WebSocket.Act) :
    Fades n (persistentAct line n act) := by
  cases act with
  | connect url limit => exact fades_set limit (.connect line) (by simp)
  | write frame => exact fades_of_same rfl rfl
  | close | abandon => exact fades_cancel _ (by simp)
  | emit event => exact fades_emit line event
  | detach => exact fades_of_same rfl rfl

theorem fades_advancePersistent (n : Network) (line : Nat) (step : WebSocket × List WebSocket.Act) :
    Fades n (n.advancePersistent line step) := by
  have acts (acts : List WebSocket.Act) (m : Network) :
      Fades m (acts.foldl (persistentAct line) m) := by
    induction acts generalizing m with
    | nil => exact fades_of_same rfl rfl
    | cons act acts ih => exact (fades_persistentAct line act).trans (ih _)
  have carried : Fades n (n.setCarrier line (some (.persistent step.1))) := fades_of_same rfl rfl
  exact carried.trans (acts step.2 _)

end Fades

/-! ## Requests that are posted now -/

/-- Some requests were posted just now, beside those before. -/
def Onward (line : Nat) (options : Options) (posted : List Nat) (n : Network) : Prop :=
  ∃ more, Clocked line options (posted ++ List.replicate more n.clock.now) n

section Onward

variable {n m : Network} {line other : Nat} {options : Options} {posted : List Nat} {call : Call}

theorem Clocked.onward (clocked : Clocked line options posted n) : Onward line options posted n :=
  ⟨0, by simpa using clocked⟩

theorem Onward.fades (onward : Onward line options posted n) (fades : Fades n m) :
    Onward line options posted m := by
  obtain ⟨more, clocked⟩ := onward
  exact ⟨more, fades.now ▸ clocked.fades fades⟩

/-- After a post, a request was sent before or is the one that was posted. -/
theorem Sent.of_post {request : Http.Request} {owner : Owner} {limit number since : Nat} {job : Job}
    {standing : Http.Standing} (length : posted.length = n.exchange.size)
    (sent : Sent line (posted ++ [n.clock.now]) (n.post request owner limit) number job since
      standing) :
    (number < n.exchange.size ∧ Sent line posted n number job since standing) ∨
      (number = n.exchange.size ∧ owner = .job line job ∧ since = n.clock.now ∧
        standing = .waiting) := by
  obtain ⟨⟨found, here, mine, rfl⟩, time⟩ := sent
  simp only [Network.post, Http.Exchange.post] at here
  rcases Nat.lt_or_ge number n.exchange.size with old | late
  · rw [List.getElem?_append_left old] at here
    rw [List.getElem?_append_left (length ▸ old)] at time
    exact .inl ⟨old, ⟨found, here, mine, rfl⟩, time⟩
  · have last : number = n.exchange.size := by
      have inside := (List.getElem?_eq_some_iff.1 here).1
      simp only [List.length_append, List.length_singleton] at inside
      exact Nat.le_antisymm (Nat.le_of_lt_succ inside) late
    subst last
    rw [← length, List.getElem?_concat_length] at time
    rw [Http.Exchange.size, List.getElem?_concat_length] at here
    cases here
    cases time
    exact .inr ⟨rfl, mine, rfl, rfl⟩

/-- A request that is posted has its alarm, at the end of the time of its job. -/
theorem Clocked.post (clocked : Clocked line options posted n) (request : Http.Request)
    {owner : Owner} {limit : Nat} (mine : ∀ job, owner = .job line job → limit = options.limit job) :
    Clocked line options (posted ++ [n.clock.now]) (n.post request owner limit) := by
  have now : (n.post request owner limit).clock.now = n.clock.now := Clock.set_now ..
  have size : (n.post request owner limit).exchange.size = n.exchange.size + 1 := by
    simp [Network.post, Http.Exchange.post, Http.Exchange.size]
  have alarms (alarm : Nat × Alarm) : alarm ∈ (n.post request owner limit).clock.alarms ↔
      alarm ∈ n.clock.alarms ∨ limit < Clock.never ∧
        alarm = (n.clock.now + limit, .deadline n.exchange.size) := Clock.mem_set _
  constructor
  · simp [size, clocked.length]
  · intro since there
    rw [now]
    rcases List.mem_append.1 there with old | new
    · exact clocked.past since old
    · exact Nat.le_of_eq (List.mem_singleton.1 new)
  · intro alarm there
    rw [now]
    rcases (alarms alarm).1 there with old | ⟨-, rfl⟩
    · exact clocked.ahead alarm old
    · exact Nat.le_add_right ..
  · intro due number there
    rw [size]
    rcases (alarms _).1 there with old | ⟨-, same⟩
    · exact Nat.lt_succ_of_lt (clocked.known due number old)
    · cases same
      exact Nat.lt_succ_self _
  · intro due number job since standing there sent
    rcases sent.of_post clocked.length with ⟨before, old⟩ | ⟨rfl, owned, rfl, -⟩
    · rcases (alarms _).1 there with alarm | ⟨-, same⟩
      · exact clocked.due due number job since standing alarm old
      · cases same
        exact absurd before (Nat.lt_irrefl _)
    · rcases (alarms _).1 there with alarm | ⟨finite, same⟩
      · exact absurd (clocked.known due _ alarm) (Nat.lt_irrefl _)
      · cases same
        rw [← mine job owned]
        exact ⟨finite, rfl⟩
  · intro number job since sent finite
    rcases sent.of_post clocked.length with ⟨-, old⟩ | ⟨rfl, owned, rfl, -⟩
    · exact (alarms _).2 (.inl (clocked.armed number job since old finite))
    · rw [← mine job owned] at finite ⊢
      exact (alarms _).2 (.inr ⟨finite, rfl⟩)
  · intro number job since outcome sent
    rw [now]
    rcases sent.of_post clocked.length with ⟨-, old⟩ | ⟨-, -, -, waits⟩
    · exact clocked.inTime number job since outcome old
    · cases waits

theorem Onward.post (onward : Onward line options posted n) (request : Http.Request)
    {owner : Owner} {limit : Nat} (mine : ∀ job, owner = .job line job → limit = options.limit job) :
    Onward line options posted (n.post request owner limit) := by
  obtain ⟨more, clocked⟩ := onward
  have now : (n.post request owner limit).clock.now = n.clock.now := Clock.set_now ..
  refine ⟨more + 1, ?_⟩
  rw [now, List.replicate_succ', ← List.append_assoc]
  exact clocked.post request mine

/-- The transport of a line gives its requests the time of their job. -/
theorem Onward.acts (onward : Onward line options posted n) (acts : List LongPoll.Act)
    (mine : other = line → ∀ job request limit, .post job request limit ∈ acts →
      limit = options.limit job) :
    Onward line options posted (acts.foldl (pollingAct other) n) := by
  induction acts generalizing n with
  | nil => exact onward
  | cons act acts ih =>
      rw [List.foldl_cons]
      refine ih ?_ fun same job request limit there =>
        mine same job request limit (List.mem_cons_of_mem _ there)
      cases act with
      | post job request limit =>
          refine onward.post request fun job' same => ?_
          cases same
          exact mine rfl job request limit List.mem_cons_self
      | emit event => exact onward.fades (fades_emit other event)
      | wake | detach | release => exact onward.fades (fades_of_same rfl rfl)

theorem Onward.serves (onward : Onward line options posted n) (serves : n.Serves other call m)
    (steady : ∀ t, n.poller? line = some t → t.options = options) :
    Onward line options posted m := by
  cases serves with
  | absent => exact onward
  | persistent _ step => exact onward.fades (fades_advancePersistent n other step)
  | @polling t carrier =>
      unfold advancePolling
      have carried : Fades n (n.setCarrier other (some (.polling (t.heed call).1))) :=
        fades_of_same rfl rfl
      refine (onward.fades carried).acts _ fun same job request limit there => ?_
      subst same
      rw [(LongPoll.post_terms there).2, steady _ (poller?_eq_some.2 carrier)]

theorem Onward.finish (onward : Onward line options posted n) (number : Nat) (owner : Owner)
    (outcome : Http.Outcome) (steady : ∀ t, n.poller? line = some t → t.options = options) :
    Onward line options posted (n.finish number owner outcome) := by
  rw [finish_eq]
  have closed := onward.fades (fades_closing number)
  cases owner with
  | reconnect attempt manual => exact closed.fades (fades_of_same rfl rfl)
  | job other job => exact closed.serves (serves_deliver _ _ job outcome) steady

end Onward

/-! ## Moves -/

section Moves

variable {n m : Network} {line : Nat} {options : Options} {posted : List Nat}

/-- The network at another time, with some of its alarms. -/
def withClock (n : Network) (clock : Clock Alarm) : Network := { n with clock }

/-- Time may pass up to the next alarm where no answer waits to be taken. -/
theorem Clocked.advance (clocked : Clocked line options posted n) (clock : Clock Alarm)
    (later : n.clock.now ≤ clock.now) (fewer : ∀ alarm ∈ clock.alarms, alarm ∈ n.clock.alarms)
    (ahead : ∀ alarm ∈ clock.alarms, clock.now ≤ alarm.1)
    (kept : ∀ due number, (due, .deadline number) ∈ n.clock.alarms →
      (∃ request : Request, n.exchange.entries[number]? = some request ∧
        request.standing = .waiting) → (due, .deadline number) ∈ clock.alarms)
    (taken : ∀ number, ¬n.Answered number) : Clocked line options posted (n.withClock clock) where
  length := clocked.length
  past since there := Nat.le_trans (clocked.past since there) later
  ahead := ahead
  known due number there := clocked.known due number (fewer _ there)
  due due number job since standing there sent :=
    clocked.due due number job since standing (fewer _ there) ⟨sent.here, sent.since⟩
  armed number job since sent finite := by
    obtain ⟨request, here, -, waits⟩ := sent.here
    exact kept _ number (clocked.armed number job since ⟨sent.here, sent.since⟩ finite)
      ⟨request, here, waits⟩
  inTime number job since outcome sent := by
    obtain ⟨request, here, -, answered⟩ := sent.here
    exact absurd ⟨request, outcome, here, answered⟩ (taken number)

/-- When an alarm fires, time passes up to it, and the other alarms are still ahead. -/
theorem Clocked.fired (clocked : Clocked line options posted n) {limit : Nat} {alarm : Alarm}
    {clock : Clock Alarm} (fires : n.clock.next? limit = some (alarm, clock)) :
    n.clock.now ≤ clock.now ∧
      (∀ other ∈ clock.alarms, other ∈ n.clock.alarms ∧ clock.now ≤ other.1) ∧
      ∀ other ∈ n.clock.alarms, other.2 = alarm ∨ other ∈ clock.alarms := by
  obtain ⟨due, -, now, least, members⟩ := Clock.next?_some fires
  rw [now]
  refine ⟨Nat.le_max_left .., fun other there => ?_, fun other there => ?_⟩
  · have before := (members other).2 (.inr there)
    exact ⟨before, Nat.max_le.2 ⟨clocked.ahead other before, least other before⟩⟩
  · exact ((members other).1 there).imp_left fun same => congrArg Prod.snd same

/-- The alarm of a request that waits rings when it is due. -/
theorem Clocked.expire (clocked : Clocked line options posted n) {limit number : Nat}
    {clock : Clock Alarm} (fires : n.clock.next? limit = some (.deadline number, clock))
    (taken : ∀ number, ¬n.Answered number)
    (steady : ∀ t, n.poller? line = some t → t.options = options) (owner : Owner) :
    Onward line options posted ((n.withClock clock).finish number owner .timedOut) := by
  obtain ⟨later, others, kept⟩ := clocked.fired fires
  -- The request is closed before the clock moves, so that no alarm of it is missing.
  have closed := clocked.fades (fades_closing number)
  have moved : Clocked line options posted
      ((n.closing number).withClock (clock.cancel (· == .deadline number))) := by
    refine closed.advance _ later ?_ ?_ ?_ ?_
    · intro other there
      obtain ⟨listed, passes⟩ := List.mem_filter.1 there
      exact List.mem_filter.2 ⟨(others other listed).1, passes⟩
    · exact fun other there => (others other (List.mem_filter.1 there).1).2
    · intro time other there _
      obtain ⟨listed, passes⟩ := List.mem_filter.1 there
      refine List.mem_filter.2 ⟨(kept _ listed).resolve_left ?_, passes⟩
      rintro ⟨⟩
      simp at passes
    · exact fun other there => taken other ((keeps_closing number).answered other there)
  have ends : (n.withClock clock).finish number owner .timedOut =
      ((n.closing number).withClock (clock.cancel (· == .deadline number))).deliver owner .timedOut :=
    rfl
  rw [ends]
  cases owner with
  | reconnect attempt manual => exact moved.onward.fades (fades_of_same rfl rfl)
  | job other job => exact moved.onward.serves (serves_deliver _ _ job .timedOut) steady

/-- The next alarm rings when it is due. -/
theorem Clocked.ring (clocked : Clocked line options posted n) {limit : Nat} {alarm : Alarm}
    {clock : Clock Alarm} (fires : n.clock.next? limit = some (alarm, clock))
    (taken : ∀ number, ¬n.Answered number)
    (steady : ∀ t, n.poller? line = some t → t.options = options) :
    Onward line options posted ((n.withClock clock).ring alarm) := by
  obtain ⟨later, others, kept⟩ := clocked.fired fires
  have moved (idle : ∀ number, alarm = .deadline number → ∀ request : Request,
      n.exchange.entries[number]? = some request → request.standing ≠ .waiting) :
      Onward line options posted (n.withClock clock) := by
    refine (clocked.advance clock later (fun other there => (others other there).1)
      (fun other there => (others other there).2) ?_ taken).onward
    rintro time number there ⟨request, here, waiting⟩
    exact (kept _ there).resolve_left fun same => idle number same.symm request here waiting
  cases alarm with
  | session timer ticket => exact (moved (by simp)).fades (fades_of_same rfl rfl)
  | connect other =>
      simp only [Network.ring]
      split
      · exact (moved (by simp)).fades (fades_advancePersistent _ other _)
      · exact moved (by simp)
  | deadline number =>
      by_cases waits : ∃ request : Request,
          n.exchange.entries[number]? = some request ∧ request.standing = .waiting
      · obtain ⟨⟨request, owner, standing⟩, here, waiting⟩ := waits
        cases waiting
        simp only [Network.ring, withClock, here]
        exact clocked.expire fires taken steady owner
      · have idle : ∀ request : Request, n.exchange.entries[number]? = some request →
            request.standing ≠ .waiting := fun request here waiting => waits ⟨request, here, waiting⟩
        rcases ring_deadline (n.withClock clock) number with
          ⟨request, here, waiting, -⟩ | ⟨stays, -⟩
        · exact absurd waiting (idle request here)
        · rw [stays]
          refine moved fun other same => ?_
          cases same
          exact idle

/-- An answer comes in before the alarm of its request rings. -/
theorem Clocked.answer (clocked : Clocked line options posted n) (address : Http.Exchange.Address)
    {outcome : Http.Outcome} (real : outcome ≠ .timedOut) :
    Clocked line options posted (n.answer address outcome).2 := by
  unfold Network.answer
  cases found : n.exchange.find? address with
  | none => exact clocked
  | some number =>
      obtain ⟨request, here, waits⟩ := waiting_of_find? found
      have sent {other since : Nat} {job : Job} {standing : Http.Standing}
          (sent : Sent line posted (n.settled number (.answered outcome)) other job since standing) :
          Sent line posted n other job since standing ∨
            standing = .answered outcome ∧ Sent line posted n other job since .waiting := by
        obtain ⟨⟨after, there, owner, rfl⟩, time⟩ := sent
        simp only [settled, Http.Exchange.settle, List.getElem?_modify] at there
        by_cases same : number = other
        · subst same
          simp only [here, if_true, Option.map_eq_map, Option.map_some, Option.some.injEq] at there
          subst there
          exact .inr ⟨rfl, ⟨request, here, owner, waits⟩, time⟩
        · simp only [same, if_false, Option.map_eq_map, Option.map_id'] at there
          exact .inl ⟨⟨after, there, owner, rfl⟩, time⟩
      have settled : Clocked line options posted (n.settled number (.answered outcome)) := by
        constructor
        · exact clocked.length.trans (List.length_modify ..).symm
        · exact clocked.past
        · exact clocked.ahead
        · intro due other there
          exact Nat.lt_of_lt_of_eq (clocked.known due other there) (List.length_modify ..).symm
        · intro due other job since standing there after
          rcases sent after with before | ⟨-, before⟩
          · exact clocked.due due other job since standing there before
          · exact clocked.due due other job since .waiting there before
        · intro other job since after finite
          rcases sent after with before | ⟨waiting, -⟩
          · exact clocked.armed other job since before finite
          · cases waiting
        · intro other job since given after
          rcases sent after with before | ⟨same, before⟩
          · exact clocked.inTime other job since given before
          · cases same
            refine ⟨real, fun finite => ?_⟩
            exact clocked.ahead _ (clocked.armed other job since before finite)
      exact settled.fades (fades_of_same rfl rfl)

theorem taken_of_calm (pledged : Pledged n) (calm : n.errands = []) (number : Nat) :
    ¬n.Answered number := by
  intro answered
  have listed := pledged number answered
  rw [calm] at listed
  cases listed

/-- **A prompt move keeps the clock in order.** -/
theorem Clocked.make (clocked : Clocked line options posted n) (pledged : Pledged n)
    (steady : ∀ t, n.poller? line = some t → t.options = options) {move : Move}
    (prompt : Prompt n move) : Onward line options posted (n.make move) := by
  cases move with
  | add | detach | fetch => exact clocked.onward.fades (fades_of_same rfl rfl)
  | start other => exact clocked.onward.serves (serves_start ..) steady
  | send other frame => exact clocked.onward.serves (serves_send _ _ frame) steady
  | reset other => exact clocked.onward.serves (serves_reset ..) steady
  | drop other =>
      have resets : Onward line options posted (n.reset other) :=
        clocked.onward.serves (serves_reset ..) steady
      exact resets.fades (fades_of_same rfl rfl)
  | emit other event => exact clocked.onward.fades (fades_emit other event)
  | answer address outcome => exact (clocked.answer address prompt).onward
  | ask request attempt manual limit => exact clocked.onward.post request (by simp)
  | abandon attempt => exact clocked.onward.fades (fades_givenUp _)
  | set delay timer ticket => exact clocked.onward.fades (fades_set _ _ (by simp))
  | cancel timer ticket => exact clocked.onward.fades (fades_cancel _ (by simp))
  | wait time =>
      obtain ⟨calm, before⟩ := prompt
      refine (clocked.advance (n.clock.moveTo time) (Nat.le_max_left ..)
        (fun _ there => there) (fun alarm there => ?_) (fun _ _ there _ => there)
        (taken_of_calm pledged calm)).onward
      exact Nat.max_le.2 ⟨clocked.ahead alarm there, before alarm there⟩
  | errand index =>
      simp only [Network.make]
      split
      · rename_i errand here
        generalize n.errands.eraseIdx index = rest
        have aside : Onward line options posted (n.withErrands rest) :=
          clocked.onward.fades (fades_of_same rfl rfl)
        cases errand with
        | wake other job => exact aside.serves (serves_wake _ _ job) steady
        | release other => exact aside.fades (fades_givenUp _)
        | answered number =>
            simp only [runErrand]
            split
            · exact aside.finish number _ _ steady
            · exact aside
      · exact clocked.onward
  | alarm limit =>
      simp only [Network.make]
      split
      · rename_i alarm clock fires
        exact clocked.ring fires (taken_of_calm pledged prompt) steady
      · exact clocked.onward

end Moves

/-! ## Runs -/

theorem clocked_empty {n : Network} (line : Nat) (options : Options)
    (requests : n.exchange.entries = []) (alarms : n.clock.alarms = []) :
    Clocked line options [] n where
  length := by simp [Http.Exchange.size, requests]
  past := by simp
  ahead := by simp [alarms]
  known := by simp [alarms]
  due := by simp [alarms]
  armed number job since sent := by
    obtain ⟨request, here, -⟩ := sent.here
    simp [requests] at here
  inTime number job since outcome sent := by
    obtain ⟨request, here, -⟩ := sent.here
    simp [requests] at here

/-- What the clock holds of the requests of a transport. -/
theorem clocked_solo (options : Options) (moves : List Move)
    (timely : Timely (solo options moves)) :
    Clocked 0 options (postedAt (solo options moves)) (after (solo options moves)) := by
  induction moves using List.reverseRecOn with
  | nil => exact clocked_empty 0 options rfl rfl
  | append_singleton moves move ih =>
      rw [solo_concat] at timely ⊢
      have before : Timely (solo options moves) := fun early other here =>
        timely early other (here.trans (List.prefix_append ..))
      have prompt : Prompt (after (solo options moves)) move :=
        timely _ move (List.prefix_refl _)
      obtain ⟨t, built⟩ := conduct_solo options moves
      have steady (other : LongPoll)
          (here : (after (solo options moves)).poller? 0 = some other) : other.options = options := by
        have poller : ((after (solo options moves)).view 0).poller = some other := here
        rcases built.stays with same | ⟨absent, -⟩
        · rw [poller] at same
          cases same
          exact built.conduct.steady
        · rw [poller] at absent
          cases absent
      obtain ⟨more, clocked⟩ := (ih before).make (answered_errand _) steady prompt
      have length := (ih before).length
      have size := clocked.length
      rw [List.length_append, List.length_replicate, length] at size
      rw [postedAt_concat, after_concat, ← size, Nat.add_sub_cancel_left]
      exact clocked

/-- The answer that a move tells a line of is that to a request of the job: it comes within the
time of the job, and where it is that the time has passed, at the end of it. -/
structure InTime (line : Nat) (options : Options) (early : List Move) (move : Move) (job : Job)
    (outcome : Http.Outcome) (number since : Nat) : Prop where
  sent : ∃ standing, Sent line (postedAt early) (after early) number job since standing
  started : since ≤ ((after early).make move).clock.now
  bounded : options.limit job < Clock.never →
    ((after early).make move).clock.now ≤ since + options.limit job
  expired : outcome = .timedOut → options.limit job < Clock.never ∧
    ((after early).make move).clock.now = since + options.limit job

/-- Every answer that a line is told of comes in time, and no request waits beyond its time. -/
structure Punctual (line : Nat) (options : Options) (moves : List Move) : Prop where
  answers : ∀ early move beat job outcome, early ++ [move] <+: moves →
    (after early).beat? line move = some beat → beat.call = .answer job outcome →
      ∃ number since, InTime line options early move job outcome number since
  waits : ∀ number job since, Sent line (postedAt moves) (after moves) number job since .waiting →
    options.limit job < Clock.never → (after moves).clock.now ≤ since + options.limit job

section Now

variable {n m : Network} {line : Nat} {call : Call}

/-- No time passes while a call is served. -/
theorem Serves.now (serves : n.Serves line call m) : m.clock.now = n.clock.now := by
  cases serves with
  | absent => rfl
  | persistent _ step => exact (fades_advancePersistent n line step).now
  | @polling t carrier =>
      have acts (acts : List LongPoll.Act) (k : Network) :
          (acts.foldl (pollingAct line) k).clock.now = k.clock.now := by
        induction acts generalizing k with
        | nil => rfl
        | cons act acts ih =>
            rw [List.foldl_cons, ih]
            cases act with
            | post => exact Clock.set_now ..
            | emit event => exact (fades_emit line event).now
            | wake | detach | release => rfl
      exact acts _ _

theorem now_finish (n : Network) (number : Nat) (owner : Owner) (outcome : Http.Outcome) :
    (n.finish number owner outcome).clock.now = n.clock.now := by
  rw [finish_eq]
  cases owner with
  | reconnect => rfl
  | job line job =>
      have serves : (n.closing number).Serves line (.answer job outcome) _ :=
        serves_deliver _ _ job outcome
      exact serves.now

/-- A line is told of an answer by the errand that has it taken, or by the alarm. -/
theorem told_answer {move : Move} {job : Job} {outcome : Http.Outcome}
    (told : n.told move = some (line, .answer job outcome)) :
    ∃ number request, n.exchange.entries[number]? = some request ∧ request.owner = .job line job ∧
      ((∃ index, move = .errand index ∧ n.errands[index]? = some (.answered number) ∧
          request.standing = .answered outcome) ∨
        (∃ limit clock, move = .alarm limit ∧
          n.clock.next? limit = some (.deadline number, clock) ∧
          request.standing = .waiting ∧ outcome = .timedOut)) := by
  cases move with
  | add | detach | emit | answer | ask | abandon | set | cancel | fetch | wait => cases told
  | start | send | reset | drop => cases told
  | errand index =>
      obtain ⟨errand, listed, tells⟩ := Option.bind_eq_some_iff.1 told
      cases errand with
      | wake => cases tells
      | release => cases tells
      | answered number =>
          simp only [toldByErrand] at tells
          split at tells
          · rename_i request other job' given here
            cases tells
            exact ⟨number, _, here, rfl, .inl ⟨index, rfl, listed, rfl⟩⟩
          · cases tells
  | alarm limit =>
      obtain ⟨⟨alarm, clock⟩, fires, tells⟩ := Option.bind_eq_some_iff.1 told
      cases alarm with
      | connect => cases tells
      | session => cases tells
      | deadline number =>
          simp only [toldByAlarm] at tells
          split at tells
          · rename_i request other job' here
            cases tells
            exact ⟨number, _, here, rfl, .inr ⟨limit, clock, rfl, fires, rfl, rfl⟩⟩
          · cases tells

end Now

/-- A run of one transport begins with its transport. -/
theorem solo_of_prefix {options : Options} {moves early : List Move} {move : Move}
    (here : early ++ [move] <+: solo options moves) :
    (early = [] ∧ move = .add { webSocket := none, longPoll := options } .polling) ∨
      ∃ first, early = solo options first := by
  cases early with
  | nil =>
      obtain ⟨rest, same⟩ := here
      cases same
      exact .inl ⟨rfl, rfl⟩
  | cons head early =>
      obtain ⟨rest, same⟩ := here
      cases same
      exact .inr ⟨early, rfl⟩

/-- **Every answer comes in time.** -/
theorem punctual_solo (options : Options) (moves : List Move)
    (timely : Timely (solo options moves)) : Punctual 0 options (solo options moves) where
  waits number job since sent finite := by
    have clocked := clocked_solo options moves timely
    exact clocked.ahead _ (clocked.armed number job since sent finite)
  answers early move beat job outcome here hears called := by
    have before : Timely early := fun first other inside =>
      timely first other (inside.trans ((List.prefix_append ..).trans here))
    rcases solo_of_prefix here with ⟨rfl, rfl⟩ | ⟨first, rfl⟩
    · cases hears
    · have clocked := clocked_solo options first before
      have told := (told_of_beat hears).1
      rw [called] at told
      obtain ⟨number, request, entry, owner, ways⟩ := told_answer told
      have inside : number < (postedAt (solo options first)).length := by
        rw [clocked.length]
        exact (List.getElem?_eq_some_iff.1 entry).1
      obtain ⟨since, time⟩ : ∃ since, (postedAt (solo options first))[number]? = some since :=
        ⟨_, List.getElem?_eq_getElem inside⟩
      have started := clocked.past since (List.mem_of_getElem? time)
      have sent : Sent 0 (postedAt (solo options first)) (after (solo options first)) number job
          since request.standing := ⟨⟨request, entry, owner, rfl⟩, time⟩
      -- The outcome is the server's, which is timely, or the deadline itself has fired.
      rcases ways with ⟨index, rfl, listed, answered⟩ | ⟨limit, clock, rfl, fires, waits, rfl⟩
      · have now : ((after (solo options first)).make (.errand index)).clock.now =
            (after (solo options first)).clock.now := by
          simp only [make, listed, runErrand]
          split
          · exact now_finish _ number _ _
          · rfl
        obtain ⟨real, bound⟩ := clocked.inTime number job since outcome (answered ▸ sent)
        exact ⟨number, since, ⟨_, sent⟩, now ▸ started, now ▸ bound, fun late => absurd late real⟩
      · obtain ⟨due, -, shows, -, members⟩ := Clock.next?_some fires
        have alarm : (due, .deadline number) ∈ (after (solo options first)).clock.alarms :=
          (members _).2 (.inl rfl)
        have ahead := clocked.ahead _ alarm
        obtain ⟨finite, same⟩ := clocked.due due number job since _ alarm sent
        have now : ((after (solo options first)).make (.alarm limit)).clock.now =
            since + options.limit job := by
          obtain ⟨body, owned, standing⟩ := request
          cases waits
          simp only [make, fires, ring, entry]
          rw [now_finish]
          change clock.now = _
          omega
        refine ⟨number, since, ⟨_, sent⟩, ?_, fun _ => Nat.le_of_eq now, fun _ => ⟨finite, now⟩⟩
        rw [now]
        exact Nat.le_add_right ..

end Tether.Network
