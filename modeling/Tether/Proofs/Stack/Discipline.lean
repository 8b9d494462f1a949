/-
# Tether.Proofs.Stack.Discipline -- what a client has in flight

A client is calm when nothing is left to run but what waits for an alarm, for the server or for the
application.  What it then has in flight follows from its phase.

    idle, failed    nothing
    connecting      the requests of the transport that opens, if it is a polling one
    handshaking     one poll, if the transport is a polling one, and perhaps one frame
    ready           the same
    reconnecting    one request for credentials, or nothing

All transports that were ever opened are counted.  None but the one in use has anything in flight,
since the others have ended, and where credentials are asked for none is in use.

* `Disciplined` -- what there is at a calm point.
* `Closing.happen` -- from the call to close on, the session is about to stop, or has stopped.
* `request_discipline` -- every run is disciplined, whatever happens and in whatever order.
-/
import Tether.Proofs.Stack.Custody
import Tether.Proofs.Stack.Petitions

set_option autoImplicit false

namespace Tether

namespace Network

/-! ## Who waits for what -/

def Owner.polls : Owner → Bool
  | .job _ .polling => true
  | _ => false

def Owner.posts : Owner → Bool
  | .job _ .opening | .job _ .sending => true
  | _ => false

def Owner.asks : Owner → Bool
  | .reconnect _ _ => true
  | .job _ _ => false

def Owner.url (wiring : Wiring) : Owner → String
  | .job _ work => wiring.factory.longPoll.url work
  | .reconnect _ _ => wiring.reconnectUrl

end Network

/-- A session that closes stops. -/
theorem Session.Upshot.closed {setup : Setup} {v w : Session.Footing} {given : List Effect}
    (upshot : Session.Upshot setup v (some .close) w given) : w.running = false := by
  cases upshot
  rfl

namespace Stack

open Network (Owner Request)

/-- The owners of the requests in flight, oldest request first. -/
def inFlight (s : Stack) : List Owner :=
  (s.network.exchange.entries.filter fun request => request.standing.isWaiting).map (·.owner)

/-- Nothing is left to run but what waits for an alarm, the server or the application. -/
structure Calm (s : Stack) : Prop where
  inbox : s.inbox = []
  errands : s.network.errands = []
  arrivals : s.network.arrivals = []

structure Disciplined (s : Stack) : Prop where
  polls : s.inFlight.countP Owner.polls ≤ 1
  posts : s.inFlight.countP Owner.posts ≤ 1
  asks : s.inFlight.countP Owner.asks ≤ 1
  /-- While credentials are asked for, nothing else is in flight. -/
  alone : 0 < s.inFlight.countP Owner.asks →
    s.session.phase = .reconnecting ∧ s.inFlight.countP Owner.polls = 0 ∧
      s.inFlight.countP Owner.posts = 0
  /-- The session that took up a transport uses it, and on a polling one a poll is held open.  One
  that was stopped on the spot uses nothing any more, whatever its phase was. -/
  held : s.session.running = true →
    s.session.phase = .handshaking ∨ s.session.phase = .ready →
    ∃ link, s.session.active = some link ∧
      ((s.wiring.factory.create link.kind).kind = .polling → s.inFlight.countP Owner.polls = 1)
  quiet : s.session.phase = .failed ∨ s.session.phase = .idle → s.inFlight = []
  address : ∀ request ∈ s.network.exchange.entries,
    request.request.url = request.owner.url s.wiring

/-! ## What is in flight -/

theorem countP_or_le {α : Type} (p q : α → Bool) (l : List α) :
    (l.countP fun a => p a || q a) ≤ l.countP p + l.countP q := by
  induction l with
  | nil => exact Nat.le_refl 0
  | cons a l ih =>
      simp only [List.countP_cons]
      cases p a <;> cases q a <;> simp <;> omega

section Calm

variable {s : Stack}

theorem count_inFlight (p : Owner → Bool) :
    s.inFlight.countP p =
      s.network.exchange.entries.countP fun request =>
        request.standing.isWaiting && p request.owner := by
  rw [inFlight, List.countP_map, List.countP_filter]
  refine List.countP_congr fun request _ => ?_
  simp [and_comm]

theorem held_of_waiting {request : Request} {line : Nat} {job : LongPoll.Job}
    (waits : request.standing.isWaiting = true) (owner : request.owner = .job line job) :
    Network.isHeld line job request = true := by
  cases standing : request.standing <;>
    simp [Network.isHeld, owner, standing, Http.Standing.isWaiting] at waits ⊢

/-- None but the transport in use has requests in flight. -/
theorem Custody.line_used (custody : s.Custody) (calm : s.Calm) {request : Request} {line : Nat}
    {job : LongPoll.Job} (posted : request ∈ s.network.exchange.entries)
    (waits : request.standing.isWaiting = true) (owner : request.owner = .job line job) :
    s.session.active.map (·.number) = some line := by
  by_contra other
  have gone := custody.gone line other
  obtain ⟨moves, -, same⟩ := custody.orderly
  have errands := calm.errands
  rw [same] at gone errands posted
  have none := Network.flights_of_gone errands gone job
  have held := List.countP_eq_zero.1 none request posted
  exact held (held_of_waiting waits owner)

/-- Credentials are asked for in the latest attempt, while the session waits for them. -/
theorem Petitions.attempt_used (petitions : s.Petitions) {request : Request} {attempt : Nat}
    {manual : Bool} (posted : request ∈ s.network.exchange.entries)
    (waits : request.standing.isWaiting = true) (owner : request.owner = .reconnect attempt manual) :
    Network.isAsk attempt request = true ∧ attempt = s.session.attempt ∧
      s.session.requesting = true := by
  have asks : Network.isAsk attempt request = true := by
    cases standing : request.standing <;>
      simp [Network.isAsk, Owner.attempt?, owner, standing, Http.Standing.isWaiting] at waits ⊢
  have under : 0 < s.network.asking attempt := List.countP_pos_iff.2 ⟨request, posted, asks⟩
  exact ⟨asks, petitions.current attempt under⟩

theorem Custody.unused_inFlight (custody : s.Custody) (calm : s.Calm)
    (unused : s.session.active = none) {owner : Owner} (waits : owner ∈ s.inFlight) :
    owner.asks = true := by
  obtain ⟨request, listed, rfl⟩ := List.mem_map.1 waits
  obtain ⟨posted, waits⟩ := List.mem_filter.1 listed
  cases own : request.owner with
  | reconnect attempt manual => rfl
  | job line job =>
      have used := custody.line_used calm posted waits own
      rw [unused] at used
      cases used

/-- A count of what is in flight, where only one line has something in flight. -/
theorem Custody.count_le (custody : s.Custody) (calm : s.Calm) {link : Link}
    (used : s.session.active = some link) {p : Owner → Bool} {q : Request → Bool}
    (covers : ∀ (request : Request) line job, request.owner = .job line job → p request.owner = true →
      request.standing.isWaiting = true → line = link.number → q request = true)
    (jobs : ∀ attempt manual, p (.reconnect attempt manual) = false) :
    s.inFlight.countP p ≤ s.network.exchange.entries.countP q := by
  rw [count_inFlight]
  refine List.countP_mono_left fun request posted counted => ?_
  obtain ⟨waits, counts⟩ := Bool.and_eq_true_iff.1 counted
  cases own : request.owner with
  | reconnect attempt manual =>
      rw [own, jobs] at counts
      cases counts
  | job line job =>
      have mine := custody.line_used calm posted waits own
      rw [used] at mine
      exact covers request line job own counts waits (Option.some.inj mine).symm

theorem Custody.polls_le (custody : s.Custody) (calm : s.Calm) {link : Link}
    (used : s.session.active = some link) :
    s.inFlight.countP Owner.polls ≤ (s.network.docket link.number).flights .polling := by
  refine custody.count_le calm used ?_ fun _ _ => rfl
  intro request line job own polls waits mine
  rw [own] at polls
  cases job with
  | polling => exact held_of_waiting waits (mine ▸ own)
  | opening | sending => cases polls

theorem Custody.posts_le (custody : s.Custody) (calm : s.Calm) {link : Link}
    (used : s.session.active = some link) :
    s.inFlight.countP Owner.posts ≤ (s.network.docket link.number).flights .opening +
      (s.network.docket link.number).flights .sending := by
  refine Nat.le_trans (custody.count_le calm used (q := fun request =>
    Network.isHeld link.number .opening request || Network.isHeld link.number .sending request)
    ?_ fun _ _ => rfl) (countP_or_le ..)
  intro request line job own posts waits mine
  rw [own] at posts
  cases job with
  | polling => cases posts
  | opening => exact Bool.or_eq_true_iff.2 (.inl (held_of_waiting waits (mine ▸ own)))
  | sending => exact Bool.or_eq_true_iff.2 (.inr (held_of_waiting waits (mine ▸ own)))

/-- The poll of the transport in use waits for its answer. -/
theorem Custody.polls_of_flights (custody : s.Custody) (calm : s.Calm) {line : Nat}
    (one : (s.network.docket line).flights .polling = 1) : 1 ≤ s.inFlight.countP Owner.polls := by
  obtain ⟨moves, -, same⟩ := custody.orderly
  have errands := calm.errands
  rw [count_inFlight, ← one]
  refine List.countP_mono_left fun request posted held => ?_
  have waits : request.standing = .waiting := by
    rw [same] at errands posted
    exact Network.waiting_of_calm errands posted (of_decide_eq_true held).2
  rw [waits, (of_decide_eq_true held).1]
  rfl

theorem Petitions.asks_le (petitions : s.Petitions) : s.inFlight.countP Owner.asks ≤ 1 := by
  have single := petitions.single s.session.attempt
  refine Nat.le_trans ?_ (Nat.le_trans (Nat.le_add_right _ _) (Nat.le_trans (Nat.le_add_right _ _) single))
  rw [count_inFlight]
  refine List.countP_mono_left fun request posted counted => ?_
  obtain ⟨waits, asks⟩ := Bool.and_eq_true_iff.1 counted
  cases own : request.owner with
  | job line job =>
      rw [own] at asks
      cases asks
  | reconnect attempt manual =>
      obtain ⟨mine, latest, -⟩ := petitions.attempt_used posted waits own
      exact latest ▸ mine

/-- While credentials are asked for the session reconnects, and uses no transport. -/
theorem Petitions.asks_reconnecting (petitions : s.Petitions) (lived : s.Lived) {owner : Owner}
    (waits : owner ∈ s.inFlight) (asks : owner.asks = true) : s.session.phase = .reconnecting := by
  obtain ⟨request, listed, rfl⟩ := List.mem_map.1 waits
  obtain ⟨posted, waits⟩ := List.mem_filter.1 listed
  cases own : request.owner with
  | job line job =>
      rw [own] at asks
      cases asks
  | reconnect attempt manual =>
      exact lived.requesting (petitions.attempt_used posted waits own).2.2

/-- Every request goes to the endpoint that it is meant for. -/
theorem addressed (custody : s.Custody) (petitions : s.Petitions) {request : Request}
    (posted : request ∈ s.network.exchange.entries) :
    request.request.url = request.owner.url s.wiring := by
  cases own : request.owner with
  | reconnect attempt manual =>
      have asked : request.request ∈ s.network.askings :=
        List.mem_filterMap.2 ⟨request, posted, by simp [Network.asked?, own, Owner.attempt?]⟩
      exact petitions.address _ asked
  | job line job =>
      obtain ⟨moves, orderly, same⟩ := custody.orderly
      have addressed := Network.addressed_after orderly
      rw [← same] at addressed
      have mailed : (job, request.request) ∈ s.network.mailing :=
        List.mem_filterMap.2 ⟨request, posted, by simp [Network.jobLetter?, own]⟩
      exact addressed _ mailed

/-- Without a transport in use, only credentials can be asked for. -/
theorem Custody.count_unused (custody : s.Custody) (calm : s.Calm)
    (unused : s.session.active = none) {p : Owner → Bool}
    (jobs : ∀ attempt manual, p (.reconnect attempt manual) = false) :
    s.inFlight.countP p = 0 := by
  refine List.countP_eq_zero.2 fun owner waits counts => ?_
  have asks := custody.unused_inFlight calm unused waits
  cases owner with
  | reconnect attempt manual => cases (jobs attempt manual).symm.trans counts
  | job line job => cases asks

/-- One poll and one frame at most, of all transports. -/
theorem Custody.single (custody : s.Custody) (calm : s.Calm) :
    s.inFlight.countP Owner.polls ≤ 1 ∧ s.inFlight.countP Owner.posts ≤ 1 := by
  cases used : s.session.active with
  | none =>
      rw [custody.count_unused calm used fun _ _ => rfl, custody.count_unused calm used fun _ _ => rfl]
      exact ⟨Nat.zero_le 1, Nat.zero_le 1⟩
  | some link =>
      have polls := custody.polls_le calm used
      have posts := custody.posts_le calm used
      obtain ⟨moves, -, same⟩ := custody.orderly
      have errands := calm.errands
      rw [same] at errands polls posts
      obtain ⟨poll, post⟩ := Network.flights_le errands link.number
      exact ⟨Nat.le_trans polls poll, Nat.le_trans posts post⟩

/-- On a polling transport that took the credentials one poll is held open. -/
theorem Custody.held (custody : s.Custody) (calm : s.Calm) (running : s.session.running = true)
    (engaged : s.session.phase.Engaged) {link : Link} (used : s.session.active = some link)
    (polling : (s.wiring.factory.create link.kind).kind = .polling) :
    s.inFlight.countP Owner.polls = 1 := by
  have serving := custody.serving link used
  obtain ⟨t, here⟩ := Option.isSome_iff_exists.1 (serving.present running polling)
  -- Had it ended, there would be news of it that nobody has heard yet.
  have live : t.phase = .live := by
    refine (serving.launched engaged t here).resolve_right fun ended => ?_
    rcases serving.owed running ⟨t, here, ended⟩ with told | waits
    · simp [Network.news, calm.arrivals] at told
    · simp [calm.inbox] at waits
  have one : (s.network.docket link.number).flights .polling = 1 := by
    obtain ⟨moves, -, same⟩ := custody.orderly
    have errands := calm.errands
    rw [same] at errands here ⊢
    exact Network.poll_of_live errands here live
  exact Nat.le_antisymm (custody.single calm).1 (custody.polls_of_flights calm one)

/-- **A client that is calm is disciplined.** -/
theorem disciplined (lived : s.Lived) (custody : s.Custody) (petitions : s.Petitions)
    (calm : s.Calm) : s.Disciplined where
  polls := (custody.single calm).1
  posts := (custody.single calm).2
  asks := petitions.asks_le
  alone some := by
    obtain ⟨owner, waits, asks⟩ := List.countP_pos_iff.1 some
    have phase := petitions.asks_reconnecting lived waits asks
    have unused := lived.unused (.inr (.inl phase))
    exact ⟨phase, custody.count_unused calm unused fun _ _ => rfl,
      custody.count_unused calm unused fun _ _ => rfl⟩
  held running engaged := by
    obtain ⟨link, used⟩ := Option.isSome_iff_exists.1 (lived.engaged engaged)
    exact ⟨link, used, custody.held calm running engaged used⟩
  quiet resting := by
    have down : s.session.phase.Down := resting.elim (fun failed => .inr (.inr failed)) .inl
    refine List.eq_nil_iff_forall_not_mem.2 fun owner waits => ?_
    have asks := custody.unused_inFlight calm (lived.unused down) waits
    have phase := petitions.asks_reconnecting lived waits asks
    rcases resting with resting | resting <;> cases resting.symm.trans phase
  address request := addressed custody petitions

end Calm

/-! ## Closing -/

/-- The session has been called to close and has not taken that in, or it has stopped. -/
def Closing (s : Stack) : Prop :=
  s.session.running = true ∧ .close ∈ s.inbox ∨
    s.session.running = false ∧ s.session.phase = .idle

section Closing

variable {s : Stack}

theorem Closing.handle (closing : s.Closing) (lived : s.Lived) {place : Nat} {input : Input}
    (here : s.inbox[place]? = some input) :
    ({ s with inbox := s.inbox.eraseIdx place }.handle input).Closing := by
  have handled := handles { s with inbox := s.inbox.eraseIdx place } input
  generalize Stack.handle { s with inbox := s.inbox.eraseIdx place } input = t at handled ⊢
  obtain ⟨-, -, session, inbox, -⟩ := handled
  have same : beat { s with inbox := s.inbox.eraseIdx place } input =
      s.session.beat s.setup.config (s.turn input) := rfl
  simp only [same] at session inbox
  unfold Closing
  rw [session, inbox]
  rcases closing with ⟨running, waits⟩ | ⟨stopped, idle⟩
  · obtain ⟨past, life⟩ := lived.life running
    have upshot := Session.beat_upshot life (s.turn input)
    cases still : (s.session.beat s.setup.config (s.turn input)).after.running with
    | false => exact .inr ⟨rfl, upshot.stops running still⟩
    | true =>
        refine .inl ⟨rfl, ?_⟩
        -- The call itself would have stopped the session.
        refine mem_eraseIdx here waits ?_
        rintro rfl
        rw [show (s.session.beat s.setup.config (s.turn .close)).befell = some .close from
          Session.befell_running running] at upshot
        cases still.symm.trans upshot.closed
  · have kept : (s.session.beat s.setup.config (s.turn input)).after = s.session :=
      (Session.beat_stopped stopped _).1
    rw [kept]
    exact .inr ⟨stopped, idle⟩

theorem closing_call (running : s.session.running = true) : (s.happen .close).Closing := by
  have called : s.happen .close = { s with inbox := s.inbox ++ [.close] } := by
    simp [Stack.happen, submit, running]
  rw [called]
  exact .inl ⟨running, List.mem_append_right _ (List.mem_singleton_self _)⟩

/-- Whatever happens, the session goes on to stop, unless it is stopped on the spot before. -/
theorem Closing.happen (closing : s.Closing) (lived : s.Lived) (happening : Happening)
    (spared : happening = .abort → s.session.running = false) : (s.happen happening).Closing := by
  have more {inputs : List Input} : s.session.running = true ∧ .close ∈ s.inbox ++ inputs ∨
      s.session.running = false ∧ s.session.phase = .idle :=
    closing.imp_left fun ⟨running, waits⟩ => ⟨running, List.mem_append_left _ waits⟩
  refine happen_keeps closing ?_ ?_ ?_ ?_ ?_
  · exact fun _ _ _ => more
  · exact fun _ _ => closing
  · exact more
  · exact fun place input here => closing.handle lived here
  · intro aborts
    rcases closing with ⟨running, -⟩ | ⟨-, idle⟩
    · cases (spared aborts).symm.trans running
    · exact .inr ⟨rfl, idle⟩

/-- Steps that keep a session closing keep it so in a row. -/
theorem closing_foldl {α : Type} {step : Stack → α → Stack} (stop : α)
    (keeps : ∀ s a, s.Lived → s.Closing → (a = stop → s.session.running = false) →
      (step s a).Lived ∧ (step s a).Closing)
    (lived : s.Lived) (closing : s.Closing) {rest : List α}
    (spared : ∀ early late, rest = early ++ stop :: late →
      (early.foldl step s).session.running = false) : (rest.foldl step s).Closing := by
  induction rest generalizing s with
  | nil => exact closing
  | cons a rest ih =>
      obtain ⟨lives, closes⟩ := keeps s a lived closing fun stops =>
        spared [] rest (congrArg (· :: rest) stops)
      exact ih lives closes fun early late split =>
        spared (a :: early) late (congrArg (a :: ·) split)

theorem Closing.arises {t : Stack} (closing : s.Closing) (lived : s.Lived)
    (arises : Arises False s t) : t.Closing := by
  obtain ⟨happenings, spared, rfl⟩ := arises
  refine closing_foldl .abort ?_ lived closing ?_
  · exact fun s happening lived closing stops =>
      ⟨lived.happen happening, closing.happen lived _ stops⟩
  · rintro early late rfl
    exact (spared (List.mem_append_right _ List.mem_cons_self)).elim

def afterPlay (s : Stack) (command : Command) : Stack := (s.play command).1

theorem Lived.arises {t : Stack} {aborts : Prop} (lived : s.Lived) (arises : Arises aborts s t) :
    t.Lived := by
  obtain ⟨happenings, -, rfl⟩ := arises
  exact lived.arise happenings

theorem Closing.play (closing : s.Closing) (lived : s.Lived) {command : Command}
    (spared : command = .abort → s.session.running = false) : (s.afterPlay command).Closing := by
  by_cases aborts : command = .abort
  · subst aborts
    have stopped : s.aborted.Closing := closing.happen lived .abort fun _ => spared rfl
    have lives : s.aborted.Lived := lived.happen .abort
    exact stopped.arises lives (arises_calm s.aborted)
  · exact closing.arises lived ((arises_play s command).mono aborts)

end Closing

/-- On this course of steps the session was called to close while it ran, and it was not stopped on
the spot before it took that in. -/
def Closed {α : Type} (step : Stack → α → Stack) (close stop : α) (s : Stack) (course : List α) :
    Prop :=
  ∃ first rest, course = first ++ close :: rest ∧ (first.foldl step s).session.running = true ∧
    ∀ early late, rest = early ++ stop :: late →
      ((first ++ close :: early).foldl step s).session.running = false

/-- A session that was called to close on its course goes on to stop. -/
theorem Closed.closing {α : Type} {step : Stack → α → Stack} {close stop : α} {s : Stack}
    {course : List α} (closed : Closed step close stop s course) (lived : s.Lived)
    (lives : ∀ s a, s.Lived → (step s a).Lived)
    (calls : ∀ s, s.Lived → s.session.running = true → (step s close).Closing)
    (keeps : ∀ s a, s.Lived → s.Closing → (a = stop → s.session.running = false) →
      (step s a).Closing) : (course.foldl step s).Closing := by
  obtain ⟨first, rest, rfl, running, spared⟩ := closed
  have before : (first.foldl step s).Lived := by
    clear running spared
    induction first generalizing s with
    | nil => exact lived
    | cons a first ih => exact ih (lives s a lived)
  simp only [List.foldl_append, List.foldl_cons] at spared ⊢
  generalize first.foldl step s = t at before running spared
  exact closing_foldl _ (fun s a lived closing stops => ⟨lives s a lived, keeps s a lived closing stops⟩)
    (lives t close before) (calls t before running) spared

/-- **At every calm point a client is disciplined, and once it closed it has nothing in flight**:
with any endpoints and any tuning, whatever the application does, whatever the server answers and
whenever, in whatever order all that waits gets to run, and so in the order in which a stack that
plays commands lets it run. -/
theorem request_discipline (setup : Setup) (wiring : Wiring) :
    (∀ happenings, (arisen setup wiring happenings).Calm →
      (arisen setup wiring happenings).Disciplined ∧
        (Closed happen .close .abort { setup, wiring } happenings →
          (arisen setup wiring happenings).inFlight = [])) ∧
    ∀ commands, (({ setup, wiring } : Stack).plays commands).Calm →
      (({ setup, wiring } : Stack).plays commands).Disciplined ∧
        (Closed afterPlay .close .abort { setup, wiring } commands →
          (({ setup, wiring } : Stack).plays commands).inFlight = []) := by
  have lived := lived_new setup wiring
  -- At rest no close waits in the inbox any more, so the session has taken it.
  have quiet {s : Stack} (calm : s.Calm) (disciplined : s.Disciplined) (closing : s.Closing) :
      s.inFlight = [] := by
    rcases closing with ⟨-, waits⟩ | ⟨-, idle⟩
    · simp [calm.inbox] at waits
    · exact disciplined.quiet (.inr idle)
  have all (happenings : List Happening) (calm : (arisen setup wiring happenings).Calm) :
      (arisen setup wiring happenings).Disciplined :=
    disciplined (lived.arise happenings) (custody_arisen setup wiring happenings)
      (petitions_arisen setup wiring happenings) calm
  constructor
  · refine fun happenings calm => ⟨all happenings calm, fun closed => ?_⟩
    refine quiet calm (all happenings calm) (closed.closing lived ?_ ?_ ?_)
    · exact fun s happening lived => lived.happen happening
    · exact fun s _ running => closing_call running
    · exact fun s happening lived closing stops => closing.happen lived _ stops
  · intro commands calm
    have disciplined : (({ setup, wiring } : Stack).plays commands).Disciplined := by
      obtain ⟨happenings, -, same⟩ := arises_plays { setup, wiring } commands
      rw [same] at calm ⊢
      exact all happenings calm
    refine ⟨disciplined, fun closed => quiet calm disciplined (closed.closing lived ?_ ?_ ?_)⟩
    · exact fun s command lived => lived.arises (arises_play s command)
    · exact fun s lived running => (closing_call running).arises (lived.happen .close) (arises_calm _)
    · exact fun s command lived closing stops => closing.play lived stops

def endpoints : Wiring where
  factory := { webSocket := none, longPoll := { sendUrl := "send", pollUrl := "poll" } }
  reconnectUrl := "reconnect"

def comingUp : List Command :=
  [.init ⟨"S"⟩ ⟨"T"⟩ false, .answer (.path "send") (.response (.ofBody "u&a".toUTF8.toList)),
    .answer (.path "send") (.response (.ofBody [])),
    .answer (.path "poll") (.response (.ofBody "b&I&K".toUTF8.toList))]

theorem calm_of_empty {s : Stack}
    (empty : (s.inbox.isEmpty && s.network.errands.isEmpty && s.network.arrivals.isEmpty) = true) :
    s.Calm := by
  simp only [Bool.and_eq_true, List.isEmpty_iff] at empty
  exact ⟨empty.1.1, empty.1.2, empty.2⟩

/-- A client of these endpoints, which has no other transports. -/
def fresh : Stack where
  setup := { persistent := false }
  wiring := endpoints

/-- A session that is ready holds one poll, and none once it closed. -/
theorem poll_while_ready :
    (fresh.plays comingUp).session.phase = .ready ∧
      (fresh.plays comingUp).inFlight.countP Owner.polls = 1 ∧
      (fresh.plays (comingUp ++ [.close])).inFlight = [] := by
  have ready : (fresh.plays comingUp).session.phase = .ready := by decide +kernel
  have running : (fresh.plays comingUp).session.running = true := by decide +kernel
  have only : (fresh.plays comingUp).wiring.factory.webSocket.isNone = true := by decide +kernel
  have calm : (fresh.plays comingUp).Calm := calm_of_empty (by decide +kernel)
  have still : (fresh.plays (comingUp ++ [.close])).Calm := calm_of_empty (by decide +kernel)
  have closed : Closed afterPlay .close .abort fresh (comingUp ++ [.close]) :=
    ⟨comingUp, [], rfl, running, fun early late split => by simp at split⟩
  obtain ⟨-, playing⟩ := request_discipline { persistent := false } endpoints
  obtain ⟨link, -, held⟩ := (playing comingUp calm).1.held running (.inr ready)
  have polling := Factory.kind_of_pollingOnly _ (Option.isNone_iff_eq_none.1 only) link.kind
  exact ⟨ready, held polling, (playing (comingUp ++ [Command.close]) still).2 closed⟩

end Stack

end Tether
