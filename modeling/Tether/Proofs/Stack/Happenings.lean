/-
# Tether.Proofs.Stack.Happenings -- what can happen to a stack

A stack that plays commands lets its session take in all that waits, oldest first, and only then
its network.  Neither is essential.  Here any of the things that wait may come next: one of the
inputs, one of the errands or an alarm, between any two calls of the application and any two
answers of the server.  Whatever holds after all happenings holds of every stack that plays
commands, in whatever order its parts get to run.

* `arises_plays` -- a stack that plays commands is one to which things happen.
* `happen_keeps` -- what is kept by calls, by the network, when something is fetched or taken in,
  and when the session is stopped on the spot, is kept whatever happens.
* `handles` -- to take in an input is a beat in the life of the session, and moves of the network.
* `Lived.happen` -- whatever happens, the session of a stack has led a life.
-/
import Tether.Proofs.Network.Runs
import Tether.Proofs.Session.Deeds
import Tether.Proofs.Session.Stale

set_option autoImplicit false

namespace Tether

def Input.IsCall : Input → Prop
  | .init _ _ _ | .send _ _ _ | .reconnect | .close => True
  | .expired _ _ | .resolved _ _ _ | .transport _ _ => False

/-- The network moves by itself, or because the server answers. -/
def Network.Move.Stirs : Network.Move → Prop
  | .answer _ _ | .errand _ | .alarm _ | .wait _ => True
  | _ => False

namespace Stack

inductive Happening
  | init (session : SessionId) (token : AccessToken) (forceFallback : Bool)
  | send (task : String) (fields : List (String × String))
  | reconnect
  | close
  /-- The session is stopped on the spot. -/
  | abort
  /-- The server answers a request. -/
  | answer (address : Http.Exchange.Address) (outcome : Http.Outcome)
  /-- The session takes in one of the inputs that wait. -/
  | handle (place : Nat)
  /-- One of the errands runs. -/
  | errand (place : Nat)
  /-- The next alarm rings, if it is due by `limit`. -/
  | alarm (limit : Nat)
  /-- What came out of the network is fetched. -/
  | collect
  /-- Time goes by. -/
  | wait (time : Nat)

/-- The stack whose session was stopped on the spot. -/
def aborted (s : Stack) : Stack :=
  { s.dropLines with inbox := [], session := { s.session with running := false } }

def happen (s : Stack) : Happening → Stack
  | .init session token forceFallback => (s.submit (.init session token forceFallback)).1
  | .send task fields =>
      if s.session.running then
        { s with calls := s.calls + 1, inbox := s.inbox ++ [.send s.calls task fields] }
      else s
  | .reconnect => (s.submit .reconnect).1
  | .close => (s.submit .close).1
  | .abort => s.aborted
  | .answer address outcome => { s with network := s.network.make (.answer address outcome) }
  | .handle place =>
      match s.inbox[place]? with
      | some input => { s with inbox := s.inbox.eraseIdx place }.handle input
      | none => s
  | .errand place => { s with network := s.network.make (.errand place) }
  | .alarm limit => { s with network := s.network.make (.alarm limit) }
  | .collect => s.collect
  | .wait time => { s with network := s.network.make (.wait time) }

def arise (s : Stack) (happenings : List Happening) : Stack := happenings.foldl happen s

def arisen (setup : Setup) (wiring : Wiring) (happenings : List Happening) : Stack :=
  ({ setup, wiring } : Stack).arise happenings

def plays (s : Stack) (commands : List Command) : Stack :=
  commands.foldl (fun s command => (s.play command).1) s

theorem arisen_concat (setup : Setup) (wiring : Wiring) (happenings : List Happening)
    (happening : Happening) :
    arisen setup wiring (happenings ++ [happening]) =
      (arisen setup wiring happenings).happen happening :=
  List.foldl_append

/-! ## To play is to let happen -/

/-- Happenings lead from one stack to the other; the session is stopped on the spot only if
`aborts`. -/
def Arises (aborts : Prop) (s t : Stack) : Prop :=
  ∃ happenings, (.abort ∈ happenings → aborts) ∧ t = s.arise happenings

section Arises

variable {aborts : Prop} {s t u : Stack}

theorem Arises.refl (s : Stack) : Arises aborts s s := ⟨[], nofun, rfl⟩

theorem Arises.trans (first : Arises aborts s t) (second : Arises aborts t u) :
    Arises aborts s u := by
  obtain ⟨early, before, rfl⟩ := first
  obtain ⟨late, after, rfl⟩ := second
  exact ⟨early ++ late, fun stops => (List.mem_append.1 stops).elim before after,
    List.foldl_append.symm⟩

theorem Arises.mono {more : Prop} (arises : Arises aborts s t) (implies : aborts → more) :
    Arises more s t := by
  obtain ⟨happenings, stops, same⟩ := arises
  exact ⟨happenings, fun member => implies (stops member), same⟩

theorem arises_happen (s : Stack) (happening : Happening) (stops : happening = .abort → aborts) :
    Arises aborts s (s.happen happening) :=
  ⟨[happening], fun member => stops (List.mem_singleton.1 member).symm, rfl⟩

theorem arises_tick {limit : Nat} (ticks : s.tick limit = some t) : Arises aborts s t := by
  unfold tick at ticks
  split at ticks
  · rename_i input rest waits
    cases ticks
    have first : s.happen (.handle 0) = { s with inbox := rest }.handle input := by
      simp [happen, waits]
    have handled : Arises aborts s (s.happen (.handle 0)) := arises_happen s _ nofun
    rw [first] at handled
    exact handled.trans (arises_happen _ .collect nofun)
  · split at ticks
    · rename_i network moved
      cases ticks
      rcases Network.make_of_tick moved with rfl | rfl
      · exact (arises_happen s (.errand 0) nofun).trans (arises_happen _ .collect nofun)
      · exact (arises_happen s (.alarm limit) nofun).trans (arises_happen _ .collect nofun)
    · cases ticks

theorem arises_runFor (limit fuel : Nat) (s : Stack) : Arises aborts s (runFor limit fuel s) := by
  induction fuel generalizing s with
  | zero => exact .refl _
  | succ fuel ih =>
      unfold runFor
      split
      · exact .refl _
      · rename_i after ticks
        exact (arises_tick ticks).trans (ih _)

theorem arises_calm (s : Stack) : Arises aborts s s.calm := arises_runFor _ s.work s

theorem arises_play (s : Stack) (command : Command) :
    Arises (command = .abort) s (s.play command).1 := by
  cases command with
  | init session token forceFallback =>
      exact (arises_happen s (.init session token forceFallback) nofun).trans (arises_calm _)
  | reconnect => exact (arises_happen s .reconnect nofun).trans (arises_calm _)
  | close => exact (arises_happen s .close nofun).trans (arises_calm _)
  | send task fields =>
      unfold play
      dsimp only
      split
      · rename_i running
        have first : s.happen (.send task fields) =
            { s with calls := s.calls + 1, inbox := s.inbox ++ [.send s.calls task fields] } :=
          if_pos running
        have sent : Arises (.send task fields = Command.abort) s (s.happen (.send task fields)) :=
          arises_happen s _ nofun
        rw [first] at sent
        exact sent.trans (arises_calm _)
      · exact .refl _
  | answer address outcome =>
      exact (arises_happen s (.answer address outcome) nofun).trans (arises_calm _)
  | advance ms =>
      exact (arises_runFor _ s.work s).trans
        (arises_happen _ (.wait (s.network.clock.now + ms)) nofun)
  | abort => exact (arises_happen s .abort fun _ => rfl).trans (arises_calm _)

end Arises

/-- **A stack that plays commands is one to which things happen.** -/
theorem arises_plays (s : Stack) (commands : List Command) :
    Arises (.abort ∈ commands) s (s.plays commands) := by
  induction commands generalizing s with
  | nil => exact .refl s
  | cons command commands ih =>
      have first : Arises (.abort ∈ command :: commands) s (s.play command).1 :=
        (arises_play s command).mono fun stops => List.mem_cons.2 (.inl stops.symm)
      exact first.trans ((ih _).mono (List.mem_cons_of_mem command))

/-! ## What is kept -/

/-- **What is kept in each of five ways is kept whatever happens.** -/
theorem happen_keeps {P : Stack → Prop} {s : Stack} {happening : Happening} (held : P s)
    (call : ∀ calls input, input.IsCall → P { s with calls, inbox := s.inbox ++ [input] })
    (stir : ∀ move, move.Stirs → P { s with network := s.network.make move })
    (collect : P s.collect)
    (handle : ∀ place input, s.inbox[place]? = some input →
      P ({ s with inbox := s.inbox.eraseIdx place }.handle input))
    (abort : happening = .abort → P s.aborted) : P (s.happen happening) := by
  have submit (input : Input) (calls : input.IsCall) : P (s.submit input).1 := by
    unfold submit
    split
    · exact call s.calls input calls
    · exact held
  cases happening with
  | init session token forceFallback => exact submit _ trivial
  | reconnect => exact submit _ trivial
  | close => exact submit _ trivial
  | send task fields =>
      unfold happen
      dsimp only
      split
      · exact call (s.calls + 1) (.send s.calls task fields) trivial
      · exact held
  | abort => exact abort rfl
  | answer | errand | alarm | wait => exact stir _ trivial
  | collect => exact collect
  | handle place =>
      unfold happen
      dsimp only
      split
      · exact handle place _ ‹_›
      · exact held

/-- To take one input out of the inbox leaves the others in it. -/
theorem mem_eraseIdx {inbox : List Input} {place : Nat} {input other : Input}
    (here : inbox[place]? = some input) (waits : other ∈ inbox) (apart : input ≠ other) :
    other ∈ inbox.eraseIdx place := by
  obtain ⟨index, found⟩ := List.getElem?_of_mem waits
  refine List.mem_eraseIdx_iff_getElem?.2 ⟨index, fun same => apart ?_, found⟩
  rw [same] at found
  exact Option.some.inj (here.symm.trans found)

/-! ## The life of the session -/

def turn (s : Stack) (input : Input) : Session.Turn where
  input := input
  accepting := s.accepting
  persistent := s.setup.persistent

def beat (s : Stack) (input : Input) : Session.Beat :=
  s.session.beat s.setup.config (s.turn input)

/-- **To take in an input is a beat in the life of the session**, and its effects are moves. -/
theorem handles (s : Stack) (input : Input) :
    Absorbs { s with session := (s.beat input).after } (s.handle input) (s.beat input).effects :=
  absorbs _ _

/-- The session has led a life, up to now or until it was stopped on the spot. -/
def Lived (s : Stack) : Prop :=
  ∃ past t, Session.Life s.setup.config past t ∧
    (s.session = t ∨ s.session = { t with running := false })

section Lived

variable {s : Stack}

/-- A session that runs was not stopped. -/
theorem Lived.life (lived : s.Lived) (running : s.session.running = true) :
    ∃ past, Session.Life s.setup.config past s.session := by
  obtain ⟨past, t, life, same | stopped⟩ := lived
  · exact ⟨past, same ▸ life⟩
  · rw [stopped] at running
    cases running

theorem Lived.handle (lived : s.Lived) (input : Input) : (s.handle input).Lived := by
  have handled := handles s input
  unfold Lived
  rw [handled.session, handled.setup]
  cases running : s.session.running with
  | true =>
      obtain ⟨past, life⟩ := lived.life running
      exact ⟨_, _, life.beat (s.turn input), .inl rfl⟩
  | false =>
      have still : (s.beat input).after = s.session :=
        (Session.beat_stopped running (s.turn input)).1
      dsimp only
      rw [still]
      exact lived

/-- **Whatever happens, the session has led a life.** -/
theorem Lived.happen (lived : s.Lived) (happening : Happening) : (s.happen happening).Lived := by
  refine happen_keeps lived ?_ ?_ ?_ ?_ ?_
  · exact fun _ _ _ => lived
  · exact fun _ _ => lived
  · exact lived
  · intro place input _
    have less : ({ s with inbox := s.inbox.eraseIdx place } : Stack).Lived := lived
    exact less.handle input
  · rintro -
    obtain ⟨past, t, life, same | stopped⟩ := lived
    · exact ⟨past, t, life, .inr (congrArg (fun s => { s with running := false }) same)⟩
    · exact ⟨past, t, life, .inr (congrArg (fun s => { s with running := false }) stopped)⟩

/-- Only a session that reconnects waits for credentials. -/
theorem Lived.requesting (lived : s.Lived) (requesting : s.session.requesting = true) :
    s.session.phase = .reconnecting := by
  obtain ⟨past, t, life, same⟩ := lived
  have arranged := (Session.life_coherent life).arranged
  have waits : t.requesting = true := by rcases same with same | same <;> rwa [same] at requesting
  have phase := arranged.awaits_reply waits
  rcases same with same | same <;> rwa [same]

/-- A session that is idle, that has given up or that reconnects uses no transport. -/
theorem Lived.unused (lived : s.Lived) (down : s.session.phase.Down) : s.session.active = none := by
  obtain ⟨past, t, life, same⟩ := lived
  have arranged := (Session.life_coherent life).arranged
  have unused : t.active = none := by
    have phase : t.phase.Down := by rcases same with same | same <;> rwa [same] at down
    rcases phase with idle | reconnecting | failed
    · exact ((Session.arranged_idle idle).1 arranged).active
    · exact ((Session.arranged_reconnecting reconnecting).1 arranged).active
    · exact ((Session.arranged_failed failed).1 arranged).active
  rcases same with same | same <;> rwa [same]

/-- The transport in use was opened. -/
theorem Lived.known (lived : s.Lived) {link : Link} (used : s.session.active = some link) :
    link.number < s.session.nextLink := by
  obtain ⟨past, t, life, same⟩ := lived
  have linked := Session.life_linked life
  rcases same with same | same <;> rw [same] at used ⊢
  · exact linked.used link (.inl used)
  · exact linked.used link (.inl used)

end Lived

theorem Lived.arise {s : Stack} (lived : s.Lived) (happenings : List Happening) :
    (s.arise happenings).Lived := by
  induction happenings generalizing s with
  | nil => exact lived
  | cons happening happenings ih => exact ih (lived.happen happening)

theorem lived_new (setup : Setup) (wiring : Wiring) : ({ setup, wiring } : Stack).Lived :=
  ⟨[], {}, .fresh, .inl rfl⟩

end Stack

end Tether
