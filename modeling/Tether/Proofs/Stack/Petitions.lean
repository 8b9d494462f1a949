/-
# Tether.Proofs.Stack.Petitions -- one request for credentials at a time

A session asks for credentials under a number, which it counts up, and it asks for nothing new
before it gave up what it asked for.  A request is in the ledger of the network until its answer is
taken; its end is then among the arrivals, and after that among the inputs, until the session takes
it in.  So of each attempt there is one such thing at most, wherever it is, of attempts to come
there is none, and in the ledger there is none but that of the latest attempt, while the session
waits for it (`Petition`).

The effects of a session come in the order of the acts on its ledger, so the petition is followed
from act to act: it takes part in two of them.

* `Ledger.Petitions.act` -- every act of a session keeps to one request at a time.
* `petitions_arisen` -- and so does a stack, whatever happens.
-/
import Tether.Proofs.Network.Asks
import Tether.Proofs.Stack.Happenings

set_option autoImplicit false

namespace Tether

open Network (Carries)

/-- The input is the end of a request of this attempt. -/
def Input.replies (attempt : Nat) (input : Input) : Bool :=
  decide (input.answers = some (.request, attempt))

/-- How many ends of requests of an attempt wait for the session. -/
def Stack.replies (s : Stack) (attempt : Nat) : Nat := s.inbox.countP (·.replies attempt)

/-- How requests for credentials stand: all go to `url`, and one is under way at most, that of the
latest attempt.  `replies` counts the ends that the session did not take in. -/
structure Petition (url : String) (slot : TimerSlot) (n : Network) (replies : Nat → Nat) : Prop where
  address : ∀ request ∈ n.askings, request.url = url
  current : ∀ attempt, 0 < n.asking attempt → attempt = slot.generation ∧ slot.pending = true
  single : ∀ attempt, n.asking attempt + n.endings attempt + replies attempt ≤ 1
  unknown : ∀ attempt, slot.generation < attempt →
    n.asking attempt + n.endings attempt + replies attempt = 0

section Petition

variable {url : String} {slot : TimerSlot} {n m : Network} {replies fewer : Nat → Nat}

theorem Petition.carries (petition : Petition url slot n replies) (carries : Carries n m) :
    Petition url slot m replies where
  address := carries.askings.symm ▸ petition.address
  current attempt under :=
    petition.current attempt (Nat.lt_of_lt_of_le under (carries.asking attempt))
  single attempt := (carries.total attempt).symm ▸ petition.single attempt
  unknown attempt later := (carries.total attempt).symm ▸ petition.unknown attempt later

/-- Once the end of a request was taken in, it is no longer there. -/
theorem Petition.less (petition : Petition url slot n replies)
    (less : ∀ attempt, fewer attempt ≤ replies attempt) : Petition url slot n fewer where
  address := petition.address
  current := petition.current
  single attempt := by
    have one := petition.single attempt
    have few := less attempt
    omega
  unknown attempt later := by
    have none := petition.unknown attempt later
    have few := less attempt
    omega

/-- An attempt that ended need not be waited for. -/
theorem Petition.settle (petition : Petition url slot n replies)
    (ended : 0 < replies slot.generation) :
    Petition url { slot with pending := false } n replies where
  address := petition.address
  current attempt under := by
    obtain ⟨rfl, -⟩ := petition.current attempt under
    have one := petition.single slot.generation
    omega
  single := petition.single
  unknown := petition.unknown

/-- An attempt that is given up is under way no longer. -/
theorem Petition.abandon (petition : Petition url slot n replies) :
    Petition url { slot with pending := false } (n.make (.abandon slot.generation)) replies where
  address := by
    rw [Network.make_abandon, Network.askings_givenUp]
    exact petition.address
  current attempt under := by
    rw [Network.asking_abandon] at under
    split at under
    · exact absurd under (Nat.lt_irrefl 0)
    · rename_i other
      exact absurd (petition.current attempt under).1.symm other
  single attempt := by
    have one := petition.single attempt
    have same : (n.make (.abandon slot.generation)).endings attempt = n.endings attempt := rfl
    rw [Network.asking_abandon, same]
    split <;> omega
  unknown attempt later := by
    have none := petition.unknown attempt later
    have same : (n.make (.abandon slot.generation)).endings attempt = n.endings attempt := rfl
    rw [Network.asking_abandon, same]
    split <;> omega

/-- A new attempt may be made while none is under way. -/
theorem Petition.request (petition : Petition url slot n replies) (free : slot.pending = false)
    (request : Http.Request) (address : request.url = url) (manual : Bool) (limit : Nat) :
    Petition url slot.schedule (n.make (.ask request (slot.generation + 1) manual limit)) replies := by
  have none (attempt : Nat) : n.asking attempt = 0 := by
    by_contra under
    have pending := (petition.current attempt (Nat.pos_of_ne_zero under)).2
    cases free.symm.trans pending
  have ends (attempt : Nat) :
      (n.make (.ask request (slot.generation + 1) manual limit)).endings attempt =
        n.endings attempt := rfl
  refine ⟨?_, ?_, ?_, ?_⟩
  · intro other member
    rw [Network.askings_ask] at member
    rcases List.mem_append.1 member with old | new
    · exact petition.address other old
    · rwa [List.mem_singleton.1 new]
  · intro attempt under
    rw [Network.asking_ask, none] at under
    split at under
    · rename_i latest
      exact ⟨latest.symm, rfl⟩
    · exact absurd under (Nat.lt_irrefl 0)
  · intro attempt
    have one := petition.single attempt
    rw [Network.asking_ask, ends, none]
    split
    · rename_i latest
      have unknown := petition.unknown attempt (by omega)
      omega
    · omega
  · intro attempt later
    have later : slot.generation + 1 < attempt := later
    have unknown := petition.unknown attempt (by omega)
    rw [Network.asking_ask, ends, none, if_neg (by omega)]
    omega

end Petition

/-! ## Acts of the session -/

def Entry.moves (wiring : Wiring) : Entry → List Network.Move
  | .asked effect => effect.moves wiring
  | .taken _ => []

/-- Only two effects concern requests for credentials. -/
theorem Effect.moves_aside {effect : Effect} (aside : effect.errand ≠ some .request)
    (wiring : Wiring) : ∀ move ∈ effect.moves wiring, ¬move.Asks := by
  cases effect with
  | request attempt manual instanceId => exact absurd rfl aside
  | abandon attempt => exact absurd rfl aside
  | _ => simp [Effect.moves, Network.Move.Asks]

section Acts

variable {wiring : Wiring} {n : Network} {replies : Nat → Nat} {l m : Ledger}

/-- How requests for credentials stand once all in the ledger was carried out. -/
def Ledger.Petitions (wiring : Wiring) (n : Network) (replies : Nat → Nat) (l : Ledger) : Prop :=
  Petition wiring.reconnectUrl (l.errand .request) (n.afterFrom (l.log.flatMap (·.moves wiring)))
    replies

theorem network_ask (effects : List Effect) :
    n.afterFrom ((l.ask effects).log.flatMap (·.moves wiring)) =
      (n.afterFrom (l.log.flatMap (·.moves wiring))).afterFrom
        (effects.flatMap (·.moves wiring)) := by
  rw [← Network.afterFrom_append]
  simp only [Ledger.ask, List.flatMap_append, List.flatMap_map]
  rfl

/-- Effects that concern something else leave the requests as they are. -/
theorem Ledger.Petitions.aside (petitions : l.Petitions wiring n replies) {effects : List Effect}
    (aside : ∀ effect ∈ effects, effect.errand ≠ some .request) :
    (l.ask effects).Petitions wiring n replies := by
  unfold Ledger.Petitions
  rw [network_ask]
  refine petitions.carries (Network.carries_run _ fun move member => ?_)
  obtain ⟨effect, asked, carries⟩ := List.mem_flatMap.1 member
  exact Effect.moves_aside (aside effect asked) wiring move carries

theorem Ledger.Petitions.timer (petitions : l.Petitions wiring n replies) {timer : SessionTimer}
    {slot : TimerSlot} {effects : List Effect}
    (alone : ∀ effect ∈ effects, effect.errand = some (.timer timer)) :
    ((l.renumber (.timer timer) slot).ask effects).Petitions wiring n replies := by
  have renumbered : (l.renumber (.timer timer) slot).Petitions wiring n replies := petitions
  refine renumbered.aside fun effect member => ?_
  rw [alone effect member]
  exact nofun

/-- **Every act keeps to one request at a time.** -/
theorem Ledger.Petitions.act (petitions : l.Petitions wiring n replies) (act : Ledger.Act l m) :
    m.Petitions wiring n replies := by
  cases act with
  | say effect plain =>
      refine petitions.aside fun other member => ?_
      rw [List.mem_singleton.1 member, plain.errand]
      exact nofun
  | cancel timer => exact petitions.timer fun _ member => revocation_errand member
  | start timer delay => exact petitions.timer fun _ member => start_errand member
  | abandon pending =>
      unfold Ledger.Petitions
      rw [network_ask]
      exact Petition.abandon petitions
  | request manual instanceId free =>
      unfold Ledger.Petitions
      rw [network_ask]
      exact Petition.request petitions free _ rfl manual wiring.reconnectTimeout
  | setAside used =>
      refine Ledger.Petitions.aside (l := { l with active := none, retired := _ }) petitions ?_
      intro effect member
      rw [retirement_errand member]
      exact nofun
  | dropLinks =>
      refine Ledger.Petitions.aside (l := { l with active := none, retired := none }) petitions ?_
      intro effect member
      rw [retirement_errand member]
      exact nofun
  | openLink kind =>
      refine Ledger.Petitions.aside
        (l := { l with active := some ⟨l.nextLink, kind⟩, nextLink := l.nextLink + 1 }) petitions ?_
      intro effect member
      rw [List.mem_singleton.1 member]
      exact nofun
  | stop => exact Ledger.Petitions.aside (l := { l with running := false }) petitions nofun

end Acts

/-! ## Happenings -/

namespace Stack

def Petitions (s : Stack) : Prop :=
  Petition s.wiring.reconnectUrl (s.session.errand .request) s.network s.replies

section Petitions

variable {s : Stack}

theorem Petitions.call (petitions : s.Petitions) {input : Input} (calls : input.IsCall) (count : Nat) :
    Petitions { s with calls := count, inbox := s.inbox ++ [input] } := by
  refine petitions.less fun attempt => ?_
  have apart : input.replies attempt = false := by
    cases input with
    | expired | resolved | transport => exact calls.elim
    | init | send | reconnect | close => rfl
  simp [replies, apart]

theorem Petitions.stir (petitions : s.Petitions) {move : Network.Move} (stirs : move.Stirs) :
    Petitions { s with network := s.network.make move } := by
  refine petitions.carries (Network.carries_make _ move fun asks => ?_)
  cases move <;> first | exact stirs | exact asks

theorem replies_inputOf (attempt : Nat) (arrival : Network.Arrival) :
    (inputOf arrival).replies attempt = decide (arrival.attempt? = some attempt) := by
  cases arrival with
  | event | expired => rfl
  | resolved other manual result =>
      simp [inputOf, Input.replies, Input.answers, Network.Arrival.attempt?]

theorem Petitions.collect (petitions : s.Petitions) : s.collect.Petitions := by
  have moved (attempt : Nat) :
      s.collect.replies attempt = s.network.endings attempt + s.replies attempt := by
    simp only [replies, Stack.collect, List.countP_append, List.countP_map, Function.comp_def,
      replies_inputOf, Network.endings]
    exact Nat.add_comm _ _
  have none (attempt : Nat) : s.collect.network.endings attempt = 0 := rfl
  have same (attempt : Nat) : s.collect.network.asking attempt = s.network.asking attempt := rfl
  refine ⟨petitions.address, petitions.current, fun attempt => ?_, fun attempt later => ?_⟩
  · have one := petitions.single attempt
    rw [moved, none, same]
    omega
  · have zero := petitions.unknown attempt later
    rw [moved, none, same]
    omega

/-- What is taken in waits no longer. -/
theorem replies_erase {place : Nat} {input : Input} (here : s.inbox[place]? = some input)
    (attempt : Nat) :
    s.replies attempt =
      Stack.replies { s with inbox := s.inbox.eraseIdx place } attempt +
        if input.replies attempt = true then 1 else 0 := by
  obtain ⟨inside, found⟩ := List.getElem?_eq_some_iff.1 here
  have split : s.inbox = s.inbox.take place ++ input :: s.inbox.drop (place + 1) := by
    rw [← found, List.getElem_cons_drop, List.take_append_drop]
  have counted := congrArg (List.countP (·.replies attempt)) split
  simp only [List.countP_append, List.countP_cons] at counted
  simp only [replies, List.eraseIdx_eq_take_drop_succ, List.countP_append]
  omega

/-- The session looks whether the end of a request counts: then there is no other. -/
theorem Petitions.heard (petitions : s.Petitions) (input : Input) (empty : s.session.outbox = [])
    (waits : input.replies s.session.attempt = true → 0 < s.replies s.session.attempt) :
    ((s.session.received input).ledger []).Petitions s.wiring s.network s.replies := by
  obtain ⟨-, -, -, -, outbox⟩ := s.session.received_links input
  unfold Ledger.Petitions
  simp only [Session.ledger, outbox, empty, List.map_nil, List.append_nil, List.flatMap_nil,
    Session.received_errand]
  split
  · rename_i answers
    exact Petition.settle petitions (waits (decide_eq_true answers))
  · exact petitions

theorem Petitions.handle (petitions : s.Petitions) (lived : s.Lived) {place : Nat} {input : Input}
    (here : s.inbox[place]? = some input) :
    ({ s with inbox := s.inbox.eraseIdx place }.handle input).Petitions := by
  have handled := handles { s with inbox := s.inbox.eraseIdx place } input
  have fewer (attempt : Nat) :
      Stack.replies { s with inbox := s.inbox.eraseIdx place } attempt ≤ s.replies attempt :=
    Nat.le.intro (replies_erase here attempt).symm
  have box : Stack.replies ({ s with inbox := s.inbox.eraseIdx place }.handle input) =
      Stack.replies { s with inbox := s.inbox.eraseIdx place } := by
    funext attempt
    rw [replies, handled.inbox]
    rfl
  unfold Petitions
  rw [box, handled.wiring, handled.session, handled.network]
  refine Petition.less ?_ fewer
  cases running : s.session.running with
  | false =>
      obtain ⟨after, effects⟩ :=
        Session.beat_stopped running (turn { s with inbox := s.inbox.eraseIdx place } input)
      simp only [beat]
      rw [after, effects]
      exact petitions
  | true =>
      obtain ⟨past, life⟩ := lived.life running
      obtain ⟨after, effects⟩ := Session.beat_running running life.outbox
        (turn { s with inbox := s.inbox.eraseIdx place } input)
      simp only [beat]
      rw [after, effects]
      -- The ends of requests are counted as they were before this input was taken out.
      have heard := petitions.heard input life.outbox fun replies => by
        rw [replies_erase here, if_pos replies]
        exact Nat.succ_pos _
      have path := Session.handle_leads [] s.session
        ((turn { s with inbox := s.inbox.eraseIdx place } input).setup s.setup.config) s.accepting
        input
      have done := Ledger.Path.keeps path (fun _ _ act petitions => petitions.act act) heard
      simp only [Ledger.Petitions, Session.ledger, List.nil_append, List.flatMap_map] at done
      exact done

theorem Petitions.aborted (petitions : s.Petitions) : s.aborted.Petitions := by
  have dropped (lines : List Nat) (n : Network) : Carries n (lines.foldl Network.drop n) := by
    induction lines generalizing n with
    | nil => exact .refl n
    | cons line lines ih => exact (Network.carries_make n (.drop line) not_false).trans (ih _)
  exact (petitions.carries (dropped _ s.network)).less fun _ => Nat.zero_le _

theorem Petitions.happen (petitions : s.Petitions) (lived : s.Lived) (happening : Happening) :
    (s.happen happening).Petitions := by
  refine happen_keeps petitions ?_ ?_ ?_ ?_ ?_
  · exact fun count input calls => petitions.call calls count
  · exact fun move stirs => petitions.stir stirs
  · exact petitions.collect
  · exact fun place input here => petitions.handle lived here
  · exact fun _ => petitions.aborted

end Petitions

/-- **Whatever happens, a stack asks for credentials once at a time.** -/
theorem petitions_arisen (setup : Setup) (wiring : Wiring) (happenings : List Happening) :
    (arisen setup wiring happenings).Petitions := by
  induction happenings using List.reverseRecOn with
  | nil => exact ⟨nofun, nofun, fun _ => Nat.zero_le _, fun _ _ => rfl⟩
  | append_singleton happenings happening ih =>
      rw [arisen_concat]
      exact ih.happen ((lived_new setup wiring).arise happenings) happening

end Stack

end Tether
