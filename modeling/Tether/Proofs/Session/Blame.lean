/-
# Tether.Proofs.Session.Blame -- who is to blame for a failure

A failure is the fault of a party that the session itself brought up: the transport in use, or the
reconnect request that failed.  The same breakdown is often reported twice.  A transport refuses a
frame, or a send finds it silent for too long, and then it closes; the closing may stand in the
inbox already, or be told past the sink that was detached.

It is counted once all the same.  The session keeps no list of those it blamed.  But with the
failure the party is done for (`Done`): the transport was given up, the request has had its answer.
No number is given twice, so a party that is done for stays so, and whatever it still has to say is
stale.

* `befalls_failure`, `blamed_of_failure` -- every failure has one party to blame, and only one.
* `Upshot.parties`, `brought_once` -- every party is brought up once.
* `done_of_blame`, `Done.unblamed` -- a party that was blamed is done for, and is blamed no more.
* `failures_counted_once` -- the count of failures, party by party.
-/
import Tether.Proofs.Session.Replies
import Tether.Proofs.Session.Tally
import Tether.Proofs.Session.Tenure
import Tether.Proofs.Session.Timeline

set_option autoImplicit false

namespace Tether

/-- What a session brings up, and what can fail it. -/
inductive Party
  | transport (number : Nat)
  | request (attempt : Nat)
deriving DecidableEq

def Input.party : Input → Option Party
  | .transport number _ => some (.transport number)
  | .resolved attempt _ _ => some (.request attempt)
  | _ => none

def Effect.party : Effect → Option Party
  | .open link => some (.transport link.number)
  | .request attempt _ _ => some (.request attempt)
  | _ => none

namespace Session

def Beat.parties (beat : Beat) : List Party := beat.effects.filterMap Effect.party

/-- A failure is the fault of the transport in use, or of the request that it ends. -/
def Beat.Blames (beat : Beat) : Party → Prop
  | .transport number =>
      beat.befell = some .failure ∧ beat.before.active.map (·.number) = some number
  | .request attempt =>
      beat.befell = some .failure ∧ ∃ manual, beat.turn.input = .resolved attempt manual none

theorem Beat.Blames.failure {beat : Beat} {party : Party} (blames : beat.Blames party) :
    beat.befell = some .failure := by
  cases party with
  | transport number => exact blames.1
  | request attempt => exact blames.1

def Done (past : List Beat) : Party → Prop
  | .transport number => Retired past number
  | .request attempt => Over (log past) .request attempt

variable {config : SessionConfig} {past : List Beat} {s : Session} {turn : Turn} {party : Party}

/-! ## Who is to blame -/

/-- Only a session that is ready or has a transport in use can fail without a reply. -/
theorem befalls_failure {accepting : Bool} {input : Input}
    (befell : s.befalls accepting input = some .failure) :
    s.phase = .ready ∨ s.active.isSome = true ∨
      s.requesting = true ∧ ∃ manual, input = .resolved s.attempt manual none := by
  cases input with
  | init session token forced =>
      unfold befalls at befell
      dsimp only at befell
      split at befell <;> cases befell
  | send call task fields =>
      unfold befalls at befell
      dsimp only at befell
      split at befell
      · rename_i broken
        exact .inl broken.1
      · cases befell
  | reconnect =>
      unfold befalls at befell
      dsimp only at befell
      split at befell <;> cases befell
  | close => cases befell
  | expired timer ticket =>
      unfold befalls at befell
      dsimp only at befell
      split at befell
      · cases timer <;> cases befell
      · cases befell
  | resolved attempt manual reply =>
      unfold befalls at befell
      dsimp only at befell
      split at befell
      · rename_i current
        obtain ⟨rfl, requesting⟩ := current
        match reply with
        | none => exact .inr (.inr ⟨requesting, manual, rfl⟩)
        | some .refresh => cases befell
        | some (.credentials session token) =>
            unfold Incident.ofReply at befell
            dsimp only at befell
            split at befell <;> cases befell
      · cases befell
  | transport number event =>
      unfold befalls at befell
      dsimp only at befell
      split at befell
      · rename_i own
        obtain ⟨link, used, -⟩ := Option.map_eq_some_iff.1 own
        exact .inr (.inl (Option.isSome_iff_exists.2 ⟨link, used⟩))
      · cases befell

/-- The reply to a request that failed comes while no transport is in use. -/
theorem failed_request {accepting : Bool} {attempt : Nat} {manual : Bool}
    (life : Life config past s)
    (befell : s.befalls accepting (.resolved attempt manual none) = some .failure) :
    attempt = s.attempt ∧ s.requesting = true ∧ s.active = none := by
  unfold befalls at befell
  dsimp only at befell
  split at befell
  · rename_i current
    obtain ⟨same, requesting⟩ := current
    have waiting := (arranged_reconnecting (life.requests requesting).2).1 life.coherent.arranged
    exact ⟨same, requesting, waiting.active⟩
  · cases befell

/-- Every failure has one party to blame, and only one. -/
theorem blamed_of_failure (life : Life config past s)
    (failure : (s.beat config turn).befell = some .failure) :
    ∃! party, (s.beat config turn).Blames party := by
  have befell := (befell_some failure).2
  cases used : s.active with
  | some link =>
      refine ⟨.transport link.number, ⟨failure, ?_⟩, fun other blames => ?_⟩
      · show s.active.map (·.number) = some link.number
        rw [used]
        rfl
      · cases other with
        | transport number =>
            have same : s.active.map (·.number) = some number := blames.2
            rw [used] at same
            exact congrArg Party.transport (Option.some.inj same).symm
        | request attempt =>
            obtain ⟨-, manual, replied⟩ := blames
            rw [replied] at befell
            cases used.symm.trans (failed_request life befell).2.2
  | none =>
      have unready : s.phase ≠ .ready := by
        intro ready
        have serving := ((arranged_ready ready).1 life.coherent.arranged).active
        rw [used] at serving
        cases serving
      rcases befalls_failure befell with ready | busy | ⟨-, manual, replied⟩
      · exact absurd ready unready
      · have busy : s.active.isSome = true := busy
        rw [used] at busy
        cases busy
      · refine ⟨.request s.attempt, ⟨failure, manual, replied⟩, fun other blames => ?_⟩
        cases other with
        | transport number =>
            have same : s.active.map (·.number) = some number := blames.2
            rw [used] at same
            cases same
        | request attempt =>
            obtain ⟨-, flag, again⟩ := blames
            have input : Input.resolved s.attempt manual none = .resolved attempt flag none :=
              replied.symm.trans again
            cases input
            rfl

/-! ## How parties come and go -/

/-- Giving transports up brings up no party. -/
theorem parties_retirement (links : List Link) :
    (retirement links).filterMap Effect.party = [] := by
  induction links with
  | nil => rfl
  | cons link links ih => exact ih

theorem parties_marks (beat : Beat) :
    beat.parties = (marks beat.effects).filterMap Effect.party := by
  rw [Beat.parties, marks, List.filterMap_filter]
  refine congrArg (List.filterMap · beat.effects) (funext fun effect => ?_)
  cases bold : marked effect with
  | true => rfl
  | false =>
      cases effect <;> first | rfl | cases bold

theorem Anew.parties {setup : Setup} {forced : Bool} {v w : Footing} {given : List Effect}
    (anew : Anew setup forced v w given) :
    given.filterMap Effect.party = [] ∨
      given.filterMap Effect.party = [.transport v.nextLink] := by
  cases anew with
  | now => exact .inr rfl
  | later =>
      rw [List.filterMap_append, parties_retirement]
      exact .inl rfl

/-- At most one party is brought up at a time, under the next number of its kind. -/
theorem Upshot.parties {setup : Setup} {v w : Footing} {incident : Option Incident}
    {given : List Effect} (upshot : Upshot setup v incident w given) :
    given.filterMap Effect.party = [] ∨
      given.filterMap Effect.party = [.transport v.nextLink] ∨
        given.filterMap Effect.party = [.request (v.attempt + 1)] := by
  cases upshot with
  | still | greet | idle | welcome | heard => exact .inl rfl
  | start anew => exact anew.parties.imp_right .inl
  | credentials _ anew => exact anew.parties.imp_right .inl
  | reuse _ _ _ anew => exact anew.parties.imp_right .inl
  | settled => exact .inr (.inl rfl)
  | request => exact .inr (.inr rfl)
  | reconnect =>
      rw [List.filterMap_append, parties_retirement]
      exact .inr (.inr rfl)
  | setBack | breach | giveUp =>
      rw [List.filterMap_append, parties_retirement]
      exact .inl rfl
  | beaten =>
      rw [List.filterMap_append, List.filterMap_append, parties_retirement, parties_retirement]
      exact .inl rfl
  | refresh | close => exact .inl (parties_retirement _)

/-- The numbers that were given are below those of the parties to come. -/
theorem life_numbered (life : Life config past s) (running : s.running = true)
    (brought : ∃ beat ∈ past, party ∈ beat.parties) :
    party ≠ .transport s.nextLink ∧ party ≠ .request (s.attempt + 1) := by
  obtain ⟨beat, member, brought⟩ := brought
  obtain ⟨effect, asked, same⟩ := List.mem_filterMap.1 brought
  have known : effect ∈ Session.asked past := List.mem_flatMap.2 ⟨beat, member, asked⟩
  have logged : .asked effect ∈ log past :=
    List.mem_flatMap.2 ⟨beat, member, List.mem_cons_of_mem _ (List.mem_map_of_mem asked)⟩
  cases effect with
  | «open» link =>
      cases same
      refine ⟨fun next => ?_, nofun⟩
      have less := (life_tenures life).known link known
      exact Nat.ne_of_lt less (Party.transport.inj next)
  | request attempt manual instanceId =>
      cases same
      refine ⟨nofun, fun next => ?_⟩
      have most : attempt ≤ s.attempt :=
        (life_ordered life running .request).latest _ logged attempt ⟨rfl, rfl⟩
      have same := Party.request.inj next
      omega
  | _ => cases same

/-- A party that is brought up was never brought up before. -/
theorem parties_new (life : Life config past s) (brought : party ∈ (s.beat config turn).parties) :
    ¬∃ earlier ∈ past, party ∈ earlier.parties := by
  intro before
  have running : s.running = true := by
    obtain ⟨effect, asked, -⟩ := List.mem_filterMap.1 brought
    exact running_of_effect asked
  obtain ⟨transport, request⟩ := life_numbered life running before
  rw [parties_marks] at brought
  rcases (beat_upshot life turn).parties with none_ | one | one
  · rw [none_] at brought
    cases brought
  · rw [one, List.mem_singleton] at brought
    exact transport brought
  · rw [one, List.mem_singleton] at brought
    exact request brought

/-- What is so of no beat once it was so of an earlier one is so of one beat at most. -/
theorem one_place {P : Beat → Prop} {past : List Beat}
    (apart : ∀ {i l : Nat} {early late : Beat}, past[i]? = some early → past[l]? = some late →
      P early → P late → ¬i < l)
    {j k : Nat} {one other : Beat} (first : past[j]? = some one) (second : past[k]? = some other)
    (holds : P one) (again : P other) : j = k := by
  have not_before := apart first second holds again
  have not_after := apart second first again holds
  omega

/-- Every party is brought up in one beat. -/
theorem brought_once (life : Life config past s) {j k : Nat} {one other : Beat}
    (first : past[j]? = some one) (second : past[k]? = some other) (brings : party ∈ one.parties)
    (again : party ∈ other.parties) : j = k := by
  refine one_place (P := fun beat => party ∈ beat.parties) ?_ first second brings again
  intro i l early late here there brings again before
  obtain ⟨life, same⟩ := life.at there
  rw [same] at again
  refine parties_new life again ⟨early, ?_, brings⟩
  exact List.mem_of_getElem? ((List.getElem?_take_of_lt before).trans here)

/-! ## A party that was blamed is done for -/

/-- A request that is under way was under way before, or is made now. -/
theorem Upshot.awaited {setup : Setup} {v w : Footing} {incident : Option Incident}
    {given : List Effect} (upshot : Upshot setup v incident w given)
    (requesting : w.requesting = true) :
    v.requesting = true ∧ w.attempt = v.attempt ∨
      ∃ manual instanceId, .request w.attempt manual instanceId ∈ given := by
  have renewed : ∀ {forced : Bool}, ¬Anew setup forced v w given := by
    intro forced anew
    cases anew <;> cases requesting
  cases upshot with
  | still | greet | welcome | heard | settled => exact .inl ⟨requesting, rfl⟩
  | reconnect => exact .inr ⟨_, _, List.mem_append_right _ (List.mem_singleton_self _)⟩
  | request => exact .inr ⟨_, _, List.mem_singleton_self _⟩
  | start anew => exact absurd anew renewed
  | credentials _ anew => exact absurd anew renewed
  | reuse _ _ _ anew => exact absurd anew renewed
  | idle | setBack | beaten | breach | refresh | giveUp | close => cases requesting

/-- The request under way was made. -/
theorem life_asked (life : Life config past s) (requesting : s.requesting = true) :
    ∃ manual instanceId, .request s.attempt manual instanceId ∈ asked past := by
  induction life with
  | fresh => cases requesting
  | @beat past s life turn ih =>
      rw [asked_concat]
      rcases (beat_upshot life turn).awaited requesting with ⟨before, same⟩ | ⟨manual, id, made⟩
      · obtain ⟨manual, id, made⟩ := ih before
        refine ⟨manual, id, List.mem_append_left _ ?_⟩
        rw [show (s.beat config turn).after.attempt = s.attempt from same]
        exact made
      · exact ⟨manual, id, List.mem_append_right _ ((mem_marks rfl).1 made)⟩

/-- The transport in use goes with a failure. -/
theorem Upshot.abandons {setup : Setup} {v w : Footing} {given : List Effect}
    (upshot : Upshot setup v (some .failure) w given) {link : Link} (used : v.active = some link) :
    .retire link.number ∈ given := by
  have gone := mem_retirement.2 ⟨link, ousted_of_active used, rfl⟩
  cases upshot with
  | setBack => exact List.mem_append_left _ gone
  | beaten => exact List.mem_append_left _ gone

/-- A request that is made, and whose reply is taken in later, has had its end. -/
theorem over_of_reply {first : List Beat} {reply : Beat} {attempt : Nat} {manual : Bool}
    {instanceId : InstanceId} (made : .request attempt manual instanceId ∈ asked first)
    (answers : reply.turn.input.party = some (.request attempt)) :
    Over (log (first ++ [reply])) .request attempt := by
  obtain ⟨beat, member, given⟩ := List.mem_flatMap.1 made
  have begun : .asked (.request attempt manual instanceId) ∈ log first :=
    List.mem_flatMap.2 ⟨beat, member, List.mem_cons_of_mem _ (List.mem_map_of_mem given)⟩
  have ended : Entry.Ends .request attempt (.taken reply.turn.input) := by
    generalize reply.turn.input = input at answers
    cases input <;> cases answers
    rfl
  refine ⟨.asked (.request attempt manual instanceId), _, ⟨rfl, rfl⟩, ended, ?_⟩
  rw [log_concat, List.append_assoc]
  exact (List.singleton_sublist.2 begun).append
    (List.singleton_sublist.2 (List.mem_append_left _ (List.mem_singleton_self _)))

theorem Done.append (done : Done past party) (more : List Beat) : Done (past ++ more) party := by
  cases party with
  | transport number =>
      obtain ⟨beat, member, given⟩ := done
      exact ⟨beat, List.mem_append_left _ member, given⟩
  | request attempt =>
      show Over (log (past ++ more)) .request attempt
      rw [log, List.flatMap_append]
      exact Over.mono done _

/-- A party that was blamed is done for. -/
theorem done_of_blame (life : Life config past s) (blames : (s.beat config turn).Blames party) :
    Done (past ++ [s.beat config turn]) party := by
  have upshot := beat_upshot life turn
  rw [blames.failure] at upshot
  cases party with
  | transport number =>
      obtain ⟨link, used, rfl⟩ := Option.map_eq_some_iff.1 blames.2
      have gone := (mem_marks rfl).1 (upshot.abandons used)
      exact ⟨_, List.mem_append_right _ (List.mem_singleton_self _), gone⟩
  | request attempt =>
      obtain ⟨failure, manual, replied⟩ := blames
      have befell := (befell_some failure).2
      rw [replied] at befell
      obtain ⟨rfl, requesting, -⟩ := failed_request life befell
      obtain ⟨flag, instanceId, made⟩ := life_asked life requesting
      refine over_of_reply made ?_
      rw [replied]
      rfl

/-- What a party that is done for has to say is stale. -/
theorem Done.stale (life : Life config past s) (done : Done past party)
    (speaks : turn.input.party = some party) : Stale past s turn.input := by
  generalize turn.input = input at speaks
  cases input with
  | transport number event =>
      cases speaks
      exact retired_unused life done
  | resolved attempt manual reply =>
      cases speaks
      exact done
  | _ => cases speaks

/-- A party that is done for is blamed no more. -/
theorem Done.unblamed (life : Life config past s) (done : Done past party) :
    ¬(s.beat config turn).Blames party := by
  intro blames
  cases party with
  | transport number => exact retired_unused life done blames.2
  | request attempt =>
      obtain ⟨failure, manual, replied⟩ := blames
      obtain ⟨running, befell⟩ := befell_some failure
      rw [replied] at befell
      obtain ⟨rfl, requesting, -⟩ := failed_request life befell
      have idle := (life_ordered life running .request).finished _ done rfl
      cases idle.symm.trans requesting

/-- A party that is to blame was brought up before. -/
theorem brought_of_blame (life : Life config past s) (blames : (s.beat config turn).Blames party) :
    ∃ earlier ∈ past, party ∈ earlier.parties := by
  have brought : ∀ effect ∈ asked past, effect.party = some party →
      ∃ earlier ∈ past, party ∈ earlier.parties := by
    intro effect made same
    obtain ⟨earlier, member, given⟩ := List.mem_flatMap.1 made
    exact ⟨earlier, member, List.mem_filterMap.2 ⟨effect, given, same⟩⟩
  cases party with
  | transport number =>
      obtain ⟨link, used, rfl⟩ := Option.map_eq_some_iff.1 blames.2
      exact brought _ ((life_tenures life).serving link used) rfl
  | request attempt =>
      obtain ⟨failure, manual, replied⟩ := blames
      have befell := (befell_some failure).2
      rw [replied] at befell
      obtain ⟨rfl, requesting, -⟩ := failed_request life befell
      obtain ⟨flag, instanceId, made⟩ := life_asked life requesting
      exact brought _ made rfl

theorem Done.later {k later : Nat} (done : Done (past.take (k + 1)) party) (after : k < later) :
    Done (past.take later) party := by
  have upto : (past.take later).take (k + 1) = past.take (k + 1) := by
    rw [List.take_take, Nat.min_eq_left after]
  rw [← List.take_append_drop (k + 1) (past.take later), upto]
  exact done.append _

/-- The parties blamed up to a beat are done for from then on. -/
theorem Life.done {k later : Nat} (life : Life config past s) {beat : Beat}
    (here : past[k]? = some beat) (blames : beat.Blames party) (after : k < later) :
    Done (past.take later) party := by
  obtain ⟨before, same⟩ := life.at here
  rw [same] at blames
  have done := done_of_blame before blames
  rw [← same] at done
  have upto : past.take (k + 1) = past.take k ++ [beat] := by
    rw [List.take_add_one, here]
    rfl
  rw [← upto] at done
  exact done.later after

/-- A party is to blame for one failure. -/
theorem blamed_once (life : Life config past s) {j k : Nat} {one other : Beat}
    (first : past[j]? = some one) (second : past[k]? = some other) (blames : one.Blames party)
    (again : other.Blames party) : j = k := by
  refine one_place (P := fun beat => beat.Blames party) ?_ first second blames again
  intro i l early late here there blames again before
  obtain ⟨earlier, same⟩ := life.at there
  rw [same] at again
  exact (life.done here blames before).unblamed earlier again

/-- **Each failure is counted once.**  The count goes up by one with every failure; otherwise it
stays, or starts over.  Every failure is the fault of one party, and of no other: the transport in
use, or the request that it ends.  That party was brought up in one earlier beat.  It is to blame
for no other failure, and whatever it says later changes nothing and asks for nothing, however it
gets to the session. -/
theorem failures_counted_once (config : SessionConfig) (turns : List Turn) :
    (∀ beat ∈ history config turns,
      beat.after.failures =
        if beat.befell = some .failure then beat.before.failures + 1
        else if beat.resets = true then 0 else beat.before.failures) ∧
    (∀ beat ∈ history config turns, beat.befell = some .failure →
      ∃! party, beat.Blames party) ∧
    (∀ (k : Nat) beat party, (history config turns)[k]? = some beat → beat.Blames party →
      (∃ j < k, ∃ earlier, (history config turns)[j]? = some earlier ∧ party ∈ earlier.parties ∧
        ∀ (i : Nat) other, (history config turns)[i]? = some other → party ∈ other.parties →
          i = j) ∧
      (∀ (i : Nat) other, (history config turns)[i]? = some other → other.Blames party → i = k) ∧
      ∀ (later : Nat) other, k < later → (history config turns)[later]? = some other →
        other.turn.input.party = some party → other.after = other.before ∧ other.effects = []) := by
  have life := life_of config turns
  refine ⟨?_, ?_, ?_⟩
  · intro beat member
    obtain ⟨k, here⟩ := List.mem_iff_getElem?.1 member
    have upshot := life.upshot here
    split
    · rename_i failure
      rw [failure] at upshot
      exact upshot.failure.2.1
    · rename_i other
      exact upshot.uncounted other
  · intro beat member failure
    obtain ⟨k, here⟩ := List.mem_iff_getElem?.1 member
    obtain ⟨before, same⟩ := life.at here
    rw [same] at failure ⊢
    exact blamed_of_failure before failure
  · intro k beat party here blames
    refine ⟨?_, fun i other there again => blamed_once life there here again blames, ?_⟩
    · obtain ⟨before, same⟩ := life.at here
      rw [same] at blames
      obtain ⟨earlier, member, brings⟩ := brought_of_blame before blames
      obtain ⟨j, there⟩ := List.mem_iff_getElem?.1 member
      obtain ⟨early, there⟩ : j < k ∧ (history config turns)[j]? = some earlier := by
        rw [List.getElem?_take] at there
        split at there
        · exact ⟨‹_›, there⟩
        · cases there
      exact ⟨j, early, earlier, there, brings, fun i other also again =>
        brought_once life also there again brings⟩
    · intro later other after there speaks
      obtain ⟨before, same⟩ := life.at there
      -- Whoever is blamed is given up at once, and so goes unheard from then on.
      have stale := (life.done here blames after).stale before speaks
      rw [same]
      exact beat_stale before stale

/-- A transport does not take the answer to a ping, and then it closes, errs and closes again. -/
example :
    (reached {}
      [{ input := .init ⟨"S1"⟩ ⟨"T1"⟩ false }, { input := .transport 0 .opened },
        { input := .transport 0 (.message "I1&K0") },
        { input := .transport 0 (.message "K1&ping"), accepting := false },
        { input := .transport 0 .closed }, { input := .transport 0 .failed },
        { input := .transport 0 .closed }]).failures = 1 := by
  decide +kernel

end Session

end Tether
