/-
# Tether.Proofs.Session.Echoes -- replies say what their requests said

A request goes out with the number of an attempt and with word of whose it is, and its reply
brings both back.  The session checks the number and takes the rest on trust, so the verdicts of a
run are right if the replies are (`Echoing`).

In a rehearsal they are.  The surroundings keep a list of the requests that were made, and every
reply that waits for the session was drawn up from an entry of it (`Backed`).  Two requests of one
number are the same request, so there is one thing only that a reply can say.

* `asked_alike` -- requests with one number are all the user's, or none is.
* `Echoing.beat` -- a reply that goes back to a request echoes all of them.
* `Echoed.tick`, `Echoed.act` -- every tick and every command leaves the replies backed.
* `echoing_of_plays` -- the session of a rehearsal has lived through a run that echoes, and the
  user was shown what that run shows.
-/
import Tether.Proofs.Session.Rehearsed
import Tether.Proofs.Session.Verdicts

set_option autoImplicit false

namespace Tether

def Effect.shown : Effect → Option Feedback
  | .show feedback => some feedback
  | _ => none

/-- A reply goes back to one of the requests in `made`. -/
def Input.Backed (made : List Effect) : Input → Prop
  | .resolved attempt manual _ => ∃ instanceId, .request attempt manual instanceId ∈ made
  | _ => True

theorem Input.Backed.mono {made more : List Effect} {input : Input} (backed : input.Backed made)
    (kept : made ⊆ more) : input.Backed more := by
  cases input with
  | resolved attempt manual reply => exact backed.imp fun _ member => kept member
  | _ => trivial

/-! ## One number, one request -/

namespace Session

variable {config : SessionConfig} {past : List Beat} {s : Session} {attempt : Nat}

theorem asked_alike (life : Life config past s) {manual flag : Bool}
    {instanceId other : InstanceId} (made : .request attempt manual instanceId ∈ asked past)
    (remade : .request attempt flag other ∈ asked past) : manual = flag := by
  obtain ⟨one, member, given⟩ := List.mem_flatMap.1 made
  obtain ⟨two, remember, again⟩ := List.mem_flatMap.1 remade
  obtain ⟨j, here⟩ := List.mem_iff_getElem?.1 member
  obtain ⟨k, there⟩ := List.mem_iff_getElem?.1 remember
  have brings : Party.request attempt ∈ one.parties := List.mem_filterMap.2 ⟨_, given, rfl⟩
  have rebrings : Party.request attempt ∈ two.parties := List.mem_filterMap.2 ⟨_, again, rfl⟩
  obtain rfl := brought_once life here there brings rebrings
  obtain rfl : one = two := Option.some.inj (here.symm.trans there)
  have called := ((life.upshot here).requests ((mem_marks rfl).2 given)).2
  have recalled := ((life.upshot here).requests ((mem_marks rfl).2 again)).2
  exact Bool.eq_iff_iff.2 (called.trans recalled.symm)

theorem Echoing.beat (life : Life config past s) (echoing : Echoing past) {turn : Turn}
    (backed : turn.input.Backed (asked past)) : Echoing (past ++ [s.beat config turn]) := by
  refine List.pairwise_append.2 ⟨echoing, List.pairwise_singleton .., ?_⟩
  intro earlier member later last effect given
  obtain rfl := List.mem_singleton.1 last
  change turn.input.echoes effect = true
  cases input : turn.input with
  | resolved attempt manual reply =>
      rw [input] at backed
      obtain ⟨instanceId, made⟩ := backed
      cases effect with
      | request number flag other =>
          have before : .request number flag other ∈ asked past :=
            List.mem_flatMap.2 ⟨earlier, member, given⟩
          by_cases same : attempt = number
          · rw [← same] at before
            have alike := asked_alike life made before
            simp [Input.echoes, alike]
          · simp [Input.echoes, same]
      | _ => rfl
  | _ => rfl

end Session

namespace Rehearsal

open Session

/-! ## What waits is backed -/

/-- Every reply that waits, or is still to come, goes back to one of the requests in `made`. -/
structure Backed (made : List Effect) (r : Rehearsal) : Prop where
  inbox : ∀ input ∈ r.inbox, input.Backed made
  results : ∀ result ∈ r.results, result.Backed made
  requests : ∀ request ∈ r.requests,
    ∃ instanceId, .request request.attempt request.manual instanceId ∈ made

section Waiting

variable {made : List Effect} {r : Rehearsal}

theorem Backed.mono {more : List Effect} (backed : r.Backed made) (kept : made ⊆ more) :
    r.Backed more where
  inbox input member := (backed.inbox input member).mono kept
  results result member := (backed.results result member).mono kept
  requests request member := (backed.requests request member).imp fun _ asked => kept asked

theorem Backed.arrive (backed : r.Backed made) {input : Input} (back : input.Backed made) :
    Backed made { r with inbox := r.inbox ++ [input] } where
  inbox other member := by
    rcases List.mem_append.1 member with old | new
    · exact backed.inbox other old
    · rw [List.mem_singleton.1 new]
      exact back
  results := backed.results
  requests := backed.requests

/-- What an effect leaves waiting is backed, if the effect is one of those made. -/
theorem Backed.absorb (backed : r.Backed made) {effect : Effect} (member : effect ∈ made) :
    (r.absorb effect).Backed made := by
  obtain ⟨inbox, results, requests⟩ := backed
  cases effect with
  | request attempt manual instanceId =>
      have listed : ∀ waiting, ∀ request ∈ r.requests ++ [⟨attempt, manual, waiting, true⟩],
          ∃ instanceId, .request request.attempt request.manual instanceId ∈ made := by
        intro waiting request listed
        rcases List.mem_append.1 listed with old | new
        · exact requests request old
        · rw [List.mem_singleton.1 new]
          exact ⟨instanceId, member⟩
      unfold Rehearsal.absorb
      dsimp only
      split
      · refine ⟨inbox, fun result waits => ?_, listed false⟩
        rcases List.mem_append.1 waits with old | new
        · exact results result old
        · rw [List.mem_singleton.1 new]
          exact ⟨instanceId, member⟩
      · exact ⟨inbox, results, listed true⟩
  | abandon attempt =>
      refine ⟨inbox, results, fun request listed => ?_⟩
      obtain ⟨before, old, rfl⟩ := List.mem_map.1 listed
      split <;> exact requests before old
  | event event =>
      unfold Rehearsal.absorb
      dsimp only
      split <;> exact ⟨inbox, results, requests⟩
  | _ => exact ⟨inbox, results, requests⟩

theorem Backed.foldl {effects : List Effect} (backed : r.Backed made) (members : effects ⊆ made) :
    (effects.foldl Rehearsal.absorb r).Backed made := by
  induction effects generalizing r with
  | nil => exact backed
  | cons effect effects ih =>
      obtain ⟨member, others⟩ := List.cons_subset.1 members
      exact ih (backed.absorb member) others

end Waiting

theorem absorb_shown (r : Rehearsal) (effect : Effect) :
    (r.absorb effect).record.shown = r.record.shown ++ effect.shown.toList := by
  cases effect with
  | «show» feedback => rfl
  | request attempt manual instanceId =>
      unfold absorb
      dsimp only
      split <;> exact (List.append_nil _).symm
  | event event =>
      unfold absorb
      dsimp only
      split <;> exact (List.append_nil _).symm
  | _ => exact (List.append_nil _).symm

theorem foldl_absorb_shown (r : Rehearsal) (effects : List Effect) :
    (effects.foldl absorb r).record.shown =
      r.record.shown ++ effects.filterMap Effect.shown := by
  induction effects generalizing r with
  | nil => exact (List.append_nil _).symm
  | cons effect effects ih =>
      rw [List.foldl_cons, ih, absorb_shown, List.append_assoc]
      cases shown : effect.shown <;> simp [shown]

/-! ## Every rehearsal echoes -/

/-- The session has lived through `turns`, whose replies echo, and the user was shown what they
show. -/
structure Echoed (setup : Setup) (turns : List Turn) (r : Rehearsal) : Prop where
  same : r.setup = setup
  reached : r.session = reached setup.config turns
  echoing : Echoing (history setup.config turns)
  backed : r.Backed (asked (history setup.config turns))
  shown : r.record.shown = (asked (history setup.config turns)).filterMap Effect.shown

section Steps

variable {setup : Setup} {turns : List Turn} {r after : Rehearsal} {limit : Nat}

theorem Echoed.handle (echoed : Echoed setup turns r) {input : Input} {rest : List Input}
    (first : r.inbox = input :: rest) :
    ∃ later, Echoed setup later ({ r with inbox := rest }.handle input) := by
  obtain ⟨rfl, reached, echoing, backed, shown⟩ := echoed
  let turn := Rehearsal.turn { r with inbox := rest } input
  let beat := r.session.beat r.setup.config turn
  have whole : { r with inbox := rest }.handle input =
      beat.effects.foldl absorb { r with inbox := rest, session := beat.after } := rfl
  have longer : history r.setup.config (turns ++ [turn]) =
      history r.setup.config turns ++ [beat] := by
    rw [history_concat, ← reached]
  have more : asked (history r.setup.config (turns ++ [turn])) =
      asked (history r.setup.config turns) ++ beat.effects := by
    rw [longer, asked_concat]
  have ready : Backed (asked (history r.setup.config turns))
      { r with inbox := rest, session := beat.after } := by
    refine ⟨fun other member => backed.inbox other ?_, backed.results, backed.requests⟩
    rw [first]
    exact List.mem_cons_of_mem _ member
  obtain ⟨scene, setup⟩ := foldl_absorb_scene
    { r with inbox := rest, session := beat.after } beat.effects
  refine ⟨turns ++ [turn], setup, ?_, ?_, ?_, ?_⟩
  · rw [reached_concat, ← reached]
    exact congrArg Scene.session scene
  · have life := life_of r.setup.config turns
    rw [← reached] at life
    rw [longer]
    exact echoing.beat life (backed.inbox input (by rw [first]; exact List.mem_cons_self ..))
  · rw [whole, more]
    exact (ready.mono (List.subset_append_left ..)).foldl (List.subset_append_right ..)
  · rw [whole, foldl_absorb_shown, more, List.filterMap_append, ← shown]

/-- What neither the session nor the user sees only has to be backed. -/
theorem Echoed.other (echoed : Echoed setup turns r) (unchanged : after.setup = r.setup)
    (session : after.session = r.session) (shown : after.record = r.record)
    (backed : after.Backed (asked (history setup.config turns))) : Echoed setup turns after where
  same := unchanged.trans echoed.same
  reached := session.trans echoed.reached
  echoing := echoed.echoing
  backed := backed
  shown := by rw [shown, echoed.shown]

theorem Echoed.tick (echoed : Echoed setup turns r) (ticks : r.tick limit = some after) :
    ∃ later, Echoed setup later after := by
  obtain ⟨inbox, results, requests⟩ := echoed.backed
  cases ticked_of_tick ticks with
  | handle first => exact echoed.handle first
  | @answer result rest idle waits =>
      rw [waits] at results
      refine ⟨turns, echoed.other rfl rfl rfl ⟨?_, ?_, requests⟩⟩
      · intro input member
        rw [List.mem_singleton.1 member]
        exact results result (List.mem_cons_self ..)
      · exact fun other member => results other (List.mem_cons_of_mem _ member)
  | ring =>
      refine ⟨turns, echoed.other rfl rfl rfl ⟨?_, results, requests⟩⟩
      intro input member
      rw [List.mem_singleton.1 member]
      trivial

theorem Echoed.runUntil (echoed : Echoed setup turns r) (limit : Nat) :
    ∃ later, Echoed setup later (r.runUntil limit) :=
  runFor_keeps (P := fun r => ∃ turns, Echoed setup turns r)
    (fun _ _ ⟨_, before⟩ ticks => before.tick ticks) r.work ⟨turns, echoed⟩

theorem Echoed.arrive (echoed : Echoed setup turns r) {input : Input}
    (back : ∀ made, input.Backed made) :
    Echoed setup turns { r with inbox := r.inbox ++ [input] } :=
  echoed.other rfl rfl rfl (echoed.backed.arrive (back _))

theorem Echoed.submit (echoed : Echoed setup turns r) {input : Input}
    (back : ∀ made, input.Backed made) : Echoed setup turns (r.submit input).1 := by
  unfold Rehearsal.submit
  split
  · exact echoed.arrive back
  · exact echoed

theorem Echoed.fire (echoed : Echoed setup turns r) (transport : Option Nat)
    (change : Puppet → Puppet) (event : TransportEvent) :
    Echoed setup turns (r.fire transport change event).1 := by
  obtain ⟨inbox, results, requests⟩ := echoed.backed
  unfold Rehearsal.fire
  dsimp only
  split
  · exact echoed
  · dsimp only
    split
    · have back : ∀ made, (Input.transport (r.target transport) event).Backed made :=
        fun _ => trivial
      have arrived := echoed.arrive back
      exact arrived.other rfl rfl rfl ⟨arrived.backed.inbox, results, requests⟩
    · exact echoed.other rfl rfl rfl ⟨inbox, results, requests⟩

theorem Echoed.act (echoed : Echoed setup turns r) (command : Command) :
    ∃ later, Echoed setup later (r.act command).1 := by
  obtain ⟨inbox, results, requests⟩ := echoed.backed
  cases command with
  | init | reconnect | close => exact ⟨turns, echoed.submit fun _ => trivial⟩
  | send task fields =>
      refine ⟨turns, ?_⟩
      unfold Rehearsal.act
      dsimp only
      split
      · have back : ∀ made, (Input.send r.calls task fields).Backed made := fun _ => trivial
        have arrived := echoed.arrive back
        exact arrived.other rfl rfl rfl ⟨arrived.backed.inbox, results, requests⟩
      · exact echoed
  | opened | message | down | breakDown => exact ⟨turns, echoed.fire ..⟩
  | force transport event =>
      refine ⟨turns, ?_⟩
      unfold Rehearsal.act
      dsimp only
      split
      · split
        · exact echoed.arrive fun _ => trivial
        · exact echoed
      · exact echoed
  | prepare | dropEvents =>
      exact ⟨turns, echoed.other rfl rfl rfl ⟨inbox, results, requests⟩⟩
  | resolve number reply =>
      refine ⟨turns, ?_⟩
      unfold Rehearsal.act
      dsimp only
      split
      · rename_i request listed
        have told : Echoed setup turns
            { r with requests := r.requests.set number { request with waiting := false } } := by
          refine echoed.other rfl rfl rfl ⟨inbox, results, fun entry member => ?_⟩
          rcases List.mem_or_eq_of_mem_set member with old | rfl
          · exact requests entry old
          · exact requests request (List.mem_of_getElem? listed)
        split
        · split
          · refine told.other rfl rfl rfl ⟨inbox, fun result member => ?_, told.backed.requests⟩
            rcases List.mem_append.1 member with old | new
            · exact results result old
            · rw [List.mem_singleton.1 new]
              exact requests request (List.mem_of_getElem? listed)
          · exact told
        · exact echoed
      · exact echoed
  | advance ms =>
      obtain ⟨later, echoed⟩ := echoed.runUntil (r.clock.now + ms)
      obtain ⟨inbox, results, requests⟩ := echoed.backed
      exact ⟨later, echoed.other rfl rfl rfl ⟨inbox, results, requests⟩⟩

theorem Echoed.actAll (echoed : Echoed setup turns r) (commands : List Command) :
    ∃ later, Echoed setup later (r.actAll commands).1 := by
  induction commands generalizing r turns with
  | nil => exact ⟨turns, echoed⟩
  | cons command commands ih =>
      obtain ⟨later, next⟩ := echoed.act command
      exact ih next

end Steps

/-- **In every rehearsal the replies say what the requests said.**  The session has lived through a
run that echoes, and the user was shown what that run shows. -/
theorem echoing_of_plays (setup : Setup) (batches : List (List Command)) :
    ∃ turns, Echoing (history setup.config turns) ∧
      (plays setup batches).session = reached setup.config turns ∧
        (plays setup batches).record.shown =
          (asked (history setup.config turns)).filterMap Effect.shown := by
  suffices kept : ∀ r turns, Echoed setup turns r →
      ∃ later, Echoed setup later (batches.foldl (fun r commands => (r.play commands).1) r) by
    obtain ⟨turns, echoed⟩ := kept { setup := setup } []
      ⟨rfl, rfl, List.Pairwise.nil, ⟨by simp, by simp, by simp⟩, rfl⟩
    exact ⟨turns, echoed.echoing, echoed.reached, echoed.shown⟩
  induction batches with
  | nil => exact fun r turns echoed => ⟨turns, echoed⟩
  | cons commands batches ih =>
      intro r turns echoed
      obtain ⟨queued, after⟩ := echoed.actAll commands
      obtain ⟨later, calmed⟩ := after.runUntil (r.actAll commands).1.clock.now
      exact ih _ later calmed

end Rehearsal

end Tether
