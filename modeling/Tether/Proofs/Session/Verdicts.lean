/-
# Tether.Proofs.Session.Verdicts -- whose attempt the user is told of

The user asks to reconnect, and is told how that went.  Between the call and the outcome lie the
request that it makes, the reply, the settle delay and a handshake, and of all this the session
remembers one mark.

    call -- request -- reply -- credentials -- transport -- outcome

Here every verdict is traced back to a call, one for each: to a call that was refused, to the
request that a call made, or to the credentials that its reply brought (`Reports`).  Retries get no
verdict, for the failure that they follow has taken the mark off.

A start of the application's ends the attempt under way, but not the mark.  So when it comes after
the reply, the verdict that the user waits for tells of the attempt that the application started
(`Usurps`).

* `life_calls`, `Calls.requests` -- a call is known by the number of its request.
* `Beat.Decides` -- a beat ends the attempt that some credentials started.
* `concerns_of_owned`, `Concerns.owned` -- the mark stands for a call.
* `one_call`, `one_verdict` -- no verdict is on two calls, and no call gets two.
* `verdicts_reported` -- the verdicts of any run.
-/
import Tether.Proofs.Session.Blame
import Tether.Proofs.Session.Origins

set_option autoImplicit false

namespace Tether

/-- A reply says of its attempt whose it is, as the request did. -/
def Input.echoes : Input → Effect → Bool
  | .resolved attempt manual _, .request number asked _ => attempt != number || manual == asked
  | _, _ => true

namespace Session

/-- Replies say what the requests before them did.  The session takes that on trust; the replies of
a rehearsal do. -/
def Echoing (past : List Beat) : Prop :=
  past.Pairwise fun earlier later =>
    ∀ effect ∈ earlier.effects, later.turn.input.echoes effect = true

instance (past : List Beat) : Decidable (Echoing past) :=
  inferInstanceAs (Decidable (past.Pairwise _))

/-- The turn at `call` is a call of the user's, and makes request `attempt`. -/
def Calls (past : List Beat) (call attempt : Nat) : Prop :=
  ∃ beat, past[call]? = some beat ∧ beat.befell = some .reconnect ∧ beat.after.attempt = attempt

/-- The attempt on transport `number` comes out: its handshake succeeds, or it fails. -/
def Beat.Concludes (beat : Beat) (number : Nat) : Bool → Prop
  | true =>
      (∃ instanceId, beat.befell = some (.welcome instanceId)) ∧
        beat.before.active.map (·.number) = some number
  | false => beat.Blames (.transport number)

/-- The attempt that `origin` started comes out in `beat`: `origin` brought credentials, `later`
brought no others, and the transport was opened with them. -/
structure Beat.Decides (beat origin : Beat) (later : List Beat) (outcome : Bool) : Prop where
  brought : origin.delivered ≠ none
  only : ∀ other ∈ later, other.delivered = none
  concludes : ∃ link, .open link ∈ asked (origin :: later) ∧ beat.Concludes link.number outcome

/-- In `beat` the user is told `outcome` of the attempt that the turn at `call` started. -/
inductive Reports (past : List Beat) (beat : Beat) (call : Nat) : Bool → Prop
  /-- There is no instance to ask for. -/
  | refused (last : call = past.length) (refused : beat.refuses = true) :
      Reports past beat call false
  /-- The request of the call fails. -/
  | unanswered {attempt : Nat} (calls : Calls past call attempt)
      (blames : beat.Blames (.request attempt)) : Reports past beat call false
  /-- The reply brought credentials, and the attempt that they started comes out. -/
  | concluded {attempt : Nat} {first since : List Beat} {reply : Beat} {outcome : Bool}
      (stands : Stands past first reply since attempt) (calls : Calls first call attempt)
      (decides : beat.Decides reply since outcome) : Reports past beat call outcome

/-- In `beat` the user is told `outcome` of an attempt that the application started, after the
reply to the turn at `call` had brought credentials. -/
inductive Usurps (past : List Beat) (beat : Beat) (call : Nat) (outcome : Bool) : Prop
  | superseded {attempt : Nat} {first early late : List Beat} {reply start : Beat} {forced : Bool}
      (stands : Stands past first reply (early ++ start :: late) attempt)
      (calls : Calls first call attempt) (starts : start.befell = some (.start forced))
      (decides : beat.Decides start late outcome)

/-- The verdict in `beat` is on the turn at `call`. -/
def Concerns (past : List Beat) (beat : Beat) (call : Nat) (outcome : Bool) : Prop :=
  Reports past beat call outcome ∨ Usurps past beat call outcome

variable {config : SessionConfig} {past : List Beat} {s : Session} {turn : Turn} {beat : Beat}
  {attempt call other : Nat} {outcome : Bool}

/-! ## Calls and their requests -/

theorem Anew.unasked {setup : Setup} {forced manual : Bool} {v w : Footing} {given : List Effect}
    {instanceId : InstanceId} (anew : Anew setup forced v w given) :
    .request attempt manual instanceId ∉ given := by
  cases anew with
  | now => simp
  | later => simp [retirement]

/-- A request is the one under way from then on, and the user's if and only if a call made it. -/
theorem Upshot.requests {setup : Setup} {v w : Footing} {incident : Option Incident}
    {given : List Effect} (upshot : Upshot setup v incident w given) {manual : Bool}
    {instanceId : InstanceId} (made : .request attempt manual instanceId ∈ given) :
    w.attempt = attempt ∧ (manual = true ↔ incident = some .reconnect) := by
  cases upshot with
  | reconnect =>
      have last := (List.mem_append.1 made).resolve_left (by simp [retirement])
      cases List.mem_singleton.1 last
      exact ⟨rfl, iff_of_true rfl rfl⟩
  | request =>
      cases List.mem_singleton.1 made
      exact ⟨rfl, by simp⟩
  | start anew => exact absurd made anew.unasked
  | credentials _ anew => exact absurd made anew.unasked
  | reuse _ _ _ anew => exact absurd made anew.unasked
  | still | greet | idle | welcome | heard | settled => simp at made
  | setBack | beaten | breach | refresh | giveUp | close => simp [retirement, surrender] at made

/-- A request of the user's was made by a call. -/
theorem life_calls (life : Life config past s) {instanceId : InstanceId}
    (made : .request attempt true instanceId ∈ asked past) : ∃ call, Calls past call attempt := by
  obtain ⟨beat, member, given⟩ := List.mem_flatMap.1 made
  obtain ⟨call, here⟩ := List.mem_iff_getElem?.1 member
  obtain ⟨same, befell⟩ := (life.upshot here).requests ((mem_marks rfl).2 given)
  exact ⟨call, beat, here, befell.1 rfl, same⟩

theorem Upshot.calls {setup : Setup} {v w : Footing} {given : List Effect}
    (upshot : Upshot setup v (some .reconnect) w given) :
    ∃ instanceId, .request w.attempt true instanceId ∈ given := by
  cases upshot with
  | reconnect => exact ⟨_, List.mem_append_right _ (List.mem_singleton_self _)⟩

/-- And every call makes one. -/
theorem Calls.requests (life : Life config past s) (calls : Calls past call attempt) :
    ∃ caller, past[call]? = some caller ∧ caller.turn.input = .reconnect ∧
      ∃ instanceId, .request attempt true instanceId ∈ caller.effects := by
  obtain ⟨caller, here, befell, rfl⟩ := calls
  have upshot := life.upshot here
  have input : caller.turn.input = .reconnect := befalls_causes (befell_some befell).2
  rw [befell] at upshot
  obtain ⟨instanceId, made⟩ := upshot.calls
  exact ⟨caller, here, input, instanceId, (mem_marks rfl).1 made⟩

theorem Calls.asked (life : Life config past s) (calls : Calls past call attempt) :
    ∃ instanceId, .request attempt true instanceId ∈ asked past := by
  obtain ⟨caller, here, -, instanceId, made⟩ := calls.requests life
  exact ⟨instanceId, List.mem_flatMap.2 ⟨caller, List.mem_of_getElem? here, made⟩⟩

/-- No two calls make the same request. -/
theorem Calls.unique (life : Life config past s) (calls : Calls past call attempt)
    (again : Calls past other attempt) : call = other := by
  obtain ⟨one, here, -, _, made⟩ := calls.requests life
  obtain ⟨two, there, -, _, remade⟩ := again.requests life
  have brings : Party.request attempt ∈ one.parties := List.mem_filterMap.2 ⟨_, made, rfl⟩
  have again : Party.request attempt ∈ two.parties := List.mem_filterMap.2 ⟨_, remade, rfl⟩
  exact brought_once life here there brings again

theorem Calls.lt (calls : Calls past call attempt) : call < past.length := by
  obtain ⟨beat, here, -⟩ := calls
  exact (List.getElem?_eq_some_iff.1 here).1

theorem Calls.append (calls : Calls past call attempt) (more : List Beat) :
    Calls (past ++ more) call attempt := by
  have within := calls.lt
  obtain ⟨beat, here, called⟩ := calls
  refine ⟨beat, ?_, called⟩
  rw [List.getElem?_append_left within]
  exact here

/-! ## Replies -/

theorem Echoing.of_append {first rest : List Beat} (echoing : Echoing (first ++ rest)) :
    Echoing first := (List.pairwise_append.1 echoing).1

/-- A reply says whose attempt it is about as its request does. -/
theorem Echoing.same (echoing : Echoing (past ++ [beat])) {manual flag : Bool}
    {reply : Option ReconnectReply} {instanceId : InstanceId}
    (replied : beat.turn.input = .resolved attempt manual reply)
    (made : .request attempt flag instanceId ∈ asked past) : manual = flag := by
  obtain ⟨earlier, member, given⟩ := List.mem_flatMap.1 made
  have apart := (List.pairwise_append.1 echoing).2.2
  have echoes := apart earlier member beat (List.mem_singleton_self _) _ given
  rw [replied] at echoes
  simpa [Input.echoes] using echoes

/-- The reply to the request under way is to a call if it says so. -/
theorem replied_iff (life : Life config past s) (echoing : Echoing (past ++ [s.beat config turn]))
    (requesting : s.requesting = true) {manual : Bool} {reply : Option ReconnectReply}
    (replied : turn.input = .resolved s.attempt manual reply) :
    manual = true ↔ ∃ call, Calls past call s.attempt := by
  constructor
  · rintro rfl
    obtain ⟨flag, instanceId, made⟩ := life_asked life requesting
    obtain rfl : true = flag := echoing.same replied made
    exact life_calls life made
  · rintro ⟨call, calls⟩
    obtain ⟨instanceId, made⟩ := calls.asked life
    exact echoing.same replied made

/-! ## The mark stands for a call -/

/-- The reply that the mark comes from is a reply to a call. -/
theorem Stands.called (life : Life config past s) (echoing : Echoing past) {first since : List Beat}
    {reply : Beat} (stands : Stands past first reply since attempt) :
    ∃ call, Calls first call attempt := by
  obtain ⟨rfl, ⟨requesting, rfl, session, token, replied⟩, -⟩ := stands
  obtain ⟨before, same⟩ := life.split
  rw [List.append_cons, same] at echoing
  exact (replied_iff before echoing.of_append requesting replied).1 rfl

/-- While the mark is on, what comes of the transport in use is a verdict on a call. -/
theorem concerns_of_owned (life : Life config past s) (echoing : Echoing past)
    (marked : s.manualPending = true) {link : Link} (used : s.active = some link)
    (concludes : beat.Concludes link.number outcome) : ∃ call, Concerns past beat call outcome := by
  obtain ⟨first, reply, since, attempt, stands⟩ := (life_manual life).1 marked
  obtain ⟨call, calls⟩ := stands.called life echoing
  have delivers : ∃ other ∈ reply :: since, other.delivered ≠ none := by
    by_contra nothing
    push Not at nothing
    have unused := (adrift_since life stands nothing).unused life.coherent
    cases used.symm.trans unused
  obtain ⟨early, origin, late, line, brought, only⟩ := last_delivery delivers
  have whole : past = first ++ early ++ origin :: late := by
    rw [stands.split, line, List.append_assoc]
  have opened : .open link ∈ asked (origin :: late) := by
    rw [whole] at life
    exact opened_since life brought used
  have decides : beat.Decides origin late outcome := ⟨brought, only, link, opened, concludes⟩
  cases early with
  | nil =>
      obtain ⟨rfl, rfl⟩ := List.cons.inj line
      exact ⟨call, .inl (.concluded stands calls decides)⟩
  | cons head early =>
      obtain ⟨rfl, rfl⟩ := List.cons.inj line
      have unsettled := stands.unsettled origin (by simp)
      obtain ⟨forced, starts⟩ := start_of_delivered brought unsettled
      exact ⟨call, .inr (.superseded stands calls starts decides)⟩

/-- What a verdict goes back to: a refusal, a request, or a reply that stands. -/
inductive Root (past : List Beat) (beat : Beat) (call : Nat) : Bool → Prop
  | refused (last : call = past.length) (refused : beat.refuses = true) : Root past beat call false
  | unanswered {attempt : Nat} (calls : Calls past call attempt)
      (blames : beat.Blames (.request attempt)) : Root past beat call false
  | standing {attempt number : Nat} {first since : List Beat} {reply : Beat} {outcome : Bool}
      (stands : Stands past first reply since attempt) (calls : Calls first call attempt)
      (concludes : beat.Concludes number outcome) : Root past beat call outcome

theorem Concerns.root (concerns : Concerns past beat call outcome) :
    Root past beat call outcome := by
  rcases concerns with reports | usurps
  · cases reports with
    | refused last refused => exact .refused last refused
    | unanswered calls blames => exact .unanswered calls blames
    | concluded stands calls decides =>
        obtain ⟨link, -, concludes⟩ := decides.concludes
        exact .standing stands calls concludes
  · obtain ⟨stands, calls, -, decides⟩ := usurps
    obtain ⟨link, -, concludes⟩ := decides.concludes
    exact .standing stands calls concludes

/-! ## Verdicts and what they go back to -/

theorem Beat.Concludes.used {number : Nat} (concludes : beat.Concludes number outcome) :
    beat.before.active.map (·.number) = some number := by
  cases outcome with
  | true => exact concludes.2
  | false => exact concludes.2

/-- An attempt comes out well by a handshake, and badly by a failure. -/
theorem Beat.Concludes.ends {number : Nat} (concludes : beat.Concludes number outcome) :
    outcome = true ∧ (∃ instanceId, beat.befell = some (.welcome instanceId)) ∨
      outcome = false ∧ beat.befell = some .failure := by
  cases outcome with
  | true => exact .inl ⟨rfl, concludes.1⟩
  | false => exact .inr ⟨rfl, concludes.1⟩

/-- Nothing befalls a session that refuses a call. -/
theorem befell_of_refuses (refuses : beat.refuses = true) :
    beat.befell = none ∧ beat.turn.input = .reconnect := by
  obtain ⟨running, refused⟩ := Bool.and_eq_true_iff.1 refuses
  rw [befell_running running]
  unfold Session.refuses at refused
  split at refused
  · rename_i called
    obtain ⟨-, unknown⟩ := Bool.and_eq_true_iff.1 refused
    rw [called]
    refine ⟨if_neg fun both => ?_, rfl⟩
    rw [Option.isNone_iff_eq_none.1 unknown] at both
    cases both.2
  · cases refused

/-- While a transport is in use it is its attempt that a beat bears on. -/
theorem intent_used (life : Life config past s) {number : Nat}
    (used : s.active.map (·.number) = some number) :
    (s.beat config turn).intent = s.manualPending := by
  refine intent_kept fun manual reply _ requesting => ?_
  have waiting := (arranged_reconnecting (life.requests requesting).2).1 life.coherent.arranged
  rw [waiting.active] at used
  cases used

/-- A request that fails is the user's if a call made it. -/
theorem intent_failed (life : Life config past s)
    (echoing : Echoing (past ++ [s.beat config turn]))
    (blames : (s.beat config turn).Blames (.request attempt)) :
    (s.beat config turn).intent = true ↔ ∃ call, Calls past call attempt := by
  obtain ⟨failure, manual, replied⟩ := blames
  have befell := (befell_some failure).2
  rw [replied] at befell
  obtain ⟨rfl, requesting, -⟩ := failed_request life befell
  have bears : (s.beat config turn).intent = s.intent turn.input :=
    if_pos (life.requests requesting).1
  rw [bears, show turn.input = _ from replied, Session.intent, if_pos ⟨rfl, requesting, by simp⟩]
  exact replied_iff life echoing requesting replied

theorem welcome_used (life : Life config past s) {instanceId : InstanceId}
    (welcome : (s.beat config turn).befell = some (.welcome instanceId)) :
    ∃ link, s.active = some link := by
  have upshot := beat_upshot life turn
  rw [welcome] at upshot
  generalize (s.beat config turn).after.footing = w, marks (s.beat config turn).effects = given
    at upshot
  cases upshot with
  | welcome phase =>
      have greeting := (arranged_handshaking phase).1 life.coherent.arranged
      exact Option.isSome_iff_exists.1 greeting.active

theorem rule_failure {manual refused : Bool} :
    outcome ∈ (rule (some .failure) manual refused).2 ↔ manual = true ∧ outcome = false := by
  cases manual <;> simp [rule]

theorem rule_welcome {manual refused : Bool} {instanceId : InstanceId} :
    outcome ∈ (rule (some (.welcome instanceId)) manual refused).2 ↔
      manual = true ∧ outcome = true := by
  cases manual <;> simp [rule]

/-- A failure of an attempt of the user's goes back to a call. -/
theorem concerns_of_failure (life : Life config past s)
    (echoing : Echoing (past ++ [s.beat config turn]))
    (failure : (s.beat config turn).befell = some .failure)
    (owned : (s.beat config turn).intent = true) :
    ∃ call, Concerns past (s.beat config turn) call false := by
  obtain ⟨party, blames, -⟩ := blamed_of_failure life failure
  cases party with
  | transport number =>
      obtain ⟨link, used, rfl⟩ := Option.map_eq_some_iff.1 blames.2
      rw [intent_used life blames.2] at owned
      exact concerns_of_owned life echoing.of_append owned used blames
  | request attempt =>
      obtain ⟨call, calls⟩ := (intent_failed life echoing blames).1 owned
      exact ⟨call, .inl (.unanswered calls blames)⟩

/-- So does a handshake that ends one well. -/
theorem concerns_of_welcome (life : Life config past s) (echoing : Echoing past)
    {instanceId : InstanceId}
    (welcome : (s.beat config turn).befell = some (.welcome instanceId))
    (owned : (s.beat config turn).intent = true) :
    ∃ call, Concerns past (s.beat config turn) call true := by
  obtain ⟨link, used⟩ := welcome_used life welcome
  have number : s.active.map (·.number) = some link.number := by
    rw [used]
    rfl
  rw [intent_used life number] at owned
  exact concerns_of_owned life echoing owned used ⟨⟨instanceId, welcome⟩, number⟩

/-- What goes back to a call is ruled. -/
theorem Root.ruled (life : Life config past s)
    (echoing : Echoing (past ++ [s.beat config turn]))
    (root : Root past (s.beat config turn) call outcome) :
    outcome ∈ (rule (s.beat config turn).befell (s.beat config turn).intent
      (s.beat config turn).refuses).2 := by
  cases root with
  | refused last refused =>
      rw [(befell_of_refuses refused).1, refused]
      exact List.mem_singleton_self _
  | unanswered calls blames =>
      rw [blames.failure]
      exact rule_failure.2 ⟨(intent_failed life echoing blames).2 ⟨call, calls⟩, rfl⟩
  | standing stands calls concludes =>
      have owned : (s.beat config turn).intent = true :=
        (intent_used life concludes.used).trans ((life_manual life).2 ⟨_, _, _, _, stands⟩)
      rcases concludes.ends with ⟨rfl, instanceId, welcome⟩ | ⟨rfl, failure⟩
      · rw [welcome]
        exact rule_welcome.2 ⟨owned, rfl⟩
      · rw [failure]
        exact rule_failure.2 ⟨owned, rfl⟩

/-- A verdict is given in a beat if it goes back to a call. -/
theorem mem_verdicts (life : Life config past s)
    (echoing : Echoing (past ++ [s.beat config turn])) :
    outcome ∈ (s.beat config turn).verdicts ↔
      ∃ call, Concerns past (s.beat config turn) call outcome := by
  have ruled := congrArg Prod.snd (beat_rules life turn)
  rw [show (s.beat config turn).verdicts = _ from ruled]
  constructor
  · intro member
    by_cases failure : (s.beat config turn).befell = some .failure
    · rw [failure] at member
      obtain ⟨owned, rfl⟩ := rule_failure.1 member
      exact concerns_of_failure life echoing failure owned
    · by_cases welcome : ∃ instanceId, (s.beat config turn).befell = some (.welcome instanceId)
      · obtain ⟨instanceId, welcome⟩ := welcome
        rw [welcome] at member
        obtain ⟨owned, rfl⟩ := rule_welcome.1 member
        exact concerns_of_welcome life echoing.of_append welcome owned
      · rw [rule_other failure fun instanceId greeted => welcome ⟨instanceId, greeted⟩] at member
        dsimp only at member
        split at member
        · obtain rfl := List.mem_singleton.1 member
          exact ⟨past.length, .inl (.refused rfl ‹_›)⟩
        · cases member
  · rintro ⟨call, concerns⟩
    exact concerns.root.ruled life echoing

/-! ## One verdict for a call -/

/-- The reply to request `attempt` is taken in. -/
def Beat.Takes (beat : Beat) (attempt : Nat) : Prop :=
  beat.before.requesting = true ∧ attempt = beat.before.attempt ∧
    beat.turn.input.party = some (.request attempt)

theorem Beat.Grants.takes {manual : Bool} (grants : beat.Grants attempt manual) :
    beat.Takes attempt := by
  obtain ⟨requesting, current, session, token, replied⟩ := grants
  refine ⟨requesting, current, ?_⟩
  rw [replied]
  rfl

theorem takes_of_blame (life : Life config past s)
    (blames : (s.beat config turn).Blames (.request attempt)) :
    (s.beat config turn).Takes attempt := by
  obtain ⟨failure, manual, replied⟩ := blames
  have befell := (befell_some failure).2
  rw [replied] at befell
  obtain ⟨current, requesting, -⟩ := failed_request life befell
  refine ⟨requesting, current, ?_⟩
  rw [replied]
  rfl

/-- The reply to a request is taken in once. -/
theorem taken_once (life : Life config past s) {j k : Nat} {one two : Beat}
    (first : past[j]? = some one) (second : past[k]? = some two) (takes : one.Takes attempt)
    (again : two.Takes attempt) : j = k := by
  refine one_place (P := fun beat => beat.Takes attempt) ?_ first second takes again
  intro i l early late here there ⟨requesting, current, answers⟩ ⟨awaited, _, _⟩ before
  obtain ⟨earlier, -⟩ := life.at here
  obtain ⟨later, -⟩ := life.at there
  obtain ⟨flag, instanceId, made⟩ := life_asked earlier requesting
  rw [← current] at made
  have finished : Done (past.take (i + 1)) (.request attempt) := by
    rw [List.take_add_one, here]
    exact over_of_reply made answers
  have running := (later.requests awaited).1
  have idle := (life_ordered later running .request).finished _ (finished.later before) ‹_›
  cases idle.symm.trans awaited

/-- Only one reply stands. -/
theorem Stands.unique {first since first' since' : List Beat} {reply reply' : Beat}
    (stands : Stands past first reply since attempt)
    (again : Stands past first' reply' since' other) : first = first' ∧ attempt = other := by
  have settles : reply.Settles := .inr (.inr ⟨_, _, stands.granted⟩)
  have settles' : reply'.Settles := .inr (.inr ⟨_, _, again.granted⟩)
  rcases split_append (stands.split.symm.trans again.split) with
    ⟨middle, rfl, line⟩ | ⟨middle, -, rfl⟩
  · cases middle with
    | nil =>
        obtain ⟨rfl, rfl⟩ := List.cons.inj line
        obtain ⟨-, current, -⟩ := stands.granted
        obtain ⟨-, current', -⟩ := again.granted
        exact ⟨(List.append_nil _).symm, current.trans current'.symm⟩
    | cons head middle =>
        obtain ⟨-, rfl⟩ := List.cons.inj line
        exact absurd settles' (stands.unsettled reply' (by simp))
  · exact absurd settles (again.unsettled reply (by simp))

theorem Stands.calls {first since : List Beat} {reply : Beat}
    (stands : Stands past first reply since attempt) (calls : Calls first call attempt) :
    Calls past call attempt := by
  rw [stands.split]
  exact calls.append _

theorem Root.le (root : Root past beat call outcome) : call ≤ past.length := by
  cases root with
  | refused last => exact Nat.le_of_eq last
  | unanswered calls => exact Nat.le_of_lt calls.lt
  | standing stands calls => exact Nat.le_of_lt (stands.calls calls).lt

theorem Root.of_refuses (root : Root past beat call outcome) (refuses : beat.refuses = true) :
    call = past.length := by
  have still := (befell_of_refuses refuses).1
  cases root with
  | refused last => exact last
  | unanswered calls blames => cases still.symm.trans blames.failure
  | standing stands calls concludes =>
      rcases concludes.ends with ⟨-, instanceId, welcome⟩ | ⟨-, failure⟩
      · cases still.symm.trans welcome
      · cases still.symm.trans failure

theorem Root.of_request (life : Life config past s)
    (root : Root past (s.beat config turn) call outcome)
    (blames : (s.beat config turn).Blames (.request attempt)) : Calls past call attempt := by
  cases root with
  | refused last refused => cases (befell_of_refuses refused).1.symm.trans blames.failure
  | unanswered calls again =>
      obtain ⟨-, current, -⟩ := takes_of_blame life blames
      obtain ⟨-, current', -⟩ := takes_of_blame life again
      rw [current, ← current']
      exact calls
  | standing stands calls concludes =>
      obtain ⟨failure, manual, replied⟩ := blames
      have befell := (befell_some failure).2
      rw [replied] at befell
      have unused := (failed_request life befell).2.2
      have used : s.active.map (·.number) = some _ := concludes.used
      rw [unused] at used
      cases used

/-- **No verdict is on two calls.** -/
theorem one_call (life : Life config past s) {outcome' : Bool}
    (root : Root past (s.beat config turn) call outcome)
    (again : Root past (s.beat config turn) other outcome') : call = other := by
  cases root with
  | refused last refused => exact last.trans (again.of_refuses refused).symm
  | unanswered calls blames => exact calls.unique life (again.of_request life blames)
  | standing stands calls concludes =>
      cases again with
      | refused last refused =>
          exact (Root.of_refuses (.standing stands calls concludes) refused).trans last.symm
      | unanswered calls' blames =>
          have asked := Root.of_request life (.standing stands calls concludes) blames
          exact asked.unique life calls'
      | standing stands' calls' concludes' =>
          obtain ⟨rfl, rfl⟩ := stands.unique stands'
          exact (stands.calls calls).unique life (stands'.calls calls')

/-- The attempt that comes out in turn `k` goes back to the reply in turn `r`, to request `attempt`:
it was that request which failed, or nothing has settled the mark that its reply set. -/
structure Trail (past : List Beat) (k r attempt : Nat) : Prop where
  upto : r ≤ k
  reply : ∃ reply, past[r]? = some reply ∧ reply.Takes attempt ∧
    (r < k → reply.Grants attempt true)
  ends : ∃ beat, past[k]? = some beat ∧
    (beat.befell = some .failure ∨ ∃ instanceId, beat.befell = some (.welcome instanceId))
  between : ∀ i, r < i → i < k → ∀ middle, past[i]? = some middle → ¬middle.Settles

theorem Trail.not_lt {j k r : Nat} (trail : Trail past j r attempt)
    (again : Trail past k r attempt) : ¬j < k := by
  intro before
  obtain ⟨beat, here, ended⟩ := trail.ends
  rcases Nat.lt_or_eq_of_le trail.upto with since | rfl
  · exact again.between j since before beat here (ended.imp_right .inl)
  · obtain ⟨reply, there, -, grants⟩ := again.reply
    obtain rfl : beat = reply := Option.some.inj (here.symm.trans there)
    obtain ⟨unfailed, unwelcome⟩ := (grants before).befell
    rcases ended with failure | ⟨instanceId, welcome⟩
    · exact unfailed failure
    · exact unwelcome instanceId welcome

theorem Trail.unique (life : Life config past s) {j k r r' : Nat} (trail : Trail past j r attempt)
    (again : Trail past k r' attempt) : j = k := by
  obtain ⟨reply, here, takes, -⟩ := trail.reply
  obtain ⟨reply', there, takes', -⟩ := again.reply
  obtain rfl := taken_once life here there takes takes'
  have not_before := trail.not_lt again
  have not_after := again.not_lt trail
  omega

/-- A verdict is on a call that is refused in the same turn, or has a trail to a call. -/
theorem Root.trail (life : Life config past s) {k : Nat} (here : past[k]? = some beat)
    (root : Root (past.take k) beat call outcome) :
    call = k ∧ beat.refuses = true ∨
      ∃ r attempt, Calls past call attempt ∧ Trail past k r attempt := by
  have within : k < past.length := (List.getElem?_eq_some_iff.1 here).1
  have length : (past.take k).length = k := by
    rw [List.length_take, Nat.min_eq_left (Nat.le_of_lt within)]
  have whole : past.take k ++ past.drop k = past := List.take_append_drop ..
  obtain ⟨before, same⟩ := life.at here
  cases root with
  | refused last refused => exact .inl ⟨last.trans length, refused⟩
  | @unanswered attempt calls blames =>
      refine .inr ⟨k, attempt, ?_, Nat.le_refl _, ⟨beat, here, ?_, ?_⟩, ⟨beat, here, ?_⟩, ?_⟩
      · rw [← whole]
        exact calls.append _
      · rw [same] at blames ⊢
        exact takes_of_blame before blames
      · intro later
        omega
      · exact .inl blames.failure
      · intro i later earlier
        omega
  | @standing attempt number first since reply outcome stands calls concludes =>
      have long := congrArg List.length stands.split
      rw [length, List.length_append, List.length_cons] at long
      have place : ∀ i, i < k → past[i]? = (first ++ reply :: since)[i]? := by
        intro i early
        rw [← stands.split, List.getElem?_take_of_lt early]
      refine .inr ⟨first.length, attempt, ?_, by omega, ⟨reply, ?_, ?_, ?_⟩, ⟨beat, here, ?_⟩, ?_⟩
      · rw [← whole]
        exact (stands.calls calls).append _
      · rw [place _ (by omega)]
        simp
      · exact stands.granted.takes
      · exact fun _ => stands.granted
      · rcases concludes.ends with ⟨-, welcome⟩ | ⟨-, failure⟩
        · exact .inr welcome
        · exact .inl failure
      · intro i later early middle there
        rw [place i early, List.getElem?_append_right (Nat.le_of_lt later),
          List.getElem?_cons, if_neg (by omega)] at there
        exact stands.unsettled middle (List.mem_of_getElem? there)

/-- **No call gets two verdicts.** -/
theorem one_verdict (life : Life config past s) {j k : Nat} {one two : Beat} {outcome' : Bool}
    (here : past[j]? = some one) (there : past[k]? = some two)
    (root : Root (past.take j) one call outcome) (again : Root (past.take k) two call outcome') :
    j = k := by
  have calls_nothing : ∀ {i attempt : Nat} {beat : Beat}, past[i]? = some beat →
      beat.refuses = true → ¬Calls past i attempt := by
    rintro i attempt beat here refuses ⟨caller, there, befell, -⟩
    obtain rfl : beat = caller := Option.some.inj (here.symm.trans there)
    cases (befell_of_refuses refuses).1.symm.trans befell
  rcases root.trail life here with ⟨rfl, refuses⟩ | ⟨r, attempt, calls, trail⟩
  · rcases again.trail life there with ⟨rfl, -⟩ | ⟨r, attempt, calls, -⟩
    · rfl
    · exact absurd calls (calls_nothing here refuses)
  · rcases again.trail life there with ⟨rfl, refuses⟩ | ⟨r', attempt', calls', trail'⟩
    · exact absurd calls (calls_nothing there refuses)
    · obtain ⟨caller, first, -, rfl⟩ := calls
      obtain ⟨caller', second, -, rfl⟩ := calls'
      obtain rfl : caller = caller' := Option.some.inj (first.symm.trans second)
      exact trail.unique life trail'

/-! ## The verdicts of a run -/

theorem rule_short (incident : Option Incident) (manual refused : Bool) :
    (rule incident manual refused).2.length ≤ 1 := by
  unfold rule
  split
  · cases manual <;> simp
  · cases manual <;> simp
  · cases refused <;> simp

/-- What a verdict is on is a call of the user's. -/
theorem Root.caller (life : Life config past s) {k : Nat} (here : past[k]? = some beat)
    (root : Root (past.take k) beat call outcome) :
    ∃ caller, past[call]? = some caller ∧ caller.turn.input = .reconnect := by
  rcases root.trail life here with ⟨rfl, refuses⟩ | ⟨-, attempt, calls, -⟩
  · exact ⟨beat, here, (befell_of_refuses refuses).2⟩
  · obtain ⟨caller, there, called, -⟩ := calls.requests life
    exact ⟨caller, there, called⟩

/-- **Every verdict is on one call of the user's, and no call gets two.**  In a beat there is one
verdict at most.  It is given exactly if the beat is the outcome of the attempt that a call
started: the call is refused, its request fails, or the transport fails or serves that was opened
with the credentials which its reply brought; or else if the application brought other credentials
after that reply, and the beat is the outcome of theirs.  Of no other attempt is the user told
anything, neither of a retry nor of one that the application started before the reply. -/
theorem verdicts_reported (config : SessionConfig) (turns : List Turn)
    (echoing : Echoing (history config turns)) :
    (∀ (k : Nat) beat, (history config turns)[k]? = some beat →
      beat.verdicts.length ≤ 1 ∧
        ∀ outcome, outcome ∈ beat.verdicts ↔
          ∃! call, Concerns ((history config turns).take k) beat call outcome) ∧
    ∀ (k : Nat) beat call outcome, (history config turns)[k]? = some beat →
      Concerns ((history config turns).take k) beat call outcome →
        (∃ caller, (history config turns)[call]? = some caller ∧
          caller.turn.input = .reconnect) ∧
        ∀ (j : Nat) other outcome', (history config turns)[j]? = some other →
          Concerns ((history config turns).take j) other call outcome' → j = k := by
  have life := life_of config turns
  refine ⟨fun k beat here => ?_, fun k beat call outcome here concerns => ⟨?_, ?_⟩⟩
  · obtain ⟨before, same⟩ := life.at here
    have upto : (history config turns).take (k + 1) = (history config turns).take k ++ [beat] := by
      rw [List.take_add_one, here]
      rfl
    -- A reply is held against the request it answers, which is among the beats before.
    have echoes : Echoing ((history config turns).take k ++ [beat]) := by
      rw [← List.take_append_drop (k + 1) (history config turns), upto] at echoing
      exact echoing.of_append
    rw [same] at echoes ⊢
    constructor
    · rw [show Beat.verdicts _ = _ from congrArg Prod.snd (beat_rules before beat.turn)]
      exact rule_short ..
    · intro outcome
      rw [mem_verdicts before echoes]
      constructor
      · rintro ⟨call, concerns⟩
        refine ⟨call, concerns, fun other again => ?_⟩
        exact one_call before again.root concerns.root
      · rintro ⟨call, concerns, -⟩
        exact ⟨call, concerns⟩
  · exact concerns.root.caller life here
  · intro j other outcome' there again
    exact one_verdict life there here again.root concerns.root

/-- The user asks to reconnect after the transport has closed, and the handshake succeeds. -/
def recalled : List Turn :=
  [{ input := .init ⟨"S1"⟩ ⟨"T1"⟩ false }, { input := .transport 0 .opened },
    { input := .transport 0 (.message "I1&K0") }, { input := .transport 0 .closed },
    { input := .reconnect },
    { input := .resolved 1 true (some (.credentials ⟨"S2"⟩ ⟨"T2"⟩)) },
    { input := .expired .settle ⟨3⟩ }, { input := .transport 1 .opened },
    { input := .transport 1 (.message "I2&K0") }]

/-- The last turn tells the user so, on a call of the user's. -/
theorem recalled_reported :
    Echoing (history {} recalled) ∧
      ∃ beat, (history {} recalled)[8]? = some beat ∧
        ∃ call, Concerns ((history {} recalled).take 8) beat call true ∧
          ∃ caller, (history {} recalled)[call]? = some caller ∧
            caller.turn.input = .reconnect := by
  have echoing : Echoing (history {} recalled) := by decide +kernel
  obtain ⟨verdicts, calls⟩ := verdicts_reported {} recalled echoing
  have told : true ∈ ((history {} recalled).get ⟨8, by decide +kernel⟩).verdicts := by
    decide +kernel
  have here : (history {} recalled)[8]? = some _ := List.getElem?_eq_getElem (by decide +kernel)
  obtain ⟨call, concerns, -⟩ := ((verdicts 8 _ here).2 true).1 told
  exact ⟨echoing, _, here, call, concerns, (calls 8 _ call true here concerns).1⟩

/-- After the reply to the user's request the application starts over, and its handshake
succeeds. -/
def usurped : List Turn :=
  [{ input := .init ⟨"S1"⟩ ⟨"T1"⟩ false }, { input := .transport 0 .opened },
    { input := .transport 0 (.message "I1&K0") }, { input := .transport 0 .closed },
    { input := .reconnect },
    { input := .resolved 1 true (some (.credentials ⟨"S2"⟩ ⟨"T2"⟩)) },
    { input := .expired .settle ⟨3⟩ }, { input := .init ⟨"S9"⟩ ⟨"T9"⟩ false },
    { input := .expired .settle ⟨4⟩ }, { input := .transport 2 .opened },
    { input := .transport 2 (.message "I9&K0") }]

/-- The user is told of the application's attempt, so not every verdict tells of the attempt that a
call started. -/
theorem usurped_unreported :
    ¬∀ (config : SessionConfig) (turns : List Turn), Echoing (history config turns) →
      ∀ (k : Nat) beat, (history config turns)[k]? = some beat → ∀ outcome ∈ beat.verdicts,
        ∃ call, Reports ((history config turns).take k) beat call outcome := by
  intro reports
  have told : true ∈ ((history {} usurped).get ⟨10, by decide +kernel⟩).verdicts := by
    decide +kernel
  have here : (history {} usurped)[10]? = some _ := List.getElem?_eq_getElem (by decide +kernel)
  obtain ⟨call, reported⟩ := reports {} usurped (by decide +kernel) 10 _ here true told
  -- The credentials that came last are the application's.
  have last : (((history {} usurped).take 10).filter (·.delivered.isSome)).getLast?.map
      (·.turn.input) = some (.init ⟨"S9"⟩ ⟨"T9"⟩ false) := by decide +kernel
  cases reported with
  | @concluded attempt first since reply _ stands calls decides =>
      obtain ⟨-, -, session, token, replied⟩ := stands.granted
      have nothing : since.filter (·.delivered.isSome) = [] := by
        refine List.filter_eq_nil_iff.2 fun other member => ?_
        rw [decides.only other member]
        exact Bool.false_ne_true
      have brought : reply.delivered.isSome = true := Option.isSome_iff_ne_none.2 decides.brought
      rw [stands.split, List.filter_append, List.filter_cons, if_pos brought, nothing,
        List.getLast?_concat] at last
      cases (Option.some.inj last).symm.trans replied

end Session

end Tether
