/-
# Tether.Proofs.Session.Credentials -- how often credentials are presented

An access token is good for one handshake.  Credentials are delivered to a session by the
application or by a reconnect reply; between deliveries it may start over by itself, any
number of times, with the pair it holds.  It does so only while the pair is unspent, and
a pair counts as spent as soon as a handshake with it was offered to a transport,
whether the transport took it or not.

So a run is told by its attempts: for each handshake, how many deliveries came before it.
No number occurs twice, and the frame is the handshake of the pair delivered last.  Once
a handshake succeeded, requests for fresh credentials go by the instance it named.

* `Accredited` -- what ties the spent mark and the instance to the history.
* `Accredited.deed` -- every deed keeps it.
* `credentials_presented_once` -- the discipline of every run.
-/
import Tether.Proofs.Session.Deeds

set_option autoImplicit false

namespace Tether

def Effect.frame : Effect → Option String
  | .sent _ frame | .refused _ frame => some frame
  | _ => none

def Effect.instanceId : Effect → Option InstanceId
  | .request _ _ instanceId => some instanceId
  | _ => none

namespace Session

/-! ## Deliveries and attempts -/

/-- The credentials that a beat delivered: from the application, or by a reply to the request
under way. -/
def Beat.delivered (beat : Beat) : Option (SessionId × AccessToken) :=
  match beat.heard with
  | some (.credentials session token) => some (session, token)
  | _ => none

def Beat.named (beat : Beat) : Option InstanceId :=
  match beat.heard with
  | some (.welcome _ instanceId _) => some instanceId
  | _ => none

/-- The frames offered to a transport, taken or not. -/
def Beat.offered (beat : Beat) : List String := beat.effects.filterMap Effect.frame

/-- The frames offered to a transport that opened. -/
def Beat.presented (beat : Beat) : List String :=
  match beat.heard with
  | some (.opened _) => beat.offered
  | _ => []

def deliveries (past : List Beat) : List (SessionId × AccessToken) :=
  past.filterMap Beat.delivered

def instances (past : List Beat) : List InstanceId := past.filterMap Beat.named

/-- The handshakes offered, each with the number of deliveries before it. -/
def attempts (past : List Beat) : List (Nat × String) :=
  retell (fun earlier beat => beat.presented.map fun frame => ((deliveries earlier).length, frame))
    past

theorem deliveries_concat (past : List Beat) (beat : Beat) :
    deliveries (past ++ [beat]) = deliveries past ++ beat.delivered.toList := by
  rw [deliveries, List.filterMap_append]
  cases delivered : beat.delivered <;> simp [deliveries, delivered]

theorem instances_concat (past : List Beat) (beat : Beat) :
    instances (past ++ [beat]) = instances past ++ beat.named.toList := by
  rw [instances, List.filterMap_append]
  cases named : beat.named <;> simp [instances, named]

theorem attempts_concat (past : List Beat) (beat : Beat) :
    attempts (past ++ [beat]) =
      attempts past ++ beat.presented.map fun frame => ((deliveries past).length, frame) :=
  retell_concat _ past beat

/-- A frame that was offered was noticed. -/
theorem offered_signals (beat : Beat) :
    beat.offered = (signals beat.effects).filterMap Effect.frame := by
  refine filterMap_signals (fun effect unnoticed => ?_) beat.effects
  cases effect <;> first | rfl | cases unnoticed

/-! ## The invariant -/

/-- The attempt is the handshake of the pair delivered last before it. -/
def Attests (given : List (SessionId × AccessToken)) (attempt : Nat × String) : Prop :=
  ∃ session token, (given.take attempt.1).getLast? = some (session, token) ∧
    attempt.2 = Frame.handshake session token

/-- What a session holds goes with what it was given, and how it was used. -/
structure Accredited (past : List Beat) (v : Stance) : Prop where
  sessionId : v.sessionId = (deliveries past).getLast?.map Prod.fst
  accessToken : v.accessToken = (deliveries past).getLast?.map Prod.snd
  instanceId : v.instanceId = (instances past).getLast?
  connecting : v.phase = .connecting → v.spent = false
  unspent : v.spent = false → ∀ attempt ∈ attempts past, attempt.1 < (deliveries past).length
  counted : ∀ attempt ∈ attempts past, attempt.1 ≤ (deliveries past).length
  once : ((attempts past).map Prod.fst).Nodup
  attested : ∀ attempt ∈ attempts past, Attests (deliveries past) attempt

section Steps

variable {past : List Beat} {beat : Beat} {v w : Stance}

theorem fresh_accredited : Accredited [] (({} : Session).stance) :=
  ⟨rfl, rfl, rfl, nofun, nofun, nofun, List.nodup_nil, nofun⟩

/-- The pair held is the one delivered last. -/
theorem Accredited.pair (accredited : Accredited past v) {session : SessionId} {token : AccessToken}
    (held : v.sessionId = some session) (tokenHeld : v.accessToken = some token) :
    (deliveries past).getLast? = some (session, token) := by
  have first := accredited.sessionId
  have second := accredited.accessToken
  rw [held] at first
  rw [tokenHeld] at second
  obtain ⟨pair, last, rfl⟩ := Option.map_eq_some_iff.1 first.symm
  rw [last] at second
  rw [last]
  exact congrArg (fun token => some (pair.1, token)) (Option.some.inj second).symm

/-- A beat that delivers nothing, names nothing and presents nothing. -/
structure Beat.Plain (beat : Beat) : Prop where
  undelivered : beat.delivered = none
  unnamed : beat.named = none
  silent : beat.presented = []

theorem Accredited.pass (accredited : Accredited past v) (plain : beat.Plain)
    (sessionId : w.sessionId = v.sessionId) (accessToken : w.accessToken = v.accessToken)
    (instanceId : w.instanceId = v.instanceId) (spent : w.spent = v.spent)
    (connecting : w.phase = .connecting → v.spent = false) : Accredited (past ++ [beat]) w := by
  have same : deliveries (past ++ [beat]) = deliveries past := by
    rw [deliveries_concat, plain.undelivered, Option.toList_none, List.append_nil]
  have sameNames : instances (past ++ [beat]) = instances past := by
    rw [instances_concat, plain.unnamed, Option.toList_none, List.append_nil]
  have sameAttempts : attempts (past ++ [beat]) = attempts past := by
    rw [attempts_concat, plain.silent, List.map_nil, List.append_nil]
  constructor
  · rw [same, sessionId, accredited.sessionId]
  · rw [same, accessToken, accredited.accessToken]
  · rw [sameNames, instanceId, accredited.instanceId]
  · rw [spent]
    exact connecting
  · rw [spent, same, sameAttempts]
    exact accredited.unspent
  · rw [same, sameAttempts]
    exact accredited.counted
  · rw [sameAttempts]
    exact accredited.once
  · rw [same, sameAttempts]
    exact accredited.attested

/-- A beat that delivers a pair. -/
theorem Accredited.deliver (accredited : Accredited past v) {session : SessionId}
    {token : AccessToken} (heard : beat.heard = some (.credentials session token))
    (sessionId : w.sessionId = some session) (accessToken : w.accessToken = some token)
    (instanceId : w.instanceId = v.instanceId) (spent : w.spent = false) :
    Accredited (past ++ [beat]) w := by
  have delivered : deliveries (past ++ [beat]) = deliveries past ++ [(session, token)] := by
    rw [deliveries_concat, Beat.delivered, heard]
    rfl
  have sameNames : instances (past ++ [beat]) = instances past := by
    rw [instances_concat, Beat.named, heard]
    exact List.append_nil _
  have sameAttempts : attempts (past ++ [beat]) = attempts past := by
    rw [attempts_concat, Beat.presented, heard]
    exact List.append_nil _
  have counted : ∀ attempt ∈ attempts past,
      attempt.1 < (deliveries past ++ [(session, token)]).length := by
    intro attempt member
    rw [List.length_append]
    exact Nat.lt_succ_of_le (accredited.counted attempt member)
  constructor
  · rw [delivered, List.getLast?_concat, sessionId]
    rfl
  · rw [delivered, List.getLast?_concat, accessToken]
    rfl
  · rw [sameNames, instanceId, accredited.instanceId]
  · exact fun _ => spent
  · rw [delivered, sameAttempts]
    exact fun _ => counted
  · rw [delivered, sameAttempts]
    exact fun attempt member => Nat.le_of_lt (counted attempt member)
  · rw [sameAttempts]
    exact accredited.once
  · rw [delivered, sameAttempts]
    intro attempt member
    obtain ⟨session', token', last, same⟩ := accredited.attested attempt member
    refine ⟨session', token', ?_, same⟩
    rw [List.take_append_of_le_length (accredited.counted attempt member)]
    exact last

/-- A beat that presents the pair held. -/
theorem Accredited.present (accredited : Accredited past v) {number : Nat} {session : SessionId}
    {token : AccessToken} (heard : beat.heard = some (.opened number))
    (phase : v.phase = .connecting) (held : v.sessionId = some session)
    (tokenHeld : v.accessToken = some token)
    (presented : beat.offered = [Frame.handshake session token])
    (sessionId : w.sessionId = v.sessionId) (accessToken : w.accessToken = v.accessToken)
    (instanceId : w.instanceId = v.instanceId) (spent : w.spent = true)
    (after : w.phase ≠ .connecting) : Accredited (past ++ [beat]) w := by
  have same : deliveries (past ++ [beat]) = deliveries past := by
    rw [deliveries_concat, Beat.delivered, heard]
    exact List.append_nil _
  have sameNames : instances (past ++ [beat]) = instances past := by
    rw [instances_concat, Beat.named, heard]
    exact List.append_nil _
  have more : attempts (past ++ [beat]) =
      attempts past ++ [((deliveries past).length, Frame.handshake session token)] := by
    rw [attempts_concat, Beat.presented, heard]
    dsimp only
    rw [presented]
    rfl
  have older := accredited.unspent (accredited.connecting phase)
  constructor
  · rw [same, sessionId, accredited.sessionId]
  · rw [same, accessToken, accredited.accessToken]
  · rw [sameNames, instanceId, accredited.instanceId]
  · exact fun again => absurd again after
  · intro unspent
    cases spent.symm.trans unspent
  · rw [same, more]
    intro attempt member
    rcases List.mem_append.1 member with old | new
    · exact accredited.counted attempt old
    · obtain rfl := List.mem_singleton.1 new
      exact Nat.le_refl _
  · rw [more, List.map_append]
    refine List.nodup_append.2 ⟨accredited.once, List.pairwise_singleton _ _, ?_⟩
    intro number old number' new
    obtain ⟨attempt, member, rfl⟩ := List.mem_map.1 old
    obtain rfl := List.mem_singleton.1 new
    exact Nat.ne_of_lt (older attempt member)
  · rw [same, more]
    intro attempt member
    rcases List.mem_append.1 member with old | new
    · exact accredited.attested attempt old
    · obtain rfl := List.mem_singleton.1 new
      refine ⟨session, token, ?_, rfl⟩
      rw [List.take_length]
      exact accredited.pair held tokenHeld

/-- A beat that names an instance. -/
theorem Accredited.name (accredited : Accredited past v) {number : Nat} {instanceId : InstanceId}
    {token : ContinuationToken} (heard : beat.heard = some (.welcome number instanceId token)) :
    Accredited (past ++ [beat]) (v.welcomed instanceId token) := by
  have same : deliveries (past ++ [beat]) = deliveries past := by
    rw [deliveries_concat, Beat.delivered, heard]
    exact List.append_nil _
  have named : instances (past ++ [beat]) = instances past ++ [instanceId] := by
    rw [instances_concat, Beat.named, heard]
    rfl
  have sameAttempts : attempts (past ++ [beat]) = attempts past := by
    rw [attempts_concat, Beat.presented, heard]
    exact List.append_nil _
  constructor
  · rw [same]
    exact accredited.sessionId
  · rw [same]
    exact accredited.accessToken
  · rw [named, List.getLast?_concat]
    rfl
  · exact nofun
  · rw [same, sameAttempts]
    exact accredited.unspent
  · rw [same, sameAttempts]
    exact accredited.counted
  · rw [sameAttempts]
    exact accredited.once
  · rw [same, sameAttempts]
    exact accredited.attested

/-- What opening a transport leaves of the credentials. -/
theorem Fresh.keeps {given : List Effect} (fresh : Fresh v w given) :
    w.phase = v.phase ∧ w.sessionId = v.sessionId ∧ w.accessToken = v.accessToken ∧
      w.instanceId = v.instanceId ∧ w.spent = v.spent := by
  cases fresh with
  | now kind => exact ⟨rfl, rfl, rfl, rfl, rfl⟩
  | later => exact ⟨rfl, rfl, rfl, rfl, rfl⟩

/-- What offering a frame leaves of the credentials. -/
theorem Offer.keeps {number : Nat} {frame : String} {accepting : Bool} {given : List Effect}
    (offer : Offer number frame v accepting w given) (phase : v.phase ≠ .connecting) :
    w.phase ≠ .connecting ∧ w.sessionId = v.sessionId ∧ w.accessToken = v.accessToken ∧
      w.instanceId = v.instanceId ∧ w.spent = v.spent ∧ given.filterMap Effect.frame = [frame] := by
  cases offer with
  | sent => exact ⟨phase, rfl, rfl, rfl, rfl, rfl⟩
  | refused after down =>
      exact ⟨down.other.1, rfl, rfl, rfl, rfl, rfl⟩

/-- Neither credentials, nor the beginning or the end of a handshake. -/
def Unremarkable : Option Hearing → Prop
  | none | some (.task ..) | some (.frame ..) => True
  | _ => False

theorem plain_of_heard {hearing : Option Hearing} (heard : beat.heard = hearing)
    (unremarkable : Unremarkable hearing) : beat.Plain := by
  rcases hearing with _ | credentials | task | opened | welcome | frame
  case credentials => exact unremarkable.elim
  case opened => exact unremarkable.elim
  case welcome => exact unremarkable.elim
  all_goals
    constructor
    · rw [Beat.delivered, heard]
    · rw [Beat.named, heard]
    · rw [Beat.presented, heard]

/-- **Every deed keeps what is known of the credentials.** -/
theorem Accredited.deed (accredited : Accredited past v) {accepting : Bool}
    (deed : Deed accepting v beat.heard w (signals beat.effects)) :
    Accredited (past ++ [beat]) w := by
  have offered := offered_signals beat
  generalize heard : beat.heard = hearing at deed
  generalize signals beat.effects = given at deed offered
  cases deed with
  | still =>
      exact accredited.pass (plain_of_heard heard trivial) rfl rfl rfl rfl accredited.connecting
  | drop phase down =>
      refine accredited.pass (plain_of_heard heard trivial) rfl rfl rfl rfl fun again => ?_
      exact absurd again down.other.1
  | install session token fresh =>
      obtain ⟨-, sessionId, accessToken, instanceId, spent⟩ := fresh.keeps
      exact accredited.deliver heard sessionId accessToken instanceId spent
  | reinstall held tokenHeld unspent fresh =>
      obtain ⟨-, sessionId, accessToken, instanceId, spent⟩ := fresh.keeps
      exact accredited.pass (plain_of_heard heard trivial) (sessionId.trans held.symm)
        (accessToken.trans tokenHeld.symm) instanceId (spent.trans unspent.symm) fun _ => unspent
  | settled phase held tokenHeld unused kind =>
      exact accredited.pass (plain_of_heard heard trivial) rfl rfl rfl rfl accredited.connecting
  | greet phase held tokenHeld used offer =>
      obtain ⟨after, sessionId, accessToken, instanceId, spent, frames⟩ := offer.keeps nofun
      exact accredited.present heard phase held tokenHeld (offered.trans frames) sessionId
        accessToken instanceId spent after
  | reopened number =>
      have plain : beat.Plain := by
        constructor
        · rw [Beat.delivered, heard]
        · rw [Beat.named, heard]
        · rw [Beat.presented, heard]
          exact offered
      exact accredited.pass plain rfl rfl rfl rfl accredited.connecting
  | welcome phase used instanceId token => exact accredited.name heard
  | frame phase used token payload =>
      exact accredited.pass (plain_of_heard heard trivial) rfl rfl rfl rfl accredited.connecting
  | pong phase held used offer =>
      have other : v.phase ≠ .connecting := by
        rw [phase]
        exact nofun
      obtain ⟨after, sessionId, accessToken, instanceId, spent, -⟩ := offer.keeps other
      exact accredited.pass (plain_of_heard heard trivial) sessionId accessToken instanceId spent
        fun again => absurd again after
  | unready phase call task fields =>
      exact accredited.pass (plain_of_heard heard trivial) rfl rfl rfl rfl accredited.connecting
  | lost phase down call task fields =>
      refine accredited.pass (plain_of_heard heard trivial) rfl rfl rfl rfl fun again => ?_
      exact absurd again down.other.1
  | send phase held current used offer =>
      have other : v.phase ≠ .connecting := by
        rw [phase]
        exact nofun
      obtain ⟨after, sessionId, accessToken, instanceId, spent, -⟩ := offer.keeps other
      exact accredited.pass (plain_of_heard heard trivial) sessionId accessToken instanceId spent
        fun again => absurd again after
  | request attempt known =>
      exact accredited.pass (plain_of_heard heard trivial) rfl rfl rfl rfl accredited.connecting
  | reconnect attempt known =>
      exact accredited.pass (plain_of_heard heard trivial) rfl rfl rfl rfl nofun

theorem life_accredited {config : SessionConfig} {s : Session} (life : Life config past s) :
    Accredited past s.stance := by
  induction life with
  | fresh => exact fresh_accredited
  | beat life turn ih => exact ih.deed (beat_deed life turn)

end Steps

/-! ## Runs -/

def TaskFrame (frame : String) : Prop :=
  ∃ session token task fields, frame = Frame.outbound session token task fields

/-- A frame is offered when a transport opens, or it is a task frame. -/
theorem Deed.offers {accepting : Bool} {v w : Stance} {hearing : Option Hearing}
    {given : List Effect} (deed : Deed accepting v hearing w given) {frame : String}
    (offered : frame ∈ given.filterMap Effect.frame) :
    (∃ number, hearing = some (.opened number)) ∨ TaskFrame frame := by
  have connected : v.phase = .ready → v.phase ≠ .connecting := by
    intro phase
    rw [phase]
    exact nofun
  cases deed with
  | install session token fresh => cases fresh <;> cases offered
  | reinstall held tokenHeld unspent fresh => cases fresh <;> cases offered
  | greet phase held tokenHeld used offer => exact .inl ⟨_, rfl⟩
  | pong phase held used offer =>
      obtain ⟨-, -, -, -, -, frames⟩ := offer.keeps (connected phase)
      rw [frames, List.mem_singleton] at offered
      exact .inr ⟨_, _, _, _, offered⟩
  | send phase held current used offer =>
      obtain ⟨-, -, -, -, -, frames⟩ := offer.keeps (connected phase)
      rw [List.filterMap_append, frames] at offered
      obtain rfl := List.mem_singleton.1 offered
      exact .inr ⟨_, _, _, _, rfl⟩
  | _ => cases offered

/-- A request names the instance held. -/
theorem Deed.requests {accepting : Bool} {v w : Stance} {hearing : Option Hearing}
    {given : List Effect} (deed : Deed accepting v hearing w given) {instanceId : InstanceId}
    (asked : instanceId ∈ given.filterMap Effect.instanceId) : v.instanceId = some instanceId := by
  cases deed with
  | install session token fresh => cases fresh <;> cases asked
  | reinstall held tokenHeld unspent fresh => cases fresh <;> cases asked
  | greet phase held tokenHeld used offer => cases offer <;> cases asked
  | pong phase held used offer => cases offer <;> cases asked
  | send phase held current used offer => cases offer <;> cases asked
  | request attempt known =>
      obtain rfl := List.mem_singleton.1 asked
      exact known
  | reconnect attempt known =>
      obtain rfl := List.mem_singleton.1 asked
      exact known
  | _ => cases asked

/-- **Credentials are presented at most once, and requests name the last instance.**  Of the
handshakes that a run offers no two follow the same delivery, and each carries the pair
delivered last; every other frame offered is a task frame.  A request for fresh credentials
names the instance of the last handshake that succeeded, so there is none before the first. -/
theorem credentials_presented_once (config : SessionConfig) (turns : List Turn) :
    ((attempts (history config turns)).map Prod.fst).Nodup ∧
    (∀ attempt ∈ attempts (history config turns),
      Attests (deliveries (history config turns)) attempt) ∧
    (∀ beat ∈ history config turns, ∀ frame ∈ beat.offered,
      frame ∈ beat.presented ∨ TaskFrame frame) ∧
    ∀ k beat, (history config turns)[k]? = some beat → ∀ attempt manual instanceId,
      .request attempt manual instanceId ∈ beat.effects →
        (instances ((history config turns).take k)).getLast? = some instanceId := by
  have life := life_of config turns
  have accredited := life_accredited life
  refine ⟨accredited.once, accredited.attested, ?_, ?_⟩
  · intro beat member frame offered
    obtain ⟨k, here⟩ := List.getElem?_of_mem member
    have among := offered
    rw [offered_signals] at among
    rcases (life.deed here).offers among with ⟨number, heard⟩ | task
    · rw [Beat.presented, heard]
      exact .inl offered
    · exact .inr task
  · intro k beat here attempt manual instanceId asked
    obtain ⟨before, -⟩ := life.at here
    rw [← (life_accredited before).instanceId]
    exact (life.deed here).requests
      (List.mem_filterMap.2 ⟨_, List.mem_filter.2 ⟨asked, rfl⟩, rfl⟩)

/-- The transport fails before it opens, so the pair is used again; it fails a second time, so
the session gives up. -/
example :
    attempts (history {} [
      { input := .init ⟨"S"⟩ ⟨"T"⟩ false }, { input := .transport 0 .failed },
      { input := .expired .retry ⟨2⟩ }, { input := .expired .settle ⟨3⟩ },
      { input := .transport 1 .opened }, { input := .transport 1 .failed },
      { input := .expired .retry ⟨4⟩ }]) = [(1, "sid=S&tok=T&")] := by
  decide +kernel

end Session

end Tether
