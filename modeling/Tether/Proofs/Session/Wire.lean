/-
# Tether.Proofs.Session.Wire -- what a transport gets to carry

What is wired over one transport can be told without looking into the session: first the
handshake of the credentials that were delivered last when the transport was created;
then a task frame for every send that was answered with success while the transport was
in use, and a pong for every ping on it that the transport took the answer to.  All of
them bear the session id of the handshake, and the token that came last on this very
transport.

The session keeps the id, the token, the phase and the transport in fields of their own
and resets them at different moments.  `Wired` says how they go together for one
transport: what was wired so far fits the phase while the transport is in use, and what
was wired before is complete once it is not.

* `Wired.deed` -- every deed keeps it.
* `wire_trace` -- what every transport of every run carries.
-/
import Tether.Proofs.Session.Credentials

set_option autoImplicit false

namespace Tether

def Effect.sentOn (number : Nat) : Effect → Option String
  | .sent other frame => if other = number then some frame else none
  | _ => none

namespace Session

/-! ## What was wired, and what should have been -/

def Beat.sentOn (number : Nat) (beat : Beat) : List String :=
  beat.effects.filterMap (Effect.sentOn number)

def wired (number : Nat) (past : List Beat) : List String := past.flatMap (Beat.sentOn number)

def Beat.tokenOn (number : Nat) (beat : Beat) : Option ContinuationToken :=
  match beat.heard with
  | some (.welcome other _ token) | some (.frame other token _) =>
      if other = number then some token else none
  | _ => none

def lastToken (number : Nat) (past : List Beat) : Option ContinuationToken :=
  (past.filterMap (Beat.tokenOn number)).getLast?

/-- The task frame that transport `number` owes for a beat, under `session` and the last `token`:
one for a send that was answered with success, and one for a ping if the transport took the
answer, under the token of the ping. -/
def Beat.owed (number : Nat) (session : SessionId) (token : Option ContinuationToken)
    (beat : Beat) : List (Option String) :=
  match beat.heard with
  | some (.task call task fields) =>
      if beat.before.active.map (·.number) = some number ∧ .answer call true ∈ beat.effects then
        [token.map fun token => Frame.outbound session token task fields]
      else []
  | some (.frame other own remainder) =>
      if other = number ∧ remainder = Frame.ping ∧ beat.turn.accepting = true then
        [some (Frame.pong session own)]
      else []
  | _ => []

/-- The task frames that transport `number` owes, in order.  A frame for which there is no token
would be missing. -/
def owed (number : Nat) (session : SessionId) (past : List Beat) : List (Option String) :=
  retell (fun earlier beat => beat.owed number session (lastToken number earlier)) past

/-- Transport `number` was created for these credentials. -/
def CreatedFor (past : List Beat) (number : Nat) (session : SessionId) (token : AccessToken) :
    Prop :=
  ∃ k beat kind, past[k]? = some beat ∧ .open ⟨number, kind⟩ ∈ beat.effects ∧
    (deliveries (past.take (k + 1))).getLast? = some (session, token)

section Concat

variable (number : Nat) (past : List Beat) (beat : Beat)

theorem wired_concat : wired number (past ++ [beat]) = wired number past ++ beat.sentOn number := by
  rw [wired, List.flatMap_append, List.flatMap_singleton]
  rfl

theorem owed_concat (session : SessionId) :
    owed number session (past ++ [beat]) =
      owed number session past ++ beat.owed number session (lastToken number past) :=
  retell_concat _ past beat

theorem lastToken_concat :
    lastToken number (past ++ [beat]) = (beat.tokenOn number).or (lastToken number past) := by
  rw [lastToken, List.filterMap_append, List.getLast?_append]
  refine congrArg (Option.or · _) ?_
  cases token : beat.tokenOn number <;> simp [token]

end Concat

theorem CreatedFor.concat {past : List Beat} {number : Nat} {session : SessionId}
    {token : AccessToken} (created : CreatedFor past number session token) (beat : Beat) :
    CreatedFor (past ++ [beat]) number session token := by
  obtain ⟨k, first, kind, here, opened, last⟩ := created
  have inside : k < past.length := (List.getElem?_eq_some_iff.1 here).1
  refine ⟨k, first, kind, ?_, opened, ?_⟩
  · rw [List.getElem?_append_left inside]
    exact here
  · rw [List.take_append_of_le_length inside]
    exact last

/-! ## The invariant -/

structure Silent (past : List Beat) (number : Nat) : Prop where
  wired : wired number past = []
  owed : ∀ session, owed number session past = []

structure Spoken (past : List Beat) (number : Nat) (session : SessionId) (token : AccessToken)
    (tasks : List String) : Prop where
  wired : wired number past = Frame.handshake session token :: tasks
  owed : tasks.map some = owed number session past

/-- How far the transport in use got. -/
inductive Stage (past : List Beat) (v : Stance) (number : Nat) (session : SessionId)
    (token : AccessToken) : Prop
  | connecting (phase : v.phase = .connecting) (tokenHeld : v.accessToken = some token)
      (silent : Silent past number) (untold : lastToken number past = none)
  | handshaking (phase : v.phase = .handshaking) (spoken : Spoken past number session token [])
      (untold : lastToken number past = none)
  | ready (tasks : List String) (phase : v.phase = .ready)
      (spoken : Spoken past number session token tasks)
      (told : lastToken number past = v.continuation)

/-- What is wired over the transport in use goes with what the session holds. -/
structure InUse (past : List Beat) (v : Stance) (number : Nat) : Prop where
  known : number < v.nextLink
  stage : ∃ session token, CreatedFor past number session token ∧ v.sessionId = some session ∧
    Stage past v number session token

def Traced (past : List Beat) (number : Nat) : Prop :=
  Silent past number ∨ ∃ session token tasks, CreatedFor past number session token ∧
    Spoken past number session token tasks

/-- The invariant for one transport: before it is created, while it is in use, and ever after. -/
structure Wired (past : List Beat) (v : Stance) (number : Nat) : Prop where
  traced : Traced past number
  future : v.nextLink ≤ number → Silent past number ∧ lastToken number past = none
  current : v.active = some number → InUse past v number

section Steps

variable {past : List Beat} {beat : Beat} {v w : Stance} {number : Nat}

theorem fresh_wired (number : Nat) : Wired [] (({} : Session).stance) number :=
  ⟨.inl ⟨rfl, fun _ => rfl⟩, fun _ => ⟨⟨rfl, fun _ => rfl⟩, rfl⟩, nofun⟩

theorem InUse.traced (inUse : InUse past v number) : Traced past number := by
  obtain ⟨session, token, created, -, stage⟩ := inUse.stage
  cases stage with
  | connecting phase tokenHeld silent untold => exact .inl silent
  | handshaking phase spoken untold => exact .inr ⟨session, token, [], created, spoken⟩
  | ready tasks phase spoken told => exact .inr ⟨session, token, tasks, created, spoken⟩

theorem InUse.wired (inUse : InUse past v number) : Wired past v number :=
  ⟨inUse.traced, fun future => absurd inUse.known (Nat.not_lt.2 future), fun _ => inUse⟩

/-- The beat wires nothing over the transport, and owes it nothing. -/
structure Mute (number : Nat) (beat : Beat) : Prop where
  sent : beat.sentOn number = []
  owed : ∀ session token, beat.owed number session token = []

theorem Silent.mute (silent : Silent past number) (mute : Mute number beat) :
    Silent (past ++ [beat]) number := by
  constructor
  · rw [wired_concat, silent.wired, mute.sent]
    rfl
  · intro session
    rw [owed_concat, silent.owed, mute.owed]
    rfl

theorem Spoken.mute {session : SessionId} {token : AccessToken} {tasks : List String}
    (spoken : Spoken past number session token tasks) (mute : Mute number beat) :
    Spoken (past ++ [beat]) number session token tasks := by
  constructor
  · rw [wired_concat, mute.sent, List.append_nil]
    exact spoken.wired
  · rw [owed_concat, mute.owed, List.append_nil]
    exact spoken.owed

/-- One frame more that was owed. -/
theorem Spoken.task {session : SessionId} {token : AccessToken} {tasks : List String}
    (spoken : Spoken past number session token tasks) {frame : String}
    (sent : beat.sentOn number = [frame])
    (owes : beat.owed number session (lastToken number past) = [some frame]) :
    Spoken (past ++ [beat]) number session token (tasks ++ [frame]) := by
  constructor
  · rw [wired_concat, spoken.wired, sent]
    rfl
  · rw [owed_concat, ← spoken.owed, owes, List.map_append]
    rfl

theorem Traced.mute (traced : Traced past number) (mute : Mute number beat) :
    Traced (past ++ [beat]) number := by
  rcases traced with silent | ⟨session, token, tasks, created, spoken⟩
  · exact .inl (silent.mute mute)
  · exact .inr ⟨session, token, tasks, created.concat beat, spoken.mute mute⟩

/-- The transport is given up, or stays so. -/
theorem Wired.away (wired : Wired past v number) (mute : Mute number beat)
    (away : w.active ≠ some number) (known : number < w.nextLink) :
    Wired (past ++ [beat]) w number :=
  ⟨wired.traced.mute mute, fun future => absurd known (Nat.not_lt.2 future),
    fun used => absurd used away⟩

/-- A beat that leaves the transport and the stance alone. -/
theorem InUse.still (inUse : InUse past v number) (mute : Mute number beat)
    (untold : beat.tokenOn number = none) : InUse (past ++ [beat]) v number := by
  have same : lastToken number (past ++ [beat]) = lastToken number past := by
    rw [lastToken_concat, untold, Option.none_or]
  obtain ⟨known, session, token, created, held, stage⟩ := inUse
  refine ⟨known, session, token, created.concat beat, held, ?_⟩
  cases stage with
  | connecting phase tokenHeld silent untold =>
      exact .connecting phase tokenHeld (silent.mute mute) (same.trans untold)
  | handshaking phase spoken untold =>
      exact .handshaking phase (spoken.mute mute) (same.trans untold)
  | ready tasks phase spoken told => exact .ready tasks phase (spoken.mute mute) (same.trans told)

/-! ### How far it got -/

theorem InUse.connecting (inUse : InUse past v number) (phase : v.phase = .connecting) :
    ∃ session token, CreatedFor past number session token ∧ v.sessionId = some session ∧
      v.accessToken = some token ∧ Silent past number ∧ lastToken number past = none := by
  obtain ⟨session, token, created, held, stage⟩ := inUse.stage
  cases stage with
  | connecting _ tokenHeld silent untold =>
      exact ⟨session, token, created, held, tokenHeld, silent, untold⟩
  | handshaking other => cases phase.symm.trans other
  | ready _ other => cases phase.symm.trans other

theorem InUse.handshaking (inUse : InUse past v number) (phase : v.phase = .handshaking) :
    ∃ session token, CreatedFor past number session token ∧ v.sessionId = some session ∧
      Spoken past number session token [] := by
  obtain ⟨session, token, created, held, stage⟩ := inUse.stage
  cases stage with
  | connecting other => cases phase.symm.trans other
  | handshaking _ spoken untold => exact ⟨session, token, created, held, spoken⟩
  | ready _ other => cases phase.symm.trans other

theorem InUse.ready (inUse : InUse past v number) (phase : v.phase = .ready) :
    ∃ session token tasks, CreatedFor past number session token ∧ v.sessionId = some session ∧
      Spoken past number session token tasks ∧ lastToken number past = v.continuation := by
  obtain ⟨session, token, created, held, stage⟩ := inUse.stage
  cases stage with
  | connecting other => cases phase.symm.trans other
  | handshaking other => cases phase.symm.trans other
  | ready tasks _ spoken told => exact ⟨session, token, tasks, created, held, spoken, told⟩

/-! ### One step further -/

/-- The transport took the handshake. -/
theorem InUse.greeted (inUse : InUse past v number) (phase : v.phase = .connecting)
    {session : SessionId} {token : AccessToken} (held : v.sessionId = some session)
    (tokenHeld : v.accessToken = some token) (heard : beat.heard = some (.opened number))
    (sent : beat.sentOn number = [Frame.handshake session token]) :
    InUse (past ++ [beat]) v.presenting number := by
  obtain ⟨session', token', created, held', tokenHeld', silent, untold⟩ := inUse.connecting phase
  obtain rfl := Option.some.inj (held'.symm.trans held)
  obtain rfl := Option.some.inj (tokenHeld'.symm.trans tokenHeld)
  refine ⟨inUse.known, session', token', created.concat beat, held, .handshaking rfl ⟨?_, ?_⟩ ?_⟩
  · rw [wired_concat, silent.wired, sent]
    rfl
  · rw [owed_concat, silent.owed, Beat.owed, heard]
    rfl
  · rw [lastToken_concat, untold, Beat.tokenOn, heard]
    rfl

/-- The handshake succeeded. -/
theorem InUse.welcomed (inUse : InUse past v number) (phase : v.phase = .handshaking)
    {instanceId : InstanceId} {token : ContinuationToken}
    (heard : beat.heard = some (.welcome number instanceId token)) (mute : Mute number beat) :
    InUse (past ++ [beat]) (v.welcomed instanceId token) number := by
  obtain ⟨session, access, created, held, spoken⟩ := inUse.handshaking phase
  refine ⟨inUse.known, session, access, created.concat beat, held,
    .ready [] rfl (spoken.mute mute) ?_⟩
  rw [lastToken_concat, Beat.tokenOn, heard]
  show Option.or (if number = number then some token else none) _ = some token
  rw [if_pos rfl, Option.some_or]

/-- A frame brought the next token, and what was owed for it was wired. -/
theorem InUse.rotated (inUse : InUse past v number) (phase : v.phase = .ready)
    {token : ContinuationToken} {remainder : String}
    (heard : beat.heard = some (.frame number token remainder))
    (wires : ∀ session access tasks, v.sessionId = some session →
      Spoken past number session access tasks →
        ∃ tasks, Spoken (past ++ [beat]) number session access tasks) :
    InUse (past ++ [beat]) (v.rotated token) number := by
  obtain ⟨session, access, tasks, created, held, spoken, -⟩ := inUse.ready phase
  obtain ⟨more, spoken⟩ := wires session access tasks held spoken
  refine ⟨inUse.known, session, access, created.concat beat, held, .ready more phase spoken ?_⟩
  rw [lastToken_concat, Beat.tokenOn, heard]
  show Option.or (if number = number then some token else none) _ = some token
  rw [if_pos rfl, Option.some_or]

/-- A task was sent. -/
theorem InUse.sent (inUse : InUse past beat.before.stance number)
    (phase : beat.before.stance.phase = .ready) (own : beat.before.stance.active = some number)
    {session : SessionId} {token : ContinuationToken} {call : Nat} {task : String}
    {fields : List (String × String)} (held : beat.before.stance.sessionId = some session)
    (current : beat.before.stance.continuation = some token)
    (heard : beat.heard = some (.task call task fields))
    (answered : .answer call true ∈ beat.effects)
    (sent : beat.sentOn number = [Frame.outbound session token task fields]) :
    InUse (past ++ [beat]) beat.before.stance number := by
  obtain ⟨session', access, tasks, created, held', spoken, told⟩ := inUse.ready phase
  obtain rfl := Option.some.inj (held'.symm.trans held)
  have owes : beat.owed number session' (lastToken number past) =
      [some (Frame.outbound session' token task fields)] := by
    rw [Beat.owed, heard, told, current]
    exact if_pos ⟨own, answered⟩
  refine ⟨inUse.known, session', access, created.concat beat, held,
    .ready _ phase (spoken.task sent owes) ?_⟩
  rw [lastToken_concat, Beat.tokenOn, heard]
  exact told

/-! ## What deeds wire -/

theorem sentOn_signals (number : Nat) (beat : Beat) :
    beat.sentOn number = (signals beat.effects).filterMap (Effect.sentOn number) := by
  refine filterMap_signals (fun effect unnoticed => ?_) beat.effects
  cases effect <;> first | rfl | cases unnoticed

/-- An answer is noticed. -/
theorem answer_signals (beat : Beat) (call : Nat) :
    .answer call true ∈ beat.effects ↔ .answer call true ∈ signals beat.effects :=
  ⟨fun member => List.mem_filter.2 ⟨member, rfl⟩, fun member => (List.mem_filter.1 member).1⟩

/-- The transport in use is not this one. -/
theorem ne_of_used {used : Nat} (other : v.active ≠ some number) (inUse : v.active = some used) :
    used ≠ number := by
  rintro rfl
  exact other inUse

/-- What is heard owes no frame, and brings no token. -/
def Tokenless : Option Hearing → Prop
  | none | some (.credentials ..) | some (.opened _) => True
  | _ => False

theorem owed_of_tokenless {hearing : Option Hearing} (heard : beat.heard = hearing)
    (tokenless : Tokenless hearing) (session : SessionId) (token : Option ContinuationToken) :
    beat.owed number session token = [] := by
  rw [Beat.owed, heard]
  rcases hearing with _ | credentials | task | opened | welcome | frame
  case task => exact tokenless.elim
  case frame => exact tokenless.elim
  all_goals rfl

theorem tokenOn_of_tokenless {hearing : Option Hearing} (heard : beat.heard = hearing)
    (tokenless : Tokenless hearing) : beat.tokenOn number = none := by
  rw [Beat.tokenOn, heard]
  rcases hearing with _ | credentials | task | opened | welcome | frame
  case welcome => exact tokenless.elim
  case frame => exact tokenless.elim
  all_goals rfl

/-- An offer to one transport wires nothing over another. -/
theorem Offer.elsewhere {other : Nat} {frame : String} {accepting : Bool} {given : List Effect}
    (offer : Offer other frame v accepting w given) (different : other ≠ number) :
    given.filterMap (Effect.sentOn number) = [] := by
  cases offer with
  | sent => exact List.filterMap_cons_none (if_neg different)
  | refused phase down => rfl

theorem Fresh.silent {given : List Effect} (fresh : Fresh v w given) :
    given.filterMap (Effect.sentOn number) = [] := by
  cases fresh <;> rfl

/-- A deed wires nothing over a transport that is not in use, and owes it nothing. -/
theorem Deed.mute (deed : Deed beat.turn.accepting beat.before.stance beat.heard w
    (signals beat.effects)) (other : beat.before.stance.active ≠ some number) :
    Mute number beat := by
  have sent := sentOn_signals number beat
  generalize heard : beat.heard = hearing at deed
  generalize signals beat.effects = given at deed sent
  refine ⟨sent.trans ?_, fun session token => ?_⟩
  · cases deed with
    | install session token fresh => exact fresh.silent
    | reinstall held tokenHeld unspent fresh => exact fresh.silent
    | greet phase held tokenHeld used offer => exact offer.elsewhere (ne_of_used other used)
    | pong phase held used offer => exact offer.elsewhere (ne_of_used other used)
    | send phase held current used offer =>
        rw [List.filterMap_append, offer.elsewhere (ne_of_used other used)]
        rfl
    | _ => rfl
  · rw [Beat.owed, heard]
    cases deed with
    | frame phase used token payload => exact if_neg fun ping => payload ping.2.1
    | pong phase held used offer => exact if_neg fun own => ne_of_used other used own.1
    | unready phase call task fields => exact if_neg fun own => other own.1
    | lost phase down call task fields => exact if_neg fun own => other own.1
    | send phase held current used offer => exact if_neg fun own => other own.1
    | _ => rfl

/-- Only a deed that opens a transport brings one into use, and it is a new one. -/
theorem Deed.creates {accepting : Bool} {hearing : Option Hearing} {given : List Effect}
    (deed : Deed accepting v hearing w given) (other : v.active ≠ some number)
    (used : w.active = some number) :
    number = v.nextLink ∧ number < w.nextLink ∧ w.phase = .connecting ∧
      (∃ session token, w.sessionId = some session ∧ w.accessToken = some token) ∧
      ∃ kind, .open ⟨number, kind⟩ ∈ given := by
  have opened : ∀ {u : Stance}, Fresh u w given → u.phase = .connecting → u.nextLink = v.nextLink →
      u.active = none → (∃ session token, u.sessionId = some session ∧ u.accessToken = some token) →
      number = v.nextLink ∧ number < w.nextLink ∧ w.phase = .connecting ∧
        (∃ session token, w.sessionId = some session ∧ w.accessToken = some token) ∧
        ∃ kind, .open ⟨number, kind⟩ ∈ given := by
    intro u fresh phase nextLink unused held
    cases fresh with
    | now kind =>
        obtain rfl := Option.some.inj used
        exact ⟨nextLink, Nat.lt_succ_self _, phase, held, kind, List.mem_singleton_self _⟩
    | later => cases unused.symm.trans used
  have kept : ∀ {n : Nat} {frame : String} {u : Stance} {signals : List Effect},
      Offer n frame u accepting w signals → u.active = v.active → False := by
    intro n frame u signals offer same
    cases offer with
    | sent => exact other (same.symm.trans used)
    | refused phase down => cases used
  cases deed with
  | install session token fresh => exact opened fresh rfl rfl rfl ⟨session, token, rfl, rfl⟩
  | @reinstall session token _ _ held tokenHeld unspent fresh =>
      exact opened fresh rfl rfl rfl ⟨session, token, rfl, rfl⟩
  | @settled session token phase held tokenHeld unused kind =>
      exact opened (.now kind) phase rfl unused ⟨session, token, held, tokenHeld⟩
  | greet phase held tokenHeld inUse offer => exact (kept offer rfl).elim
  | pong phase held inUse offer => exact (kept offer rfl).elim
  | send phase held current inUse offer => exact (kept offer rfl).elim
  | drop phase down => cases used
  | lost phase down call task fields => cases used
  | reconnect attempt known => cases used
  | _ => exact absurd used other

theorem Fresh.nextLink_le {given : List Effect} (fresh : Fresh v w given) :
    v.nextLink ≤ w.nextLink := by
  cases fresh with
  | now kind => exact Nat.le_succ _
  | later => exact Nat.le_refl _

/-- No number is given up for reuse. -/
theorem Deed.nextLink_le {accepting : Bool} {hearing : Option Hearing} {given : List Effect}
    (deed : Deed accepting v hearing w given) : v.nextLink ≤ w.nextLink := by
  cases deed with
  | install session token fresh => exact fresh.nextLink_le
  | reinstall held tokenHeld unspent fresh => exact fresh.nextLink_le
  | settled phase held tokenHeld unused kind => exact Nat.le_succ _
  | greet phase held tokenHeld used offer => cases offer <;> exact Nat.le_refl _
  | pong phase held used offer => cases offer <;> exact Nat.le_refl _
  | send phase held current used offer => cases offer <;> exact Nat.le_refl _
  | _ => exact Nat.le_refl _

/-- A deed while another transport is in use, or none: only the creation of this one counts. -/
theorem Wired.elsewhere (wired : Wired past beat.before.stance number)
    (accredited : Accredited (past ++ [beat]) w)
    (deed : Deed beat.turn.accepting beat.before.stance beat.heard w (signals beat.effects))
    (other : beat.before.stance.active ≠ some number) : Wired (past ++ [beat]) w number := by
  have mute := deed.mute other
  have untold : beat.tokenOn number = none := by
    generalize heard : beat.heard = hearing at deed
    generalize signals beat.effects = given at deed
    rw [Beat.tokenOn, heard]
    cases deed with
    | welcome phase used instanceId token => exact if_neg (ne_of_used other used)
    | frame phase used token payload => exact if_neg (ne_of_used other used)
    | pong phase held used offer => exact if_neg (ne_of_used other used)
    | _ => rfl
  have same : lastToken number (past ++ [beat]) = lastToken number past := by
    rw [lastToken_concat, untold, Option.none_or]
  by_cases used : w.active = some number
  · obtain ⟨new, known, phase, ⟨session, token, held, tokenHeld⟩, kind, opened⟩ :=
      deed.creates other used
    obtain ⟨silent, nothing⟩ := wired.future (Nat.le_of_eq new.symm)
    have created : CreatedFor (past ++ [beat]) number session token := by
      refine ⟨past.length, beat, kind, List.getElem?_concat_length, ?_, ?_⟩
      · exact (List.mem_filter.1 opened).1
      · rw [List.take_of_length_le (by simp)]
        exact accredited.pair held tokenHeld
    exact InUse.wired ⟨known, session, token, created, held,
      .connecting phase tokenHeld (silent.mute mute) (same.trans nothing)⟩
  · refine ⟨wired.traced.mute mute, fun future => ?_, fun inUse => absurd inUse used⟩
    obtain ⟨silent, nothing⟩ := wired.future (Nat.le_trans deed.nextLink_le future)
    exact ⟨silent.mute mute, same.trans nothing⟩

/-- A transport opened instead is another one. -/
theorem Fresh.away {given : List Effect} (fresh : Fresh v w given) (unused : v.active = none)
    (known : number < v.nextLink) : w.active ≠ some number := by
  cases fresh with
  | now kind => exact fun same => absurd (Option.some.inj same) (Nat.ne_of_gt known)
  | later =>
      rw [unused]
      exact nofun

/-- A deed while the transport is in use. -/
theorem Wired.onward (wired : Wired past beat.before.stance number)
    (deed : Deed beat.turn.accepting beat.before.stance beat.heard w (signals beat.effects))
    (own : beat.before.stance.active = some number) : Wired (past ++ [beat]) w number := by
  have inUse := wired.current own
  have known : number < w.nextLink := Nat.lt_of_lt_of_le inUse.known deed.nextLink_le
  have sent := sentOn_signals number beat
  have answered := answer_signals beat
  generalize heard : beat.heard = hearing at deed
  generalize accepts : beat.turn.accepting = accepting at deed
  generalize signals beat.effects = given at deed sent answered
  -- Whatever else was heard, no frame is owed.
  have mute : given.filterMap (Effect.sentOn number) = [] →
      (∀ session token, beat.owed number session token = []) → Mute number beat :=
    fun none owed => ⟨sent.trans none, owed⟩
  cases deed with
  | still =>
      exact (inUse.still (mute rfl (owed_of_tokenless heard trivial))
        (tokenOn_of_tokenless heard trivial)).wired
  | drop phase down =>
      exact wired.away (mute rfl (owed_of_tokenless heard trivial)) nofun known
  | install session token fresh =>
      exact wired.away (mute fresh.silent (owed_of_tokenless heard trivial))
        (fresh.away rfl inUse.known) known
  | reinstall held tokenHeld unspent fresh =>
      exact wired.away (mute fresh.silent (owed_of_tokenless heard trivial))
        (fresh.away rfl inUse.known) known
  | settled phase held tokenHeld unused kind => cases unused.symm.trans own
  | greet phase held tokenHeld used offer =>
      obtain rfl := Option.some.inj (used.symm.trans own)
      cases offer with
      | sent =>
          have frames := sent.trans (List.filterMap_cons_some (if_pos rfl))
          exact (inUse.greeted phase held tokenHeld heard frames).wired
      | refused after down =>
          exact wired.away (mute rfl (owed_of_tokenless heard trivial)) nofun known
  | reopened other =>
      exact (inUse.still (mute rfl (owed_of_tokenless heard trivial))
        (tokenOn_of_tokenless heard trivial)).wired
  | welcome phase used instanceId token =>
      obtain rfl := Option.some.inj (used.symm.trans own)
      refine (inUse.welcomed phase heard (mute rfl fun session token => ?_)).wired
      rw [Beat.owed, heard]
  | frame phase used token payload =>
      obtain rfl := Option.some.inj (used.symm.trans own)
      refine (inUse.rotated phase heard fun session access tasks _ spoken => ?_).wired
      refine ⟨tasks, spoken.mute (mute rfl fun session token => ?_)⟩
      rw [Beat.owed, heard]
      exact if_neg fun ping => payload ping.2.1
  | @pong session _ token _ _ phase held used offer =>
      obtain rfl := Option.some.inj (used.symm.trans own)
      cases offer with
      | sent =>
          have frames := sent.trans (List.filterMap_cons_some (if_pos rfl))
          refine (inUse.rotated phase heard fun session' access tasks held' spoken => ?_).wired
          obtain rfl := Option.some.inj (held.symm.trans held')
          refine ⟨_, spoken.task frames ?_⟩
          rw [Beat.owed, heard]
          exact if_pos ⟨rfl, rfl, accepts⟩
      | refused after down =>
          refine wired.away (mute rfl fun session token => ?_) nofun known
          rw [Beat.owed, heard]
          refine if_neg fun taken => ?_
          cases accepts.symm.trans taken.2.2
  | unready phase call task fields =>
      refine (inUse.still (mute rfl fun session token => ?_) ?_).wired
      · rw [Beat.owed, heard]
        refine if_neg fun success => ?_
        cases List.mem_singleton.1 ((answered call).1 success.2)
      · rw [Beat.tokenOn, heard]
  | lost phase down call task fields =>
      refine wired.away (mute rfl fun session token => ?_) nofun known
      rw [Beat.owed, heard]
      refine if_neg fun success => ?_
      cases List.mem_singleton.1 ((answered call).1 success.2)
  | send phase held current used offer =>
      obtain rfl := Option.some.inj (used.symm.trans own)
      cases offer with
      | sent =>
          have frames := sent.trans (List.filterMap_cons_some (if_pos rfl))
          have success := (answered _).2 (List.mem_append_right _ (List.mem_singleton_self _))
          exact (inUse.sent phase own held current heard success frames).wired
      | refused after down =>
          refine wired.away (mute rfl fun session token => ?_) nofun known
          rw [Beat.owed, heard]
          refine if_neg fun success => ?_
          rcases List.mem_append.1 ((answered _).1 success.2) with refused | answer
          · cases List.mem_singleton.1 refused
          · cases List.mem_singleton.1 answer
  | request attempt known =>
      exact (inUse.still (mute rfl (owed_of_tokenless heard trivial))
        (tokenOn_of_tokenless heard trivial)).wired
  | reconnect attempt _ =>
      exact wired.away (mute rfl (owed_of_tokenless heard trivial)) nofun known

theorem Wired.deed (wired : Wired past beat.before.stance number)
    (accredited : Accredited (past ++ [beat]) w)
    (deed : Deed beat.turn.accepting beat.before.stance beat.heard w (signals beat.effects)) :
    Wired (past ++ [beat]) w number := by
  by_cases own : beat.before.stance.active = some number
  · exact wired.onward deed own
  · exact wired.elsewhere accredited deed own

end Steps

theorem life_wired {config : SessionConfig} {past : List Beat} {s : Session}
    (life : Life config past s) (number : Nat) : Wired past s.stance number := by
  induction life with
  | fresh => exact fresh_wired number
  | @beat past s life turn ih =>
      have wired : Wired past (s.beat config turn).before.stance number := ih
      exact wired.deed (life_accredited (life.beat turn)) (beat_deed life turn)

/-- **What every transport carries.**  Over each transport of each run nothing was wired and
nothing is owed, or it took the handshake of the credentials that it was created for, once and
first of all, and then the task frames it owes: one for every send answered with success and one
for every ping whose answer it took, in order, under the session id of the handshake and the
token that came last over this transport. -/
theorem wire_trace (config : SessionConfig) (turns : List Turn) (number : Nat) :
    (wired number (history config turns) = [] ∧
      ∀ session, owed number session (history config turns) = []) ∨
    ∃ session token tasks, CreatedFor (history config turns) number session token ∧
      wired number (history config turns) = Frame.handshake session token :: tasks ∧
      tasks.map some = owed number session (history config turns) := by
  rcases (life_wired (life_of config turns) number).traced with silent | spoken
  · exact .inl ⟨silent.wired, silent.owed⟩
  · obtain ⟨session, token, tasks, created, spoken⟩ := spoken
    exact .inr ⟨session, token, tasks, created, spoken.wired, spoken.owed⟩

example :
    wired 0 (history {} [
      { input := .init ⟨"S"⟩ ⟨"T"⟩ false }, { input := .transport 0 .opened },
      { input := .transport 0 (.message "I&K0") }, { input := .send 0 "go" [] },
      { input := .transport 0 (.message "K1&ping") }]) =
    ["sid=S&tok=T&", "sid=S&tok=K0&tsk=go&", "sid=S&tok=K1&tsk=pong&"] := by
  decide +kernel

end Session

end Tether
