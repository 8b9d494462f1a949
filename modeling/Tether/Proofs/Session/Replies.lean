/-
# Tether.Proofs.Session.Replies -- what the end of a reconnect request leads to

A request ends with credentials, with the order to reload, or with a failure.  The reconnect
client may be any, and so may the credentials it brings; those read from a response are never
empty, but nothing holds another client to that.  The session withdraws the request before it
looks at the reply, and drops empty credentials without a word.  So it is left reconnecting,
without a retry or a request to wait for: no failure is counted, and nothing that happens by
itself takes it further.

    order to reload       idle
    usable credentials    connecting
    empty credentials     reconnecting, nothing to come
    failure               reconnecting with a retry to come, or failed

* `Stranded.inert` -- only a call of the application gets a stranded session going.
* `reply_onward`, `reply_stranded` -- the replies that lead on, and the one that does not.
* `stranded_by_empty_credentials` -- what a reply leads to, in any run.
-/
import Tether.Proofs.Session.Quiescence

set_option autoImplicit false

namespace Tether.Session

/-- The session goes on: it connects, it is at its end, or a retry is to come. -/
def Onward (s : Session) : Prop :=
  s.phase = .connecting ∨ s.phase = .idle ∨ s.phase = .failed ∨
    s.phase = .reconnecting ∧ s.retry.pending = true

/-- The session is to reconnect, but neither a retry nor a request is to come. -/
structure Stranded (s : Session) : Prop where
  phase : s.phase = .reconnecting
  retry : s.retry.pending = false
  requesting : s.requesting = false

theorem Stranded.not_onward {s : Session} (stranded : s.Stranded) : ¬s.Onward := by
  unfold Onward
  rw [stranded.phase, stranded.retry]
  rintro (phase | phase | phase | ⟨-, pending⟩)
  · cases phase
  · cases phase
  · cases phase
  · cases pending

/-- A stranded session awaits nothing that arrives from outside. -/
theorem Stranded.inert {s : Session} (stranded : s.Stranded) (coherent : s.Coherent False) :
    s.Inert := by
  have waiting := (arranged_reconnecting stranded.phase).1 coherent.arranged
  exact { waiting, stranded with }

theorem Anew.connects {setup : Setup} {forced : Bool} {v w : Footing} {given : List Effect}
    (anew : Anew setup forced v w given) : w.phase = .connecting := by
  cases anew with
  | now => rfl
  | later => rfl

section Reply

variable {config : SessionConfig} {past : List Beat} {s : Session} {turn : Turn} {manual : Bool}
  {reply : Option ReconnectReply}

/-- Only a session that reconnects has a request under way. -/
theorem Life.requests (life : Life config past s) (requesting : s.requesting = true) :
    s.running = true ∧ s.phase = .reconnecting := by
  have phase := life.coherent.arranged.awaits_reply requesting
  refine ⟨?_, phase⟩
  cases running : s.running with
  | true => rfl
  | false => cases (life_stopped life running).symm.trans phase

/-- A reply to the current request is what befalls the session. -/
theorem reply_befell (life : Life config past s) (requesting : s.requesting = true)
    (replied : turn.input = .resolved s.attempt manual reply) :
    (s.beat config turn).befell = Incident.ofReply reply := by
  have befell : (s.beat config turn).befell = s.befalls turn.accepting turn.input :=
    befell_running (life.requests requesting).1
  rw [befell, replied]
  exact if_pos ⟨rfl, requesting⟩

/-- A usable reply makes the session go on.  So does a failure, which is counted. -/
theorem reply_onward (life : Life config past s) (requesting : s.requesting = true)
    (replied : turn.input = .resolved s.attempt manual reply)
    (usable : ∀ given, reply = some given → given.Usable) :
    (s.beat config turn).after.Onward ∧
      (reply = none → (s.beat config turn).after.failures = s.failures + 1) := by
  have upshot := beat_upshot life turn
  rw [reply_befell life requesting replied] at upshot
  generalize s.beat config turn = beat at upshot ⊢
  match reply with
  | none =>
      obtain ⟨-, counted, -⟩ := upshot.failure
      refine ⟨?_, fun _ => counted⟩
      generalize after : beat.after.footing = w, marks beat.effects = given at upshot
      cases upshot with
      | setBack =>
          have phase := congrArg Footing.phase after
          have retry := congrArg Footing.retry after
          refine .inr (.inr (.inr ⟨phase, ?_⟩))
          exact congrArg TimerSlot.pending retry
      | beaten => exact .inr (.inr (.inl (congrArg Footing.phase after)))
  | some .refresh =>
      refine ⟨.inr (.inl ?_), nofun⟩
      generalize after : beat.after.footing = w, marks beat.effects = given at upshot
      cases upshot with
      | refresh => exact congrArg Footing.phase after
  | some (.credentials session token) =>
      refine ⟨.inl ?_, nofun⟩
      obtain ⟨first, second⟩ := usable _ rfl
      have brought : Incident.ofReply (some (.credentials session token)) = some .credentials := by
        rw [Incident.ofReply, first, second]
        rfl
      rw [brought] at upshot
      cases upshot with
      | credentials _ anew => exact anew.connects

/-- Empty credentials strand the session. -/
theorem reply_stranded (life : Life config past s) (requesting : s.requesting = true)
    {session : SessionId} {token : AccessToken}
    (replied : turn.input = .resolved s.attempt manual (some (.credentials session token)))
    (empty : (session.isEmpty || token.isEmpty) = true) :
    (s.beat config turn).after.Stranded ∧ (s.beat config turn).after.failures = s.failures ∧
      (s.beat config turn).effects = [] := by
  obtain ⟨running, phase⟩ := life.requests requesting
  obtain ⟨after, effects⟩ := beat_running running life.outbox turn
  have dropped : ∀ t : Session,
      t.onReply (turn.setup config) manual (some (.credentials session token)) =
        { t with manualPending := manual } := fun t => init_empty _ empty false _
  rw [replied, handle_resolved, if_pos ⟨rfl, requesting⟩, dropped] at after effects
  rw [after, effects]
  have waiting := (arranged_reconnecting phase).1 life.coherent.arranged
  have retry : s.retry.pending = false := by
    cases pending : s.retry.pending with
    | false => rfl
    | true => cases (waiting.exclusive pending).symm.trans requesting
  exact ⟨⟨phase, retry, rfl⟩, rfl, life.outbox⟩

/-- What is read from a response, whatever the response, makes the session go on. -/
theorem onward_of_read (life : Life config past s) (requesting : s.requesting = true)
    {outcome : Http.Outcome}
    (replied : turn.input = .resolved s.attempt manual (Reconnect.read outcome).toOption) :
    (s.beat config turn).after.Onward := by
  refine (reply_onward life requesting replied fun given brought => ?_).1
  cases ok : Reconnect.read outcome with
  | error fault =>
      rw [ok] at brought
      cases brought
  | ok reply =>
      rw [ok] at brought
      cases brought
      exact usable_of_read ok

end Reply

/-- **A reply makes the session go on, unless it brings empty credentials.**  Then the session is
left reconnecting without a retry or a request to wait for, no failure is counted, nothing is asked
for, and nothing that arrives from outside afterwards changes that.  A request that failed is one
failure more. -/
theorem stranded_by_empty_credentials {config : SessionConfig} {turns : List Turn} {k : Nat}
    {beat : Beat} (here : (history config turns)[k]? = some beat)
    (requesting : beat.before.requesting = true) {manual : Bool} {reply : Option ReconnectReply}
    (replied : beat.turn.input = .resolved beat.before.attempt manual reply) :
    beat.before.phase = .reconnecting ∧
      (beat.after.Onward ↔ ∀ given, reply = some given → given.Usable) ∧
      (reply = none → beat.after.failures = beat.before.failures + 1) ∧
      (¬beat.after.Onward →
        beat.after.Stranded ∧ beat.after.failures = beat.before.failures ∧ beat.effects = [] ∧
          ∀ more : List Turn, (∀ turn ∈ more, turn.input.Outside) →
            reachedFrom config beat.after more = beat.after ∧
              ∀ later ∈ historyFrom config beat.after more, later.effects = []) := by
  have later := (life_of config turns).through here
  obtain ⟨life, same⟩ := (life_of config turns).at here
  have phase := (life.requests requesting).2
  by_cases usable : ∀ given, reply = some given → given.Usable
  · have onward := reply_onward life requesting replied usable
    rw [← same] at onward
    exact ⟨phase, iff_of_true onward.1 usable, onward.2, fun other => absurd onward.1 other⟩
  · have missing := usable
    push Not at missing
    obtain ⟨given, rfl, useless⟩ := missing
    cases given with
    | refresh => exact absurd trivial useless
    | credentials session token =>
        have empty : (session.isEmpty || token.isEmpty) = true := by
          by_contra given
          rw [Bool.not_eq_true, Bool.or_eq_false_iff] at given
          exact useless given
        have stranded := reply_stranded life requesting replied empty
        rw [← same] at stranded
        obtain ⟨stranded, failures, effects⟩ := stranded
        refine ⟨phase, iff_of_false stranded.not_onward usable, nofun, fun _ => ?_⟩
        refine ⟨stranded, failures, effects, fun more outside => ?_⟩
        have inert := stranded.inert later.coherent
        obtain ⟨kept, quiet⟩ := inert.run later outside
        exact ⟨kept, fun other member => (quiet other member).1⟩

/-- A transport that served closes, the instance is asked for, and the reply brings empty
credentials. -/
def hollowRenewal : List Turn :=
  [{ input := .init ⟨"S1"⟩ ⟨"T1"⟩ false }, { input := .transport 0 .opened },
    { input := .transport 0 (.message "I1&K0") }, { input := .transport 0 .closed },
    { input := .expired .retry ⟨2⟩ },
    { input := .resolved 1 false (some (.credentials ⟨""⟩ ⟨""⟩)) }]

theorem hollowRenewal_replied :
    ∃ beat, (history {} hollowRenewal)[5]? = some beat ∧ beat.before.requesting = true ∧
      beat.turn.input =
        .resolved beat.before.attempt false (some (.credentials ⟨""⟩ ⟨""⟩)) := by
  refine ⟨_, rfl, ?_, ?_⟩ <;> decide +kernel

/-- The session is stranded, and the one failure counted is that of the transport. -/
theorem hollow_renewal_strands :
    ∃ beat, (history {} hollowRenewal)[5]? = some beat ∧ beat.before.requesting = true ∧
      beat.after.Stranded ∧ beat.after.failures = beat.before.failures := by
  obtain ⟨beat, here, requesting, replied⟩ := hollowRenewal_replied
  obtain ⟨-, onward, -, stranded⟩ := stranded_by_empty_credentials here requesting replied
  have useless : ¬beat.after.Onward := by
    rw [onward]
    intro usable
    cases (usable _ rfl).1
  exact ⟨beat, here, requesting, (stranded useless).1, (stranded useless).2.1⟩

/-- So not every reply makes the session go on. -/
theorem hollow_renewal_halts :
    ¬∀ (config : SessionConfig) (turns : List Turn) (k : Nat) (beat : Beat),
      (history config turns)[k]? = some beat → beat.before.phase = .reconnecting →
        beat.before.requesting = true → ∀ (manual : Bool) (reply : Option ReconnectReply),
          beat.turn.input = .resolved beat.before.attempt manual reply → beat.after.Onward := by
  intro onward
  obtain ⟨beat, here, requesting, replied⟩ := hollowRenewal_replied
  obtain ⟨life, same⟩ := (life_of {} hollowRenewal).at here
  have stranded := reply_stranded life requesting replied rfl
  rw [← same] at stranded
  have phase := (life.requests requesting).2
  exact stranded.1.not_onward (onward {} _ 5 beat here phase requesting false _ replied)

end Tether.Session
