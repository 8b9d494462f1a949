/-
# Tether.Proofs.Session.Retries -- failures and retries, one for one

A spell begins when the count of failures starts over, and lasts as long as the session gets
no help: no handshake succeeds, and neither the application nor an order to reload
interferes.  In a spell every failure that the budget allows is followed by one reconnect
request, when the retry delay has passed, and by nothing else that counts before that; the
failure past the budget is the last one.

The invariant of a spell (`Spell`) has three cases.  The session waits for no retry, and
every failure was followed by its request; or it waits for a retry, and all failures but the
last one were; or it has given up.  A beat leads from one case to the next as the footing
does, and the clock is needed in one place: the expiry that a session waits for comes in
time (`expiry_on_time`).

* `retries_within_budget` -- what is to be seen of failures and requests in a spell.
-/
import Mathlib.Data.List.Induction
import Mathlib.Tactic.ByContra
import Tether.Proofs.Session.Tally
import Tether.Proofs.Session.Timeline

set_option autoImplicit false

namespace Tether.Session

/-! ## What there is to be seen -/

/-- What helps a session, or puts an end to its attempts. -/
def aids : Option Incident → Bool
  | some (.welcome _) | some (.start _) | some .reconnect | some .close | some .refresh => true
  | _ => false

def Beat.aided (beat : Beat) : Bool := aids beat.befell

/-- A reconnect request that the session makes by itself. -/
def automatic : Effect → Bool
  | .request _ manual _ => !manual
  | _ => false

def final : Effect → Bool
  | .show (.fatal .cannotConnect) | .event (.fault (.budgetExhausted _)) => true
  | _ => false

def failuresAt (segment : List Moment) : List Nat :=
  (segment.filter fun moment => moment.beat.befell == some .failure).map Moment.time

/-- The times of the reconnect requests that the session made by itself. -/
def requestsAt (segment : List Moment) : List Nat :=
  segment.flatMap fun moment => (moment.beat.effects.filter automatic).map fun _ => moment.time

def finals (segment : List Moment) : List Effect :=
  segment.flatMap fun moment => moment.beat.effects.filter final

theorem failuresAt_concat (segment : List Moment) (moment : Moment) :
    failuresAt (segment ++ [moment]) =
      if moment.beat.befell = some .failure then failuresAt segment ++ [moment.time]
      else failuresAt segment := by
  unfold failuresAt
  rw [List.filter_append]
  by_cases failed : moment.beat.befell = some .failure
  · simp [failed]
  · simp [failed]

theorem requestsAt_concat (segment : List Moment) (moment : Moment) :
    requestsAt (segment ++ [moment]) =
      requestsAt segment ++ (moment.beat.effects.filter automatic).map fun _ => moment.time := by
  simp [requestsAt]

theorem finals_concat (segment : List Moment) (moment : Moment) :
    finals (segment ++ [moment]) = finals segment ++ moment.beat.effects.filter final := by
  simp [finals]

/-- What is picked out among the marks is picked out among all effects. -/
theorem filter_marks {p : Effect → Bool} (bold : ∀ effect, p effect = true → marked effect = true)
    (effects : List Effect) : (marks effects).filter p = effects.filter p := by
  rw [marks, List.filter_filter]
  refine List.filter_congr fun effect _ => ?_
  cases picked : p effect with
  | false => rfl
  | true => rw [bold effect picked]; rfl

theorem filter_automatic (effects : List Effect) :
    effects.filter automatic = (marks effects).filter automatic := by
  refine (filter_marks ?_ effects).symm
  intro effect picked
  cases effect with
  | request attempt manual instanceId => rfl
  | _ => cases picked

theorem filter_final (effects : List Effect) :
    effects.filter final = (marks effects).filter final := by
  refine (filter_marks ?_ effects).symm
  intro effect picked
  unfold final at picked
  split at picked
  · rfl
  · rfl
  · cases picked

theorem filter_retirement {p : Effect → Bool} (spares : ∀ number, p (.retire number) = false)
    (links : List Link) (rest : List Effect) :
    (retirement links ++ rest).filter p = rest.filter p := by
  rw [List.filter_append, List.append_left_eq_self]
  simp [retirement, List.filter_eq_nil_iff, spares]

/-! ## Spells -/

/-- How a session stands after the moments of a spell. -/
inductive Standing (config : SessionConfig) (segment : List Moment) (v : Footing) : Prop
  /-- Every failure was followed by its request. -/
  | answered (idle : v.retry.pending = false)
      (within : (failuresAt segment).length ≤ config.retryBudget.toNat)
      (requests : requestsAt segment = (failuresAt segment).map (· + config.retryDelay.toNat))
      (quiet : finals segment = [])
  /-- The request that follows the last failure is still to come. -/
  | waiting (phase : v.phase = .reconnecting) (pending : v.retry.pending = true)
      {earlier : List Nat} {last : Moment} (member : last ∈ segment)
      (started : .start .retry v.retry.ticket config.retryDelay.toNat ∈ last.beat.effects)
      (failures : failuresAt segment = earlier ++ [last.time])
      (within : (failuresAt segment).length ≤ config.retryBudget.toNat)
      (requests : requestsAt segment = earlier.map (· + config.retryDelay.toNat))
      (quiet : finals segment = [])
  /-- The last failure was one too many. -/
  | beaten (phase : v.phase = .failed) (idle : v.retry.pending = false)
      {earlier : List Nat} {last : Nat} (failures : failuresAt segment = earlier ++ [last])
      (past : (failuresAt segment).length = config.retryBudget.toNat + 1)
      (requests : requestsAt segment = earlier.map (· + config.retryDelay.toNat))
      (said : finals segment = surrender (config.retryBudget + 1))

structure Spell (config : SessionConfig) (segment : List Moment) (v : Footing) : Prop where
  running : v.running = true
  known : v.instanceId.isSome = true
  count : v.failures.toNat = (failuresAt segment).length
  standing : Standing config segment v

/-- What a beat keeps that has nothing to do with failures and retries. -/
structure Footing.Rests (v w : Footing) : Prop where
  running : w.running = v.running
  known : w.instanceId = v.instanceId
  count : w.failures = v.failures
  hurried : v.phase = .reconnecting → v.retry.pending = true →
    w.phase = .reconnecting ∧ w.retry = v.retry
  unhurried : v.retry.pending = false → w.retry.pending = false
  failed : v.phase = .failed → w.phase = .failed

theorem Footing.Rests.refl (v : Footing) : v.Rests v :=
  ⟨rfl, rfl, rfl, fun phase _ => ⟨phase, rfl⟩, id, id⟩

/-- Starting over rests, if the session waits for no retry and has not given up. -/
theorem Anew.rests {setup : Setup} {forced : Bool} {v w : Footing} {given : List Effect}
    (anew : Anew setup forced v w given) (idle : v.retry.pending = false)
    (goes : v.phase ≠ .failed) :
    v.Rests w ∧ given.filter automatic = [] ∧ given.filter final = [] := by
  have hurried : v.phase = .reconnecting → v.retry.pending = true →
      w.phase = .reconnecting ∧ w.retry = v.retry := by
    intro _ pending
    cases idle.symm.trans pending
  cases anew with
  | now =>
      refine ⟨⟨rfl, rfl, rfl, hurried, fun _ => rfl, ?_⟩, rfl, rfl⟩
      exact fun failed => absurd failed goes
  | later =>
      refine ⟨⟨rfl, rfl, rfl, hurried, fun _ => rfl, fun failed => absurd failed goes⟩, ?_, ?_⟩
      · exact filter_retirement (fun _ => rfl) v.links _
      · exact filter_retirement (fun _ => rfl) v.links _

section Spell

variable {config : SessionConfig} {segment : List Moment} {v w : Footing} {moment : Moment}
  {setup : Setup} {given : List Effect}

/-- What befalls a session besides failures and retries, without help, is no matter. -/
theorem Upshot.rests {incident : Option Incident} (upshot : Upshot setup v incident w given)
    (alone : v.retry.pending = true → incident ≠ some .credentials)
    (failure : incident ≠ some .failure) (retry : incident ≠ some .retry)
    (unaided : aids incident = false) :
    v.Rests w ∧ given.filter automatic = [] ∧ given.filter final = [] := by
  have other : ∀ {phase : Phase}, v.phase = phase → phase ≠ .reconnecting →
      v.phase = .reconnecting → v.retry.pending = true →
        w.phase = .reconnecting ∧ w.retry = v.retry := by
    rintro phase rfl other same
    exact absurd same other
  cases upshot with
  | still => exact ⟨.refl v, rfl, rfl⟩
  | heard => exact ⟨.refl v, rfl, rfl⟩
  | greet phase =>
      refine ⟨⟨rfl, rfl, rfl, other phase nofun, id, fun failed => ?_⟩, rfl, rfl⟩
      cases failed.symm.trans phase
  | idle phase => exact ⟨⟨rfl, rfl, rfl, fun phase _ => ⟨phase, rfl⟩, id, id⟩, rfl, rfl⟩
  | breach phase =>
      refine ⟨⟨rfl, rfl, rfl, other phase nofun, fun _ => rfl, fun _ => rfl⟩, ?_, ?_⟩
      · exact filter_retirement (fun _ => rfl) v.links _
      · exact filter_retirement (fun _ => rfl) v.links _
  | settled phase =>
      refine ⟨⟨rfl, rfl, rfl, other phase nofun, id, fun failed => ?_⟩, rfl, rfl⟩
      cases failed.symm.trans phase
  | credentials phase anew =>
      refine anew.rests ?_ (by rw [phase]; exact nofun)
      cases pending : v.retry.pending with
      | false => rfl
      | true => exact absurd rfl (alone pending)
  | setBack | beaten => exact absurd rfl failure
  | request | reuse | giveUp => exact absurd rfl retry
  | welcome | start | refresh | reconnect | close => cases unaided

/-- A beat that is no matter leaves a spell as it is. -/
theorem Spell.rest (spell : Spell config segment v) (rests : v.Rests w)
    (failure : moment.beat.befell ≠ some .failure)
    (requests : moment.beat.effects.filter automatic = [])
    (quiet : moment.beat.effects.filter final = []) : Spell config (segment ++ [moment]) w := by
  have failures : failuresAt (segment ++ [moment]) = failuresAt segment := by
    rw [failuresAt_concat, if_neg failure]
  have asked : requestsAt (segment ++ [moment]) = requestsAt segment := by
    rw [requestsAt_concat, requests, List.map_nil, List.append_nil]
  have said : finals (segment ++ [moment]) = finals segment := by
    rw [finals_concat, quiet, List.append_nil]
  refine ⟨rests.running.trans spell.running, ?_, ?_, ?_⟩
  · rw [rests.known]
    exact spell.known
  · rw [rests.count, failures]
    exact spell.count
  · cases spell.standing with
    | answered idle within requests quiet =>
        refine .answered (rests.unhurried idle) ?_ ?_ ?_ <;> simpa only [failures, asked, said]
    | waiting phase pending member started last within requests quiet =>
        obtain ⟨still, same⟩ := rests.hurried phase pending
        rw [← same] at started pending
        exact .waiting still pending (List.mem_append_left _ member) started
          (failures.trans last) (by rwa [failures]) (asked.trans requests) (said.trans quiet)
    | beaten phase idle last past requests finals =>
        exact .beaten (rests.failed phase) (rests.unhurried idle) (failures.trans last)
          (by rwa [failures]) (asked.trans requests) (said.trans finals)

/-- A failure that the count has room for is one more. -/
theorem Spell.count_succ (spell : Spell config segment v)
    (within : (failuresAt segment).length ≤ config.retryBudget.toNat)
    (room : config.retryBudget.toNat + 1 < UInt32.size) :
    (v.failures + 1).toNat = (failuresAt segment).length + 1 := by
  rw [UInt32.toNat_add, spell.count]
  refine Nat.mod_eq_of_lt ?_
  show (failuresAt segment).length + 1 < UInt32.size
  omega

/-- A failure comes while the session waits for no retry.  It makes it wait for one, or is one
too many. -/
theorem Spell.fail (spell : Spell config segment v) {turn : Turn}
    (upshot : Upshot (turn.setup config) v (some .failure) w (marks moment.beat.effects))
    (idle : v.retry.pending = false) (failure : moment.beat.befell = some .failure)
    (room : config.retryBudget.toNat + 1 < UInt32.size) :
    Spell config (segment ++ [moment]) w := by
  have failures : failuresAt (segment ++ [moment]) = failuresAt segment ++ [moment.time] := by
    rw [failuresAt_concat, if_pos failure]
  have longer : (failuresAt (segment ++ [moment])).length = (failuresAt segment).length + 1 := by
    rw [failures, List.length_append, List.length_singleton]
  -- A failure interrupts no wait, and a session that is beaten has nothing left to fail.
  cases spell.standing with
  | waiting _ pending => cases idle.symm.trans pending
  | beaten phase => exact absurd phase upshot.failure.1
  | answered _ within requests quiet =>
      have counted := spell.count_succ within room
      generalize given : marks moment.beat.effects = marked at upshot
      have asked : requestsAt (segment ++ [moment]) =
          requestsAt segment ++ (marked.filter automatic).map fun _ => moment.time := by
        rw [requestsAt_concat, filter_automatic, given]
      have said : finals (segment ++ [moment]) = marked.filter final := by
        rw [finals_concat, filter_final, given, quiet, List.nil_append]
      cases upshot with
      | setBack alive kept =>
          have budget : (v.failures + 1).toNat ≤ config.retryBudget.toNat :=
            UInt32.le_iff_toNat_le.1 (UInt32.not_lt.1 kept)
          rw [counted] at budget
          have started : .start .retry v.retry.schedule.ticket config.retryDelay.toNat ∈
              moment.beat.effects := by
            rw [← mem_marks rfl, given]
            exact List.mem_append_right _ (List.mem_singleton_self _)
          refine ⟨spell.running, spell.known, counted.trans longer.symm, ?_⟩
          refine .waiting rfl rfl (List.mem_append_right _ (List.mem_singleton_self _)) started
            failures (by rwa [longer]) ?_ ?_
          · rw [asked, filter_retirement fun _ => rfl, requests]
            exact List.append_nil _
          · exact said.trans (filter_retirement (fun _ => rfl) v.ousted _)
      | beaten alive past =>
          have budget : config.retryBudget.toNat < (v.failures + 1).toNat :=
            UInt32.lt_iff_toNat_lt.1 past
          rw [counted] at budget
          have full : (failuresAt segment).length = config.retryBudget.toNat := by omega
          have same : v.failures = config.retryBudget :=
            UInt32.toNat_inj.1 (spell.count.trans full)
          refine ⟨spell.running, spell.known, counted.trans longer.symm, ?_⟩
          refine .beaten rfl rfl failures (longer.trans (congrArg (· + 1) full)) ?_ ?_
          · rw [asked, filter_retirement fun _ => rfl, filter_retirement fun _ => rfl, requests]
            exact List.append_nil _
          · rw [said, filter_retirement fun _ => rfl, filter_retirement fun _ => rfl, same]
            rfl

/-- A retry comes when it is due, and makes the session ask for a new connection. -/
theorem Spell.ask (spell : Spell config segment v) {turn : Turn}
    (upshot : Upshot (turn.setup config) v (some .retry) w (marks moment.beat.effects))
    (retry : moment.beat.befell = some .retry)
    (punctual : ∀ last ∈ segment,
      .start .retry v.retry.ticket config.retryDelay.toNat ∈ last.beat.effects →
        moment.time = last.time + config.retryDelay.toNat) :
    Spell config (segment ++ [moment]) w := by
  have failures : failuresAt (segment ++ [moment]) = failuresAt segment := by
    rw [failuresAt_concat, retry, if_neg nofun]
  generalize given : marks moment.beat.effects = marked at upshot
  have asked : requestsAt (segment ++ [moment]) =
      requestsAt segment ++ (marked.filter automatic).map fun _ => moment.time := by
    rw [requestsAt_concat, filter_automatic, given]
  have said : finals (segment ++ [moment]) = finals segment ++ marked.filter final := by
    rw [finals_concat, filter_final, given]
  have known := spell.known
  cases upshot with
  | reuse phase pending unknown => simp [unknown] at known
  | giveUp phase pending unknown => simp [unknown] at known
  | request phase pending =>
      cases spell.standing with
      | answered idle => cases idle.symm.trans pending
      | beaten failed => cases failed.symm.trans phase
      | @waiting _ _ earlier last member started before within requests quiet =>
          refine ⟨spell.running, known, spell.count.trans (by rw [failures]), ?_⟩
          refine .answered rfl (by rwa [failures]) ?_ (by rw [said, quiet]; rfl)
          rw [asked, failures, before, requests, List.map_append, List.map_singleton,
            ← punctual last member started]
          rfl

end Spell

/-! ## What a session waits for -/

/-- A session without a transport or a request waits for nothing that can fail, and for no
credentials. -/
theorem befalls_alone {accepting : Bool} {s : Session} {input : Input} (unused : s.active = none)
    (unready : s.phase ≠ .ready) (quiet : s.requesting = false) :
    s.befalls accepting input ≠ some .failure ∧ s.befalls accepting input ≠ some .credentials := by
  unfold befalls
  cases input with
  | transport number event => simp [unused]
  | send call task fields => simp [unready]
  | resolved attempt manual reply => simp [quiet]
  | expired timer ticket =>
      dsimp only
      split
      · cases timer <;> exact ⟨nofun, nofun⟩
      · exact ⟨nofun, nofun⟩
  | init session token forced =>
      dsimp only
      split <;> exact ⟨nofun, nofun⟩
  | reconnect =>
      dsimp only
      split <;> exact ⟨nofun, nofun⟩
  | close => exact ⟨nofun, nofun⟩

/-- While it waits for a retry, a session waits for nothing else that can fail or succeed. -/
theorem pending_alone {accepting : Bool} {s : Session} {input : Input}
    (coherent : s.Coherent False) (pending : s.retry.pending = true) :
    s.befalls accepting input ≠ some .failure ∧ s.befalls accepting input ≠ some .credentials := by
  have phase := coherent.arranged.awaits_retry pending
  have waiting := (arranged_reconnecting phase).1 coherent.arranged
  have unready : s.phase ≠ .ready := by
    rw [phase]
    exact nofun
  exact befalls_alone waiting.active unready (waiting.exclusive pending)

def delayOf (config : SessionConfig) : SessionTimer → Nat
  | .settle => config.settleDelay.toNat
  | .retry => config.retryDelay.toNat
  | .silence => config.silenceTimeout.toNat

theorem Anew.delay {setup : Setup} {forced : Bool} {v w : Footing} {given : List Effect}
    (anew : Anew setup forced v w given) {timer : SessionTimer} {ticket : Ticket} {delay : Nat}
    (started : .start timer ticket delay ∈ given) : delay = delayOf setup.config timer := by
  cases anew with
  | now => simp at started
  | later =>
      have last := (List.mem_append.1 started).resolve_left (by simp [retirement])
      cases List.mem_singleton.1 last
      rfl

/-- Every timer runs for the delay of its kind. -/
theorem Upshot.delay {setup : Setup} {v w : Footing} {incident : Option Incident}
    {given : List Effect} (upshot : Upshot setup v incident w given) {timer : SessionTimer}
    {ticket : Ticket} {delay : Nat} (started : .start timer ticket delay ∈ given) :
    delay = delayOf setup.config timer := by
  cases upshot with
  | setBack =>
      have last := (List.mem_append.1 started).resolve_left (by simp [retirement])
      cases List.mem_singleton.1 last
      rfl
  | welcome | heard =>
      cases List.mem_singleton.1 started
      rfl
  | start anew => exact anew.delay started
  | credentials _ anew => exact anew.delay started
  | reuse _ _ _ anew => exact anew.delay started
  | still | greet | idle => cases started
  | beaten | breach | refresh | reconnect | settled | request | giveUp | close =>
      simp [retirement, surrender] at started

section OnTime

variable {config : SessionConfig} {past : List Moment} {s : Session}

/-- A timer that two moments start under one ticket is over. -/
theorem over_of_two {timer : SessionTimer} {ticket : Ticket} {one other : Moment}
    (member : one ∈ past) (also : other ∈ past) (different : one ≠ other) {delay late : Nat}
    (started : .start timer ticket delay ∈ one.beat.effects)
    (again : .start timer ticket late ∈ other.beat.effects) :
    Over (log (beats past)) (.timer timer) ticket.generation := by
  obtain ⟨before, after, rfl⟩ := List.append_of_mem member
  have parts : log (beats (before ++ one :: after)) =
      log (beats before) ++ log (beats [one]) ++ log (beats after) := by
    simp [log, beats]
  rw [parts]
  have here := start_mem_log (List.mem_singleton_self one) started
  rcases List.mem_append.1 also with early | late
  · exact (over_append (start_mem_log early again) here rfl).mono _
  · have later := (List.mem_cons.1 late).resolve_left (Ne.symm different)
    exact over_append (List.mem_append_right _ here) (start_mem_log later again) rfl

/-- The expiry that a session waits for comes when the delay has passed since the timer was
started. -/
theorem expiry_on_time (timer : SessionTimer) (life : Life config (beats past) s) {time : Nat}
    (running : s.running = true) (pending : (s.slot timer).pending = true)
    (begun : Begun past timer (s.slot timer).ticket time) {last : Moment} (member : last ∈ past)
    (started : .start timer (s.slot timer).ticket (delayOf config timer) ∈ last.beat.effects) :
    time = last.time + delayOf config timer := by
  have runs : ¬Over (log (beats past)) (.timer timer) (s.slot timer).ticket.generation := by
    intro ended
    cases ((life_ordered life running (.timer timer)).finished _ ended rfl).symm.trans pending
  obtain ⟨origin, among, delay, given, due⟩ := begun
  have same : origin = last := by
    by_contra different
    exact runs (over_of_two among member different given started)
  subst same
  obtain ⟨k, here⟩ := List.mem_iff_getElem?.1 (List.mem_map_of_mem (f := Moment.beat) among)
  have usual := (life.upshot here).delay ((mem_marks rfl).2 given)
  exact due.trans (congrArg (origin.time + ·) usual)

end OnTime

/-! ## Every spell -/

section Spells

variable {config : SessionConfig} {past : List Moment} {start : Moment} {s : Session}

/-- When the count has started over, a spell begins. -/
theorem spell_begins (life : Life config (beats (past ++ [start])) s)
    (begins : start.beat.resets = true) : Spell config [] s.footing := by
  rw [beats, List.map_append] at life
  obtain ⟨before, same, rfl⟩ := life.last
  have coherent := before.coherent
  have upshot := beat_upshot before start.beat.turn
  rw [← same] at upshot
  unfold Beat.resets at begins
  cases befell : start.beat.befell with
  | none => simp [befell, resets] at begins
  | some incident =>
      have running := (befell_some befell).1
      rw [befell] at upshot begins
      generalize start.beat.after.footing = w, marks start.beat.effects = given at upshot
      cases incident with
      | welcome instanceId =>
          cases upshot with
          | welcome phase =>
              have other : start.beat.before.phase ≠ .reconnecting := by
                intro same
                cases same.symm.trans phase
              exact ⟨running, rfl, rfl,
                .answered (coherent.arranged.unhurried other).1 (Nat.zero_le _) rfl rfl⟩
      | reconnect =>
          have failed : start.beat.before.phase = .failed := resets_reconnect.1 begins
          cases upshot with
          | reconnect allowed known =>
              refine ⟨running, Option.isSome_iff_exists.2 ⟨_, known⟩, ?_,
                .answered rfl (Nat.zero_le _) rfl rfl⟩
              exact congrArg UInt32.toNat (if_pos failed)
      | _ => cases begins

/-- What befalls a session without help leads from spell to spell. -/
theorem Spell.beat {segment : List Moment} {moment : Moment}
    (spell : Spell config segment moment.beat.before.footing)
    (life : Life config (beats past) moment.beat.before)
    (same : moment.beat = moment.beat.before.beat config moment.beat.turn)
    (within : ∀ last ∈ segment, last ∈ past)
    (handled : ∀ timer ticket, moment.beat.turn.input = .expired timer ticket →
      Begun past timer ticket moment.time)
    (unaided : moment.beat.aided = false) (room : config.retryBudget.toNat + 1 < UInt32.size) :
    Spell config (segment ++ [moment]) moment.beat.after.footing := by
  have coherent := life.coherent
  have upshot := beat_upshot life moment.beat.turn
  rw [← same] at upshot
  have alone : moment.beat.before.retry.pending = true →
      moment.beat.befell ≠ some .failure ∧ moment.beat.befell ≠ some .credentials := by
    intro pending
    unfold Beat.befell
    split
    · exact pending_alone coherent pending
    · exact ⟨nofun, nofun⟩
  by_cases failure : moment.beat.befell = some .failure
  · rw [failure] at upshot
    refine spell.fail upshot ?_ failure room
    cases pending : moment.beat.before.retry.pending with
    | false => exact pending
    | true => exact absurd failure (alone pending).1
  · by_cases retry : moment.beat.befell = some .retry
    · rw [retry] at upshot
      refine spell.ask upshot retry fun last member started => ?_
      obtain ⟨running, befalls⟩ := befell_some retry
      obtain ⟨expired, pending⟩ := befalls_causes befalls
      exact expiry_on_time .retry life running pending (handled _ _ expired) (within last member)
        started
    · obtain ⟨rests, requests, quiet⟩ :=
        upshot.rests (fun pending => (alone pending).2) failure retry unaided
      refine spell.rest rests failure ?_ ?_
      · rw [filter_automatic, requests]
      · rw [filter_final, quiet]

theorem spell_of_line {segment : List Moment}
    (life : Life config (beats (past ++ start :: segment)) s)
    (handled : Handled (past ++ start :: segment)) (begins : start.beat.resets = true)
    (unaided : ∀ moment ∈ segment, moment.beat.aided = false)
    (room : config.retryBudget.toNat + 1 < UInt32.size) : Spell config segment s.footing := by
  induction segment using List.reverseRecOn generalizing s with
  | nil => exact spell_begins life begins
  | append_singleton segment moment ih =>
      have parts : past ++ start :: (segment ++ [moment]) =
          (past ++ start :: segment) ++ [moment] := by simp
      rw [parts, beats, List.map_append] at life
      rw [parts] at handled
      obtain ⟨before, same, rfl⟩ := life.last
      have spell := ih before handled.earlier fun other member =>
        unaided other (List.mem_append_left _ member)
      refine spell.beat before same ?_ (handled _ moment [] rfl) ?_ room
      · intro last member
        exact List.mem_append_right _ (List.mem_cons_of_mem _ member)
      · exact unaided moment (List.mem_append_right _ (List.mem_singleton_self _))

/-- What is to be seen of failures and requests in a spell that leads to `scene`. -/
structure Retried (config : SessionConfig) (segment : List Moment) (scene : Scene) : Prop where
  /-- After the `k`-th failure the count is `k`, and the session retries if the budget is `k` at
  least; else it has given up. -/
  counted : ∀ first moment rest, segment = first ++ moment :: rest →
    moment.beat.befell = some .failure →
      moment.beat.after.failures.toNat = (failuresAt first).length + 1 ∧
        moment.beat.after.phase =
          if (failuresAt first).length + 1 ≤ config.retryBudget.toNat then .reconnecting
          else .failed
  count : scene.session.failures.toNat = (failuresAt segment).length
  bounded : (failuresAt segment).length ≤ config.retryBudget.toNat + 1
  /-- Every failure is followed by one request, made when the delay has passed.  For the last
  failure it may be still to come: then its time has not passed, or it is one failure too many. -/
  followed :
    requestsAt segment = (failuresAt segment).map (· + config.retryDelay.toNat) ∨
      ∃ earlier last, failuresAt segment = earlier ++ [last] ∧
        requestsAt segment = earlier.map (· + config.retryDelay.toNat) ∧
          ((failuresAt segment).length ≤ config.retryBudget.toNat →
            scene.session.phase = .reconnecting ∧
              (config.retryDelay.toNat < Clock.never →
                scene.clock.now ≤ last + config.retryDelay.toNat ∧
                  (scene.Calm → scene.clock.now < last + config.retryDelay.toNat)))
  within : (requestsAt segment).length ≤ config.retryBudget.toNat
  /-- With one failure too many the session gives up, and says so once. -/
  givenUp : (failuresAt segment).length = config.retryBudget.toNat + 1 →
    scene.session.phase = .failed ∧ finals segment = surrender (config.retryBudget + 1)
  /-- Before that it does not say so. -/
  going : (failuresAt segment).length ≤ config.retryBudget.toNat → finals segment = []

/-- A life goes on from earlier lives. -/
theorem Life.earlier {first rest : List Beat} (life : Life config (first ++ rest) s) :
    ∃ t, Life config first t := by
  induction rest using List.reverseRecOn generalizing s with
  | nil => exact ⟨s, by simpa using life⟩
  | append_singleton rest beat ih =>
      rw [← List.append_assoc] at life
      exact ih life.last.1

/-- The phase after a failure depends on the count alone. -/
theorem phase_of_failure (life : Life config (beats past) s) {moment : Moment}
    (same : moment.beat = s.beat config moment.beat.turn)
    (failure : moment.beat.befell = some .failure) :
    moment.beat.after.phase =
      if moment.beat.after.failures.toNat ≤ config.retryBudget.toNat then .reconnecting
      else .failed := by
  have upshot := beat_upshot life moment.beat.turn
  rw [← same, failure] at upshot
  obtain ⟨-, -, verdict⟩ := upshot.failure
  rcases verdict with ⟨beaten, phase⟩ | ⟨kept, phase⟩
  · have past : ¬moment.beat.after.failures.toNat ≤ config.retryBudget.toNat :=
      Nat.not_le.2 (UInt32.lt_iff_toNat_lt.1 beaten)
    rw [if_neg past]
    exact phase
  · have within : moment.beat.after.failures.toNat ≤ config.retryBudget.toNat :=
      UInt32.le_iff_toNat_le.1 (UInt32.not_lt.1 kept)
    rw [if_pos within]
    exact phase

/-- What one failure of a spell comes to. -/
theorem counted_of_line {first rest : List Moment} {moment : Moment}
    (life : Life config (beats (past ++ start :: (first ++ moment :: rest))) s)
    (handled : Handled (past ++ start :: (first ++ moment :: rest)))
    (begins : start.beat.resets = true)
    (unaided : ∀ other ∈ first ++ moment :: rest, other.beat.aided = false)
    (room : config.retryBudget.toNat + 1 < UInt32.size)
    (failure : moment.beat.befell = some .failure) :
    moment.beat.after.failures.toNat = (failuresAt first).length + 1 ∧
      moment.beat.after.phase =
        if (failuresAt first).length + 1 ≤ config.retryBudget.toNat then .reconnecting
        else .failed := by
  have parts : past ++ start :: (first ++ moment :: rest) =
      (past ++ start :: first) ++ [moment] ++ rest := by simp
  rw [parts] at life handled
  rw [beats, List.map_append] at life
  obtain ⟨t, short⟩ := life.earlier
  have spell : Spell config (first ++ [moment]) t.footing := by
    have shape : past ++ start :: (first ++ [moment]) = past ++ start :: first ++ [moment] := by
      simp
    refine spell_of_line (by rwa [shape]) (by rw [shape]; exact handled.earlier) begins
      (fun other member => unaided other ?_) room
    rw [List.append_cons]
    exact List.mem_append_left _ member
  rw [List.map_append] at short
  obtain ⟨before, same, rfl⟩ := short.last
  have count : moment.beat.after.failures.toNat = (failuresAt first).length + 1 := by
    refine spell.count.trans ?_
    rw [failuresAt_concat, if_pos failure, List.length_append, List.length_singleton]
  have phase := phase_of_failure before same failure
  rw [count] at phase
  exact ⟨count, phase⟩

/-- **Failures and retries, one for one.**  Right after the count of failures has started over, and
as long as a session gets no help, every failure that the budget allows is followed by one
reconnect request when the retry delay has passed, and the first one past the budget is the
last. -/
theorem retries_within_budget {segment : List Moment} {scene : Scene}
    (room : config.retryBudget.toNat + 1 < UInt32.size)
    (line : Timeline config (past ++ start :: segment) scene)
    (begins : start.beat.resets = true) (unaided : ∀ moment ∈ segment, moment.beat.aided = false) :
    Retried config segment scene := by
  have handled := line.timely.handled
  have spell := spell_of_line line.life handled begins unaided room
  have counted : ∀ first moment rest, segment = first ++ moment :: rest →
      moment.beat.befell = some .failure →
        moment.beat.after.failures.toNat = (failuresAt first).length + 1 ∧
          moment.beat.after.phase =
            if (failuresAt first).length + 1 ≤ config.retryBudget.toNat then .reconnecting
            else .failed := by
    rintro first moment rest rfl failure
    exact counted_of_line line.life handled begins unaided room failure
  have more : ∀ {last : Moment}, last ∈ segment → last ∈ past ++ start :: segment := by
    intro last member
    exact List.mem_append_right _ (List.mem_cons_of_mem _ member)
  cases spell.standing with
  | answered idle within requests quiet =>
      refine ⟨counted, spell.count, Nat.le_succ_of_le within, .inl requests, ?_, ?_, fun _ => quiet⟩
      · rwa [requests, List.length_map]
      · intro full
        omega
  | @waiting phase pending earlier last member started failures within requests quiet =>
      refine ⟨counted, spell.count, Nat.le_succ_of_le within, .inr ⟨earlier, last.time, failures,
        requests, fun _ => ⟨phase, fun finite => ?_⟩⟩, ?_, ?_, fun _ => quiet⟩
      · refine line.due (more member) started finite fun ended => ?_
        have ordered := life_ordered line.life spell.running (.timer .retry)
        cases (ordered.finished _ ended rfl).symm.trans pending
      · rw [failures, List.length_append, List.length_singleton] at within
        rw [requests, List.length_map]
        omega
      · intro full
        omega
  | @beaten phase idle earlier last failures full requests said =>
      refine ⟨counted, spell.count, Nat.le_of_eq full, .inr ⟨earlier, last, failures, requests,
        fun within => ?_⟩, ?_, fun _ => ⟨phase, said⟩, fun within => ?_⟩
      · omega
      · rw [failures, List.length_append, List.length_singleton] at full
        rw [requests, List.length_map]
        omega
      · omega

end Spells

/-- With a budget of one failure: a transport closes, the request that follows fails too, and the
session gives up. -/
theorem retried_once :
    ∃ past start segment scene,
      Timeline { retryBudget := 1 } (past ++ start :: segment) scene ∧
        start.beat.resets = true ∧ (∀ moment ∈ segment, moment.beat.aided = false) ∧
          failuresAt segment = [0, 1500] ∧ requestsAt segment = [1500] ∧
            Retried { retryBudget := 1 } segment scene := by
  have opening := (@Timeline.dawn { retryBudget := 1 }).arrive
    (.init ⟨"S1"⟩ ⟨"T1"⟩ false) nofun |>.handle { input := .init ⟨"S1"⟩ ⟨"T1"⟩ false } rfl
  have greeting := opening.arrive (.transport 0 .opened) nofun
    |>.handle { input := .transport 0 .opened } rfl
  have ready := greeting.arrive (.transport 0 (.message "I1&K0")) nofun
    |>.handle { input := .transport 0 (.message "I1&K0") } rfl
  have down := ready.arrive (.transport 0 .closed) nofun
    |>.handle { input := .transport 0 .closed } rfl
  have due := down.wait 1500 rfl (by decide +kernel) (by decide +kernel)
  have rung := @Timeline.ring _ _ _ due [] [] 1500 .retry ⟨2⟩
    (by decide +kernel) (by decide +kernel)
  have asked := rung.handle { input := .expired .retry ⟨2⟩ } rfl
  have gaveUp := asked.arrive (.resolved 1 false none) nofun
    |>.handle { input := .resolved 1 false none } rfl
  obtain ⟨past, start, segment, scene, line, begins, unaided, failures, requests⟩ :
      ∃ past start segment scene,
        Timeline { retryBudget := 1 } (past ++ start :: segment) scene ∧
          start.beat.resets = true ∧ (∀ moment ∈ segment, moment.beat.aided = false) ∧
            failuresAt segment = [0, 1500] ∧ requestsAt segment = [1500] := by
    refine ⟨[_, _], _, [_, _, _], _, gaveUp, ?_, ?_, ?_, ?_⟩
    all_goals decide +kernel
  exact ⟨past, start, segment, scene, line, begins, unaided, failures, requests,
    retries_within_budget (by decide) line begins unaided⟩

end Tether.Session
