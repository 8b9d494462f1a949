/-
# Tether.Proofs.Session.Tally -- how far the count of failures goes

The count goes up with every failure.  It starts over with a handshake that succeeds, and
when the user has a session reconnect that gave up; credentials leave it as it is, wherever
they come from.  So it does not stop one past the budget: a session that gave up and is
given fresh credentials has its whole past against it, and its next failure, if no
handshake comes first, makes it give up again with one failure more.

A session gives up at the first failure past the budget, and the next failure needs it to
be started again.  Hence the count exceeds the budget by one at most for every time that
this happened since the count last started over (`resumptions`), and by one more.

* `failures_bounded` -- the bound, and where the counter has room for it.
-/
import Tether.Proofs.Session.Incidents

set_option autoImplicit false

namespace Tether.Session

def resets (incident : Option Incident) (before : Phase) : Bool :=
  match incident with
  | some (.welcome _) => true
  | some .reconnect => before == .failed
  | _ => false

def resumes (incident : Option Incident) (before : Phase) : Bool :=
  match incident with
  | some (.start _) => before == .failed
  | _ => false

def Beat.resets (beat : Beat) : Bool := Session.resets beat.befell beat.before.phase

def Beat.resumes (beat : Beat) : Bool := Session.resumes beat.befell beat.before.phase

/-- The beats since the count last started over, latest first. -/
def series (past : List Beat) : List Beat := past.reverse.takeWhile fun beat => !beat.resets

theorem series_concat (past : List Beat) (beat : Beat) :
    series (past ++ [beat]) = if beat.resets = true then [] else beat :: series past := by
  unfold series
  rw [List.reverse_append, List.reverse_singleton, List.singleton_append, List.takeWhile_cons]
  cases beat.resets <;> rfl

theorem mem_of_mem_series {past : List Beat} {beat : Beat} (member : beat ∈ series past) :
    beat ∈ past :=
  List.mem_reverse.1 ((List.takeWhile_sublist _).subset member)

/-- How often a session that gave up was started again since its count last started over. -/
def resumptions (past : List Beat) : Nat := (series past).countP Beat.resumes

theorem resumptions_concat (past : List Beat) (beat : Beat) :
    resumptions (past ++ [beat]) =
      if beat.resets = true then 0
      else if beat.resumes = true then resumptions past + 1 else resumptions past := by
  unfold resumptions
  rw [series_concat]
  split
  · rfl
  · rw [List.countP_cons]
    split <;> rfl

/-! ## What the count can be -/

/-- The count, in terms of the budget and of how often a session that gave up was started
again.  One that has not given up has not passed the budget since. -/
structure Within (budget again : Nat) (v : Footing) : Prop where
  total : v.failures.toNat ≤ budget + again + 1
  going : v.running = true → v.phase ≠ .failed → v.failures.toNat ≤ budget + again

theorem resets_reconnect {before : Phase} :
    resets (some .reconnect) before = true ↔ before = .failed := beq_iff_eq

theorem toNat_succ_le (count : UInt32) : (count + 1).toNat ≤ count.toNat + 1 := by
  rw [UInt32.toNat_add]
  exact Nat.mod_le _ _

/-- Starting over does not count. -/
theorem Anew.failures {setup : Setup} {forced : Bool} {v w : Footing} {given : List Effect}
    (anew : Anew setup forced v w given) : w.failures = v.failures := by
  cases anew with
  | now => rfl
  | later => rfl

/-- A failure adds one; it is the first past the budget, or the session goes on. -/
theorem Upshot.failure {setup : Setup} {v w : Footing} {given : List Effect}
    (upshot : Upshot setup v (some .failure) w given) :
    v.phase ≠ .failed ∧ w.failures = v.failures + 1 ∧
      (setup.config.retryBudget < w.failures ∧ w.phase = .failed ∨
        ¬setup.config.retryBudget < w.failures ∧ w.phase = .reconnecting) := by
  cases upshot with
  | setBack alive within => exact ⟨alive.1, rfl, .inr ⟨within, rfl⟩⟩
  | beaten alive past => exact ⟨alive.1, rfl, .inl ⟨past, rfl⟩⟩

/-- What else befalls a session leaves the count as it is, unless it starts over. -/
theorem Upshot.uncounted {setup : Setup} {v w : Footing} {incident : Option Incident}
    {given : List Effect} (upshot : Upshot setup v incident w given)
    (other : incident ≠ some .failure) :
    w.failures = if resets incident v.phase = true then 0 else v.failures := by
  cases upshot with
  | still | greet | idle | welcome | heard | breach | refresh | settled | request | giveUp
  | close => rfl
  | start anew => exact anew.failures
  | credentials _ anew => exact anew.failures
  | reuse _ _ _ anew => exact anew.failures
  | reconnect =>
      by_cases failed : v.phase = .failed
      · rw [if_pos (resets_reconnect.2 failed)]
        exact if_pos failed
      · rw [if_neg fun same => failed (resets_reconnect.1 same)]
        exact if_neg failed
  | setBack | beaten => exact absurd rfl other

/-- A session that gave up goes on by being started again, if its count does not start over. -/
theorem Upshot.resumed {setup : Setup} {v w : Footing} {incident : Option Incident}
    {given : List Effect} (upshot : Upshot setup v incident w given)
    (counts : resets incident v.phase = false) (failed : v.phase = .failed)
    (running : w.running = true) (goes : w.phase ≠ .failed) :
    resumes incident v.phase = true := by
  cases upshot with
  | still | heard => exact absurd failed goes
  | greet phase | idle phase | welcome phase | breach phase | refresh phase | settled phase
  | request phase | giveUp phase | credentials phase | reuse phase =>
      exact absurd (failed.symm.trans phase) nofun
  | setBack alive | beaten alive => exact absurd failed alive.1
  | start => exact beq_iff_eq.2 failed
  | reconnect =>
      rw [resets_reconnect.2 failed] at counts
      cases counts
  | close => cases running

/-- A beat keeps the count within the budget, given how often the session was started again. -/
theorem Upshot.within {setup : Setup} {v w : Footing} {incident : Option Incident}
    {given : List Effect} {again : Nat} (upshot : Upshot setup v incident w given)
    (running : v.running = true) (within : Within setup.config.retryBudget.toNat again v) :
    Within setup.config.retryBudget.toNat
      (if resets incident v.phase = true then 0
        else if resumes incident v.phase = true then again + 1 else again) w := by
  by_cases failure : incident = some .failure
  · subst failure
    obtain ⟨alive, counted, verdict⟩ := upshot.failure
    have before := within.going running alive
    have more := toNat_succ_le v.failures
    rw [← counted] at more
    show Within _ again w
    refine ⟨by omega, fun _ going => ?_⟩
    rcases verdict with ⟨-, failed⟩ | ⟨kept, -⟩
    · exact absurd failed going
    · have budget : w.failures.toNat ≤ setup.config.retryBudget.toNat :=
        UInt32.le_iff_toNat_le.1 (UInt32.not_lt.1 kept)
      omega
  · have counted := upshot.uncounted failure
    cases anew : resets incident v.phase with
    | true =>
        rw [if_pos rfl]
        rw [if_pos anew] at counted
        constructor <;> simp [counted]
    | false =>
        rw [if_neg Bool.false_ne_true]
        rw [if_neg (Bool.eq_false_iff.1 anew)] at counted
        have total := within.total
        constructor
        · rw [counted]
          split <;> omega
        · intro goes going
          rw [counted]
          by_cases failed : v.phase = .failed
          · rw [if_pos (upshot.resumed anew failed goes going)]
            omega
          · have before := within.going running failed
            split <;> omega

/-! ## Runs -/

variable {config : SessionConfig} {past : List Beat} {s : Session}

/-- Between turns the count is within the budget, given how often the session was started again
since the count last started over. -/
theorem life_within (life : Life config past s) :
    Within config.retryBudget.toNat (resumptions past) s.footing := by
  induction life with
  | fresh => exact ⟨Nat.zero_le _, fun _ _ => Nat.zero_le _⟩
  | @beat past s life turn ih =>
      rw [resumptions_concat]
      cases running : s.running with
      | true => exact (beat_upshot life turn).within running ih
      | false =>
          have still : (s.beat config turn).after = s := (beat_stopped running turn).1
          have spared : (s.beat config turn).befell = none := befell_stopped running
          have uncounted : (s.beat config turn).resets = false ∧
              (s.beat config turn).resumes = false := by
            rw [Beat.resets, Beat.resumes, spared]
            exact ⟨rfl, rfl⟩
          rw [uncounted.1, uncounted.2, still]
          exact ih

/-- The counter has room for one failure more, given that it is within the budget. -/
theorem Life.room (life : Life config past s) {k : Nat} {beat : Beat} (here : past[k]? = some beat)
    (failure : beat.befell = some .failure)
    (room : config.retryBudget.toNat + resumptions (past.take k) + 1 < UInt32.size) :
    beat.after.failures.toNat = beat.before.failures.toNat + 1 := by
  obtain ⟨before, same⟩ := life.at here
  have upshot := life.upshot here
  rw [failure] at upshot
  obtain ⟨alive, counted, -⟩ := upshot.failure
  have within : beat.before.failures.toNat ≤ _ :=
    (life_within before).going (befell_some failure).1 alive
  have more : beat.after.failures = beat.before.failures + 1 := counted
  rw [more, UInt32.toNat_add]
  refine Nat.mod_eq_of_lt ?_
  show beat.before.failures.toNat + 1 < UInt32.size
  omega

/-- **The count of failures stays within the budget, and one more, and one more for every time
that a session which gave up was started again.**  The last two are counted since the count
last started over.  While such a number fits the counter, no failure makes it wrap around. -/
theorem failures_bounded (config : SessionConfig) (turns : List Turn) :
    (reached config turns).failures.toNat ≤
        config.retryBudget.toNat + resumptions (history config turns) + 1 ∧
      ∀ (k : Nat) beat, (history config turns)[k]? = some beat → beat.befell = some .failure →
        config.retryBudget.toNat + resumptions ((history config turns).take k) + 1 < UInt32.size →
          beat.after.failures.toNat = beat.before.failures.toNat + 1 := by
  have life := life_of config turns
  refine ⟨(life_within life).total, ?_⟩
  intro k beat here failure room
  exact life.room here failure room

/-- A session that is started twice, and whose transport closes each time. -/
def restarted : List Turn :=
  [{ input := .init ⟨"S1"⟩ ⟨"T1"⟩ false }, { input := .transport 0 .closed },
    { input := .init ⟨"S2"⟩ ⟨"T2"⟩ false }, { input := .transport 1 .closed }]

/-- The budget and one more are no bound: without a budget, two failures are counted. -/
theorem count_exceeds_budget :
    ¬∀ (config : SessionConfig) (turns : List Turn),
      (reached config turns).failures.toNat ≤ config.retryBudget.toNat + 1 ∧
        ∀ beat ∈ history config turns, beat.befell = some .failure →
          beat.after.failures.toNat = beat.before.failures.toNat + 1 := by
  intro bounded
  have counted : (reached { retryBudget := 0 } restarted).failures = 2 := by decide +kernel
  have bound := (bounded { retryBudget := 0 } restarted).1
  rw [counted] at bound
  exact absurd bound (by decide)

end Tether.Session
