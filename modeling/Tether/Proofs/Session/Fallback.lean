/-
# Tether.Proofs.Session.Fallback -- from the budget on, polling

The failure that brings the count to the budget engages fallback, for good, and in fallback
every transport is a polling one.  There is one exception: if the transport opened last was
a polling one already, the session takes it that there is nothing to fall back to, and
leaves fallback as it is.  That is sound if the transport was opened in fallback.  It is not
if a polling transport was asked for once, or if persistent ones could not be built for a
while: the failure is *spared*, and the next transport can be a persistent one, though the
budget is reached.

* `polling_from_budget` -- at the budget and past it transports are polling ones, unless
  the failure at the budget was spared.
* `polling_unless_forced` -- so they are if persistent transports can always be built, and
  no polling one is asked for.
* `fallback_for_good` -- once fallback is engaged it stays, and no persistent transport is
  opened again, not even one that was chosen before.
-/
import Tether.Proofs.Session.Tally
import Tether.Proofs.Session.Tenure

set_option autoImplicit false

namespace Tether.Session

/-- A failure brought the count to the budget, but did not engage fallback, because the last
transport was a polling one. -/
structure Beat.Spared (budget : UInt32) (beat : Beat) : Prop where
  failure : beat.befell = some .failure
  reached : beat.after.failures = budget
  polling : beat.before.lastKind = some .polling
  unengaged : beat.after.fallback = false

/-! ## Fallback is for good -/

theorem Anew.fallback {setup : Setup} {forced : Bool} {v w : Footing} {given : List Effect}
    (anew : Anew setup forced v w given) : w.fallback = v.fallback := by
  cases anew with
  | now => rfl
  | later => rfl

/-- A failure engages fallback at the budget, if the last transport was not a polling one. -/
theorem Upshot.engages {setup : Setup} {v w : Footing} {given : List Effect}
    (upshot : Upshot setup v (some .failure) w given) :
    w.fallback =
      (v.fallback || (w.failures == setup.config.retryBudget && v.lastKind != some .polling)) := by
  cases upshot with
  | setBack => rfl
  | beaten => rfl

/-- So at the budget there is fallback, or it was left out. -/
theorem Upshot.at_budget {setup : Setup} {v w : Footing} {given : List Effect}
    (upshot : Upshot setup v (some .failure) w given)
    (reached : w.failures = setup.config.retryBudget) :
    w.fallback = true ∨ v.lastKind = some .polling ∧ w.fallback = false := by
  rw [upshot.engages, reached, beq_self_eq_true, Bool.true_and]
  by_cases polling : v.lastKind = some .polling
  · rw [polling]
    cases v.fallback with
    | true => exact .inl rfl
    | false => exact .inr ⟨rfl, rfl⟩
  · rw [bne_iff_ne.2 polling, Bool.or_true]
    exact .inl rfl

/-- Nothing else changes whether there is fallback. -/
theorem Upshot.unengaged {setup : Setup} {v w : Footing} {incident : Option Incident}
    {given : List Effect} (upshot : Upshot setup v incident w given)
    (other : incident ≠ some .failure) : w.fallback = v.fallback := by
  cases upshot with
  | still | greet | idle | welcome | heard | breach | refresh | settled | request | giveUp | close
  | reconnect => rfl
  | start anew => exact anew.fallback
  | credentials _ anew => exact anew.fallback
  | reuse _ _ _ anew => exact anew.fallback
  | setBack | beaten => exact absurd rfl other

/-! ## At the budget -/

variable {config : SessionConfig} {past : List Beat} {s : Session}

/-- Past the budget there was a failure at the budget. -/
theorem le_of_le_succ {budget count : UInt32} (reached : budget ≤ count + 1)
    (past : count + 1 ≠ budget) : budget ≤ count := by
  have step := toNat_succ_le count
  have other : (count + 1).toNat ≠ budget.toNat := fun same => past (UInt32.toNat_inj.1 same)
  rw [UInt32.le_iff_toNat_le] at reached ⊢
  omega

/-- With the count at the budget or past it, there is fallback, or a failure was spared. -/
def Engaged (config : SessionConfig) (past : List Beat) (s : Session) : Prop :=
  config.retryBudget ≤ s.failures →
    s.fallback = true ∨ ∃ beat ∈ series past, beat.Spared config.retryBudget

theorem Engaged.fail (engaged : Engaged config past s) (life : Life config past s) {turn : Turn}
    (failure : (s.beat config turn).befell = some .failure) :
    Engaged config (past ++ [s.beat config turn]) (s.beat config turn).after := by
  intro reached
  have upshot := beat_upshot life turn
  rw [failure] at upshot
  obtain ⟨-, counted, -⟩ := upshot.failure
  have more : (s.beat config turn).after.failures = s.failures + 1 := counted
  have counts : ¬(s.beat config turn).resets = true := by
    rw [Beat.resets, failure]
    exact Bool.false_ne_true
  rw [series_concat, if_neg counts]
  by_cases first : (s.beat config turn).after.failures = config.retryBudget
  · rcases upshot.at_budget first with fallback | ⟨polling, unengaged⟩
    · exact .inl fallback
    · exact .inr ⟨_, List.mem_cons_self .., failure, first, polling, unengaged⟩
  · rw [more] at reached first
    have before := engaged (le_of_le_succ reached first)
    refine before.imp ?_ ?_
    · intro fallback
      have engages : (s.beat config turn).after.fallback = (s.fallback || _) := upshot.engages
      rw [engages, fallback, Bool.true_or]
    · rintro ⟨spared, member, how⟩
      exact ⟨spared, List.mem_cons_of_mem _ member, how⟩

theorem Engaged.other (engaged : Engaged config past s) (positive : 0 < config.retryBudget)
    (life : Life config past s) {turn : Turn}
    (other : (s.beat config turn).befell ≠ some .failure) :
    Engaged config (past ++ [s.beat config turn]) (s.beat config turn).after := by
  intro reached
  have upshot := beat_upshot life turn
  have same : (s.beat config turn).after.fallback = s.fallback := upshot.unengaged other
  have counted : (s.beat config turn).after.failures =
      if (s.beat config turn).resets = true then 0 else s.failures := upshot.uncounted other
  rw [counted] at reached
  rw [series_concat, same]
  split at reached
  · exact absurd reached (UInt32.not_le.2 positive)
  · rename_i counts
    rw [if_neg counts]
    refine (engaged reached).imp id ?_
    rintro ⟨spared, member, how⟩
    exact ⟨spared, List.mem_cons_of_mem _ member, how⟩

theorem life_engaged (positive : 0 < config.retryBudget) (life : Life config past s) :
    Engaged config past s := by
  induction life with
  | fresh => exact fun reached => absurd reached (UInt32.not_le.2 positive)
  | @beat past s life turn ih =>
      by_cases failure : (s.beat config turn).befell = some .failure
      · exact ih.fail life failure
      · exact ih.other positive life failure

/-- **From the budget on, transports are polling ones**, unless the failure that brought the count
to the budget was spared. -/
theorem polling_from_budget {turns : List Turn} (positive : 0 < config.retryBudget) {k : Nat}
    {beat : Beat} (here : (history config turns)[k]? = some beat)
    (reached : config.retryBudget ≤ beat.before.failures) {link : Link}
    (opened : .open link ∈ beat.effects) :
    link.kind = .polling ∨
      ∃ earlier ∈ series ((history config turns).take k), earlier.Spared config.retryBudget := by
  have life := life_of config turns
  obtain ⟨number, kind⟩ := link
  cases kind with
  | polling => exact .inl rfl
  | persistent =>
      right
      -- That the transport is persistent shows the fallback unengaged, though the count had it due.
      obtain ⟨unengaged, -⟩ := life.persistent here opened
      have engaged := life_engaged positive (life.at here).1 reached
      rw [unengaged] at engaged
      exact engaged.resolve_left Bool.false_ne_true

/-- A session with a budget of one failure whose first transport closes once it served: the
instance is asked for, and the credentials it brings are tried after the settle delay. -/
def relapse (forced : Bool) : List Turn :=
  [{ input := .init ⟨"S1"⟩ ⟨"T1"⟩ forced }, { input := .transport 0 .opened },
    { input := .transport 0 (.message "I1&K0") }, { input := .transport 0 .closed },
    { input := .expired .retry ⟨2⟩ },
    { input := .resolved 1 false (some (.credentials ⟨"S2"⟩ ⟨"T2"⟩)) },
    { input := .expired .settle ⟨3⟩ }]

/-- After a persistent transport, the second one is a polling one. -/
theorem relapse_polls :
    ∃ beat, (history { retryBudget := 1 } (relapse false))[6]? = some beat ∧
      (1 : UInt32) ≤ beat.before.failures ∧ .open ⟨1, .polling⟩ ∈ beat.effects ∧
        (TransportKind.polling = .polling ∨
          ∃ earlier ∈ series ((history { retryBudget := 1 } (relapse false)).take 6),
            earlier.Spared 1) := by
  obtain ⟨beat, here⟩ : ∃ beat, (history { retryBudget := 1 } (relapse false))[6]? = some beat :=
    ⟨_, rfl⟩
  have found : ((history { retryBudget := 1 } (relapse false))[6]?).all fun beat =>
      decide ((1 : UInt32) ≤ beat.before.failures ∧ .open ⟨1, .polling⟩ ∈ beat.effects) := by
    decide +kernel
  rw [here, Option.all_some, decide_eq_true_eq] at found
  obtain ⟨reached, opened⟩ := found
  exact ⟨beat, here, reached, opened,
    @polling_from_budget { retryBudget := 1 } _ (by decide) _ _ here reached _ opened⟩

/-- After a polling transport that was asked for, the second one is a persistent one. -/
theorem persistent_at_budget :
    ¬∀ (config : SessionConfig) (turns : List Turn), 0 < config.retryBudget →
      ∀ beat ∈ history config turns, config.retryBudget ≤ beat.before.failures →
        ∀ link, .open link ∈ beat.effects → link.kind = .polling := by
  intro polls
  have found : ∃ beat ∈ history { retryBudget := 1 } (relapse true),
      (1 : UInt32) ≤ beat.before.failures ∧ .open ⟨1, .persistent⟩ ∈ beat.effects := by
    decide +kernel
  obtain ⟨beat, member, reached, opened⟩ := found
  cases polls { retryBudget := 1 } (relapse true) (by decide) beat member reached _ opened

/-! ## Where nothing is forced -/

/-- Persistent transports can be built, and no polling one is asked for. -/
def Turn.Unforced (turn : Turn) : Prop :=
  turn.persistent = true ∧ ∀ session token, turn.input ≠ .init session token true

/-- A polling transport was opened, or is to be, in fallback only. -/
structure Footing.Faithful (v : Footing) : Prop where
  last : v.lastKind = some .polling → v.fallback = true
  next : v.pendingKind = some .polling → v.fallback = true

/-- Where persistent transports can be had, a polling one is chosen in fallback. -/
theorem Footing.kind_polling {v : Footing} (kind : v.kind true false = .polling) :
    v.fallback = true := by
  unfold Footing.kind at kind
  cases engaged : v.fallback with
  | true => rfl
  | false =>
      rw [engaged] at kind
      cases kind

theorem Anew.faithful {setup : Setup} {v w : Footing} {given : List Effect}
    (anew : Anew setup false v w given) (available : setup.persistent = true)
    (faithful : v.Faithful) : w.Faithful := by
  cases anew with
  | now =>
      rw [available]
      exact ⟨fun polling => Footing.kind_polling (Option.some.inj polling), nofun⟩
  | later =>
      rw [available]
      exact ⟨faithful.last, fun polling => Footing.kind_polling (Option.some.inj polling)⟩

theorem Upshot.faithful {setup : Setup} {v w : Footing} {incident : Option Incident}
    {given : List Effect} (upshot : Upshot setup v incident w given)
    (available : setup.persistent = true) (unforced : incident ≠ some (.start true))
    (faithful : v.Faithful) : w.Faithful := by
  cases upshot with
  | still | greet | idle | welcome | heard | reconnect | request =>
      exact ⟨faithful.last, faithful.next⟩
  | breach | refresh | giveUp | close => exact ⟨faithful.last, nofun⟩
  | setBack | beaten =>
      refine ⟨fun polling => ?_, nofun⟩
      show (v.fallback || _) = true
      rw [faithful.last polling, Bool.true_or]
  | settled phase kept =>
      exact ⟨fun polling => faithful.next (kept.trans polling), nofun⟩
  | @start forced _ _ anew =>
      cases forced with
      | true => exact absurd rfl unforced
      | false => exact anew.faithful available faithful
  | credentials _ anew => exact anew.faithful available faithful
  | reuse _ _ _ anew => exact anew.faithful available faithful

theorem life_faithful (life : Life config past s) (unforced : ∀ beat ∈ past, beat.turn.Unforced) :
    s.footing.Faithful := by
  induction life with
  | fresh => exact ⟨nofun, nofun⟩
  | @beat past s life turn ih =>
      have before := ih fun beat member => unforced beat (List.mem_append_left _ member)
      have here : turn.Unforced := unforced (s.beat config turn) (by simp)
      refine (beat_upshot life turn).faithful here.1 ?_ before
      intro forced
      obtain ⟨session, token, called⟩ := befalls_causes (befell_some forced).2
      exact here.2 session token called

/-- Where nothing is forced, no failure is spared. -/
theorem Life.unspared (life : Life config past s) (unforced : ∀ beat ∈ past, beat.turn.Unforced)
    {beat : Beat} (member : beat ∈ past) : ¬beat.Spared config.retryBudget := by
  intro spared
  obtain ⟨k, here⟩ := List.mem_iff_getElem?.1 member
  obtain ⟨before, -⟩ := life.at here
  have faithful := life_faithful before fun earlier among =>
    unforced earlier (List.mem_of_mem_take among)
  have engaged : beat.before.fallback = true := faithful.last spared.polling
  have upshot := life.upshot here
  rw [spared.failure] at upshot
  have engages : beat.after.fallback = (beat.before.fallback || _) := upshot.engages
  rw [engaged, Bool.true_or, spared.unengaged] at engages
  cases engages

/-- **Where nothing is forced, every transport is a polling one from the budget on.** -/
theorem polling_unless_forced {turns : List Turn} (positive : 0 < config.retryBudget)
    (unforced : ∀ turn ∈ turns, turn.Unforced) {k : Nat} {beat : Beat}
    (here : (history config turns)[k]? = some beat)
    (reached : config.retryBudget ≤ beat.before.failures) {link : Link}
    (opened : .open link ∈ beat.effects) : link.kind = .polling := by
  have all : ∀ beat ∈ history config turns, beat.turn.Unforced := by
    intro beat member
    refine unforced beat.turn ?_
    rw [← map_turn_history config turns]
    exact List.mem_map_of_mem member
  refine (polling_from_budget positive here reached opened).resolve_right ?_
  rintro ⟨earlier, among, spared⟩
  have member := List.mem_of_mem_take (mem_of_mem_series among)
  exact (life_of config turns).unspared all member spared

/-! ## In fallback -/

/-- After the beat the session is in fallback, with no persistent transport to come, and in the beat
none was opened. -/
structure Beat.Polls (beat : Beat) : Prop where
  engaged : beat.after.status.fallback = true
  pending : beat.after.pendingKind ≠ some .persistent
  opened : ∀ link, .open link ∈ beat.effects → link.kind = .polling

theorem Upshot.fallback_kept {setup : Setup} {v w : Footing} {incident : Option Incident}
    {given : List Effect} (upshot : Upshot setup v incident w given)
    (engaged : v.fallback = true) : w.fallback = true := by
  by_cases failure : incident = some .failure
  · subst failure
    rw [upshot.engages, engaged, Bool.true_or]
  · rw [upshot.unengaged failure, engaged]

theorem Life.polls (life : Life config past s) (engaged : s.fallback = true) (turn : Turn) :
    (s.beat config turn).Polls := by
  -- A persistent transport to come would have been foreseen without fallback.
  have unforeseen : ¬(s.beat config turn).after.footing.Upcoming
      (marks (s.beat config turn).effects) := by
    intro upcoming
    obtain ⟨unengaged, -⟩ := (life_foreseen life).beat life turn upcoming
    cases engaged.symm.trans unengaged
  refine ⟨(beat_upshot life turn).fallback_kept engaged, fun next => unforeseen (.inl next), ?_⟩
  rintro ⟨number, kind⟩ opened
  cases kind with
  | polling => rfl
  | persistent => exact absurd (.inr ⟨number, (mem_marks rfl).2 opened⟩) unforeseen

theorem Life.polls_on (life : Life config past s) (engaged : s.fallback = true)
    (more : List Turn) : ∀ beat ∈ historyFrom config s more, beat.Polls := by
  induction more generalizing past s with
  | nil => exact fun _ member => (List.not_mem_nil member).elim
  | cons turn more ih =>
      have here := life.polls engaged turn
      intro beat member
      rcases List.mem_cons.1 member with rfl | later
      · exact here
      · exact ih (life.beat turn) here.engaged beat later

/-- **Fallback is for good.**  Once the status shows fallback it does so after every later input,
whatever handshakes succeed, whatever resets the count and whatever is asked for; no persistent
transport is kept to be opened later, and none is opened. -/
theorem fallback_for_good (config : SessionConfig) (turns more : List Turn)
    (engaged : (reached config turns).status.fallback = true) :
    (reached config turns).pendingKind ≠ some .persistent ∧
      ∀ beat ∈ historyFrom config (reached config turns) more, beat.Polls := by
  have life := life_of config turns
  refine ⟨fun pending => ?_, life.polls_on engaged more⟩
  have unengaged := (life_foreseen life pending).1
  cases engaged.symm.trans unengaged

def recovery : List Turn :=
  (relapse false).drop 4 ++
    [{ input := .transport 1 .opened }, { input := .transport 1 (.message "I1&K1") },
      { input := .init ⟨"S3"⟩ ⟨"T3"⟩ false }, { input := .expired .settle ⟨4⟩ }]

/-- The first failure engages fallback, so both transports opened later are polling ones. -/
theorem recovery_polls :
    (reached { retryBudget := 1 } ((relapse false).take 4)).status.fallback = true ∧
      (∀ beat ∈ historyFrom { retryBudget := 1 }
        (reached { retryBudget := 1 } ((relapse false).take 4)) recovery, beat.Polls) ∧
      ∀ number ∈ [1, 2], .open ⟨number, .polling⟩ ∈ asked (historyFrom { retryBudget := 1 }
        (reached { retryBudget := 1 } ((relapse false).take 4)) recovery) := by
  have engaged :
      (reached { retryBudget := 1 } ((relapse false).take 4)).status.fallback = true := by
    decide +kernel
  refine ⟨engaged, (fallback_for_good { retryBudget := 1 } _ recovery engaged).2, ?_⟩
  decide +kernel

end Tether.Session
