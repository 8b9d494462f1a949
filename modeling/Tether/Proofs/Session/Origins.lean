/-
# Tether.Proofs.Session.Origins -- whose credentials an attempt presents

Credentials come from the application, or with the reply that is awaited.  Whenever they come,
the transport in use is given up.  So a transport in use was opened with those that came last: the
attempt goes back to the beat that brought them.

A reply can bring empty ones too.  They start nothing: the session is adrift, and unless others come
there is no transport for an attempt to come out on.

* `befell_of_delivered` -- where credentials come from.
* `opened_since` -- a transport in use was opened since credentials came.
* `adrift_since` -- until credentials come the session is adrift.
* `last_delivery` -- the credentials that came last.
-/
import Tether.Proofs.Session.Flavours
import Tether.Proofs.Session.Rulings

set_option autoImplicit false

namespace Tether.Session

variable {config : SessionConfig} {past : List Beat} {s : Session} {turn : Turn} {beat : Beat}
  {attempt : Nat}

/-! ## What credentials start -/

/-- Credentials are heard when the application brings them, or the reply that is awaited. -/
theorem befalls_of_credentials (accepting : Bool) {input : Input} {session : SessionId}
    {token : AccessToken} (hears : s.hears input = some (.credentials session token)) :
    (∃ forced, s.befalls accepting input = some (.start forced)) ∨
      s.befalls accepting input = some .credentials := by
  have usable : ∀ {session' : SessionId} {token' : AccessToken},
      presentable session' token' = some (.credentials session token) →
        ¬(session'.isEmpty || token'.isEmpty) = true := by
    intro session' token' given
    unfold presentable at given
    split at given
    · cases given
    · assumption
  cases input with
  | init session' token' forced => exact .inl ⟨forced, if_neg (usable hears)⟩
  | resolved attempt manual reply =>
      match reply with
      | some (.credentials session' token') =>
          unfold Session.hears at hears
          dsimp only at hears
          split at hears
          · rename_i current
            exact .inr ((if_pos current).trans (if_neg (usable hears)))
          · cases hears
      | some .refresh => cases hears
      | none => cases hears
  | transport number event =>
      unfold Session.hears at hears
      cases event with
      | opened =>
          dsimp only at hears
          split at hears <;> cases hears
      | message data =>
          unfold reads at hears
          dsimp only at hears
          repeat' split at hears
          all_goals cases hears
      | _ => cases hears
  | _ => cases hears

theorem befell_of_delivered (brought : beat.delivered ≠ none) :
    (∃ forced, beat.befell = some (.start forced)) ∨ beat.befell = some .credentials := by
  unfold Beat.delivered at brought
  split at brought
  · rename_i session token heard
    unfold Beat.heard at heard
    split at heard
    · rename_i running
      rw [befell_running running]
      exact befalls_of_credentials beat.turn.accepting heard
    · cases heard
  · exact absurd rfl brought

theorem grants_of_credentials (befell : beat.befell = some .credentials) :
    ∃ attempt manual, beat.Grants attempt manual := by
  obtain ⟨manual, session, token, called, requesting, -⟩ := befalls_causes (befell_some befell).2
  exact ⟨_, manual, requesting, rfl, session, token, called⟩

/-- Unless the mark is set anew, it is the application that brings credentials. -/
theorem start_of_delivered (brought : beat.delivered ≠ none) (unsettled : ¬beat.Settles) :
    ∃ forced, beat.befell = some (.start forced) :=
  (befell_of_delivered brought).resolve_right fun befell =>
    unsettled (.inr (.inr (grants_of_credentials befell)))

theorem Anew.resets {setup : Setup} {forced : Bool} {v w : Footing} {given : List Effect}
    (anew : Anew setup forced v w given) {link : Link} (used : v.active = some link) :
    .retire link.number ∈ given := by
  cases anew with
  | now unused =>
      rw [unused] at used
      cases used
  | later => exact List.mem_append_left _ (mem_retirement.2 ⟨link, links_of_active used, rfl⟩)

/-- Fresh credentials take the transport in use out of use. -/
theorem resets_of_delivered (life : Life config past s)
    (brought : (s.beat config turn).delivered ≠ none) {link : Link} (used : s.active = some link) :
    .retire link.number ∈ (s.beat config turn).effects := by
  have upshot := beat_upshot life turn
  refine (mem_marks rfl).1 ?_
  rcases befell_of_delivered brought with ⟨forced, befell⟩ | befell
  · rw [befell] at upshot
    cases upshot with
    | start anew => exact anew.resets used
  · rw [befell] at upshot
    cases upshot with
    | credentials _ anew => exact anew.resets used

theorem asked_append (first second : List Beat) :
    asked (first ++ second) = asked first ++ asked second := List.flatMap_append ..

/-- A transport in use was opened with the credentials that came before it. -/
theorem opened_since {first later : List Beat} {origin : Beat}
    (life : Life config (first ++ origin :: later) s) (brought : origin.delivered ≠ none)
    {link : Link} (used : s.active = some link) : .open link ∈ asked (origin :: later) := by
  have opened := (life_tenures life).serving link used
  rw [asked_append] at opened
  refine (List.mem_append.1 opened).resolve_left fun before => ?_
  have gone : Retired (first ++ origin :: later) link.number := by
    obtain ⟨earlier, same⟩ := life.split
    rcases (life_tenures earlier).ended link before with active | retired
    · rw [same] at brought
      have reset := resets_of_delivered earlier brought active
      rw [← same] at reset
      exact ⟨origin, by simp, reset⟩
    · obtain ⟨beat, member, reset⟩ := List.mem_flatMap.1 retired
      exact ⟨beat, List.mem_append_left _ member, reset⟩
  refine retired_unused life gone ?_
  rw [used]
  rfl

/-! ## Empty credentials -/

/-- Nothing is to come but a call of the application or the user. -/
structure Footing.Adrift (v : Footing) : Prop where
  phase : v.phase = .reconnecting ∨ v.phase = .failed ∨ v.phase = .idle
  retry : v.retry.pending = false

theorem Footing.Adrift.elsewhere {v : Footing} (adrift : v.Adrift) {phase : Phase}
    (same : v.phase = phase)
    (other : phase ≠ .reconnecting ∧ phase ≠ .failed ∧ phase ≠ .idle) : False := by
  subst same
  rcases adrift.phase with phase | phase | phase
  · exact other.1 phase
  · exact other.2.1 phase
  · exact other.2.2 phase

/-- Without credentials, and without a failure, a session stays adrift. -/
theorem Upshot.adrift {setup : Setup} {v w : Footing} {incident : Option Incident}
    {given : List Effect} (upshot : Upshot setup v incident w given) (adrift : v.Adrift)
    (failed : incident ≠ some .failure) (started : ∀ forced, incident ≠ some (.start forced))
    (granted : incident ≠ some .credentials) : w.Adrift := by
  cases upshot with
  | still => exact adrift
  | idle => exact ⟨adrift.phase, adrift.retry⟩
  | setBack | beaten => exact absurd rfl failed
  | start => exact absurd rfl (started _)
  | credentials => exact absurd rfl granted
  | reconnect => exact ⟨.inl rfl, rfl⟩
  | refresh | close => exact ⟨.inr (.inr rfl), rfl⟩
  | request phase pending | reuse phase pending | giveUp phase pending =>
      cases adrift.retry.symm.trans pending
  | greet phase | settled phase => exact (adrift.elsewhere phase (by decide)).elim
  | welcome phase => exact (adrift.elsewhere phase (by decide)).elim
  | heard phase | breach phase => exact (adrift.elsewhere phase (by decide)).elim

theorem Footing.Adrift.unused (adrift : s.footing.Adrift) (coherent : s.Coherent False) :
    s.active = none := by
  rcases adrift.phase with phase | phase | phase
  · exact ((arranged_reconnecting phase).1 coherent.arranged).active
  · exact ((arranged_failed phase).1 coherent.arranged).active
  · exact ((arranged_idle phase).1 coherent.arranged).active

/-- A reply that delivers nothing sets the session adrift. -/
theorem adrift_of_hollow (life : Life config past s) {manual : Bool}
    (grants : (s.beat config turn).Grants attempt manual)
    (hollow : (s.beat config turn).delivered = none) :
    (s.beat config turn).after.footing.Adrift := by
  obtain ⟨requesting, rfl, session, token, replied⟩ := grants
  have empty : (session.isEmpty || token.isEmpty) = true := by
    cases usable : session.isEmpty || token.isEmpty with
    | true => rfl
    | false =>
        have befell := reply_befell life requesting replied
        rw [Incident.ofReply, usable] at befell
        exact absurd hollow (delivered_of_credentials befell)
  have stranded := (reply_stranded life requesting replied empty).1
  exact ⟨.inl stranded.phase, stranded.retry⟩

/-- Until credentials come there is no transport for an attempt to come out on. -/
theorem adrift_since (life : Life config past s) {first since : List Beat} {reply : Beat}
    (stands : Stands past first reply since attempt)
    (nothing : ∀ beat ∈ reply :: since, beat.delivered = none) : s.footing.Adrift := by
  obtain ⟨rfl, granted, unsettled⟩ := stands
  induction since using List.reverseRecOn generalizing s with
  | nil =>
      obtain ⟨before, same, rfl⟩ := life.last
      rw [same] at granted nothing ⊢
      exact adrift_of_hollow before granted (nothing _ (List.mem_cons_self ..))
  | append_singleton since beat ih =>
      rw [← List.cons_append, ← List.append_assoc] at life
      obtain ⟨before, same, rfl⟩ := life.last
      have nothing_before : ∀ other ∈ reply :: since, other.delivered = none := fun other member =>
        nothing other (List.mem_append_left [beat] member)
      have adrift := ih nothing_before
        (fun other member => unsettled other (List.mem_append_left _ member)) before
      have last : beat ∈ since ++ [beat] := List.mem_append_right _ (List.mem_singleton_self _)
      have open_ := unsettled beat last
      have undelivered := nothing beat (List.mem_cons_of_mem _ last)
      have upshot := beat_upshot before beat.turn
      rw [← same] at upshot
      refine upshot.adrift adrift (fun failure => open_ (.inl failure)) ?_ ?_
      · exact fun forced started => delivered_of_start started undelivered
      · exact fun granted => delivered_of_credentials granted undelivered

/-! ## The last delivery -/

/-- If credentials came, some came last. -/
theorem last_delivery {line : List Beat} (delivers : ∃ beat ∈ line, beat.delivered ≠ none) :
    ∃ early origin late, line = early ++ origin :: late ∧ origin.delivered ≠ none ∧
      ∀ other ∈ late, other.delivered = none := by
  induction line using List.reverseRecOn with
  | nil => simp at delivers
  | append_singleton line beat ih =>
      by_cases brought : beat.delivered = none
      · have earlier : ∃ other ∈ line, other.delivered ≠ none := by
          obtain ⟨other, member, delivered⟩ := delivers
          rcases List.mem_append.1 member with before | last
          · exact ⟨other, before, delivered⟩
          · rw [List.mem_singleton.1 last] at delivered
            exact absurd brought delivered
        obtain ⟨early, origin, late, rfl, delivered, only⟩ := ih earlier
        refine ⟨early, origin, late ++ [beat], by simp, delivered, fun other member => ?_⟩
        rcases List.mem_append.1 member with before | last
        · exact only other before
        · rw [List.mem_singleton.1 last]
          exact brought
      · exact ⟨line, beat, [], rfl, brought, fun _ member => (List.not_mem_nil member).elim⟩

end Tether.Session
