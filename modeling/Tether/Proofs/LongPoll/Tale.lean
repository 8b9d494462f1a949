/-
# Tether.Proofs.LongPoll.Tale -- what a transport reports

A transport reports Open, then each frame that a poll brought, then at most one failure; or
nothing but the failure.  The frames are read off what was heard of the polls (`frames`), not
off what the transport did with it.

    fresh, opening       nothing
    live                 Open, and every frame so far
    ended                as much as was reported before, and a failure unless it was reset

* `Tale.heed` -- every call leaves what was reported so.
* `message_after_poll` -- a frame is reported right after the next poll was posted.
* `fails_first` -- a failure is reported at the first fatal outcome, unless the end came before.
* `hushed` -- after the end nothing is posted and nothing reported, and no call changes anything.
-/
import Tether.Proofs.LongPoll.Courses

set_option autoImplicit false

namespace Tether.LongPoll

def Act.event? : Act → Option TransportEvent
  | .emit event => some event
  | _ => none

def events (log : List Beat) : List TransportEvent :=
  log.flatMap fun beat => beat.acts.filterMap Act.event?

theorem mem_events {event : TransportEvent} {log : List Beat} :
    event ∈ events log ↔ ∃ beat ∈ log, .emit event ∈ beat.acts := by
  simp only [events, List.mem_flatMap, List.mem_filterMap]
  refine exists_congr fun beat => and_congr_right fun _ => ⟨?_, fun told => ⟨_, told, rfl⟩⟩
  rintro ⟨act, told, same⟩
  cases act with
  | emit other =>
      cases same
      exact told
  | post | wake | detach | release => cases same

/-- The frames that the polls brought, oldest first. -/
def frames (log : List Beat) : List String := (replies .polling log).filterMap frame?

/-- What a transport that opened reports. -/
def story (log : List Beat) : List TransportEvent := .opened :: (frames log).map .message

section Concat

variable (log : List Beat) (beat : Beat)

@[simp] theorem events_concat :
    events (log ++ [beat]) = events log ++ beat.acts.filterMap Act.event? := by
  simp only [events, List.flatMap_append, List.flatMap_singleton]

@[simp] theorem frames_concat :
    frames (log ++ [beat]) = frames log ++ ((beat.reply? .polling).bind frame?).toList := by
  unfold frames
  rw [replies_concat, List.filterMap_append]
  cases heard : beat.reply? .polling with
  | none => rfl
  | some outcome => cases brought : frame? outcome <;> simp [brought]

end Concat

/-- The answer that brings a frame brings the next token before it. -/
theorem frame?_eq_some {outcome : Http.Outcome} {frame : String}
    (brought : frame? outcome = some frame) :
    ∃ response token, outcome = .response response ∧ cut response.text = some (token, frame) ∧
      ∀ last, nextToken last outcome = some token := by
  cases outcome with
  | refused | timedOut => cases brought
  | response response =>
      simp only [frame?] at brought
      split at brought
      · rename_i full
        obtain ⟨⟨token, text⟩, cuts, kept⟩ := Option.bind_eq_some_iff.1 brought
        split at kept <;> cases kept
        refine ⟨response, token, rfl, cuts, fun last => ?_⟩
        have read : ¬(response.status = 204 ∨ response.body = []) := not_or.2 full.2
        simp [nextToken, full.1, read, cuts]
      · cases brought

/-- A poll that ends the transport brings no frame. -/
theorem frame?_fatal {outcome : Http.Outcome} (fatal : Fatal .polling outcome) :
    frame? outcome = none := by
  cases outcome with
  | refused | timedOut => rfl
  | response response =>
      simp only [Fatal, NeedsDelimiter] at fatal
      simp only [frame?]
      split
      · rename_i full
        rcases fatal with unaccepted | ⟨-, free⟩
        · rw [full.1] at unaccepted
          cases unaccepted
        · rw [cut_eq_none.2 free]
          rfl
      · rfl

theorem event_messages (news : List String) :
    (news.map fun frame => Act.emit (.message frame)).filterMap Act.event? = news.map .message := by
  simp [List.filterMap_map, Function.comp_def, Act.event?]

/-! ## What each phase has reported -/

/-- What is reported in all: a stem, and at most a failure after it. -/
structure Over (told : List TransportEvent) (log : List Beat) (stem tail : List TransportEvent) :
    Prop where
  whole : told = stem ++ tail
  stem : stem = [] ∧ frames log = [] ∨ stem = story log
  tail : tail = [] ∨ tail = [.failed]

/-- What a transport with this log can have reported in a phase. -/
def Tale (told : List TransportEvent) (log : List Beat) : Phase → Prop
  | .fresh | .opening => told = [] ∧ frames log = []
  | .live => told = story log
  | .ended => ∃ stem tail, Over told log stem tail

section Phases

variable {told : List TransportEvent} {log late : List Beat} {phase : Phase}

/-- A transport that ends reports at most a failure of it. -/
theorem Tale.ends (tale : Tale told log phase) (going : phase ≠ .ended)
    {tail : List TransportEvent} (last : tail = [] ∨ tail = [.failed]) :
    Tale (told ++ tail) log .ended := by
  refine ⟨told, tail, rfl, ?_, last⟩
  cases phase with
  | ended => exact absurd rfl going
  | fresh | opening => exact .inl tale
  | live => exact .inr tale

theorem Tale.congr (tale : Tale told log phase) (same : frames late = frames log) :
    Tale told late phase := by
  have story : story late = story log := by rw [story, story, same]
  cases phase with
  | fresh | opening => exact ⟨tale.1, same.trans tale.2⟩
  | live => exact (Eq.trans tale story.symm : told = _)
  | ended =>
      obtain ⟨stem, tail, whole, said, last⟩ := tale
      refine ⟨stem, tail, whole, ?_, last⟩
      rw [same, story]
      exact said

end Phases

/-! ## One call -/

section Call

variable {log : List Beat} {beat : Beat} {t : LongPoll} {d d' : Docket} {phase : Phase}

/-- What a request brings up is reported before it is late. -/
theorem Tale.dispatched {job : Job} {body : String} {more : List Act} (going : t.phase ≠ .ended)
    (acted : beat.acts = (t.dispatch job body more).2)
    (tale : Tale (events log ++ more.filterMap Act.event?) (log ++ [beat]) t.phase) :
    Tale (events (log ++ [beat])) (log ++ [beat]) (t.dispatch job body more).1.phase := by
  rw [events_concat, acted]
  rcases t.dispatch_cases job body more going with ⟨same, -⟩ | ⟨same, -⟩
  · rw [same]
    exact tale
  · have late : (Act.post job (t.letter job body) (t.options.limit job) :: more ++
        [Act.release, Act.emit .failed]).filterMap Act.event? =
          more.filterMap Act.event? ++ [.failed] := by
      rw [List.cons_append, List.filterMap_cons_none rfl, List.filterMap_append]
      rfl
    rw [same, late, ← List.append_assoc]
    exact tale.ends going (.inr rfl)

/-- A call that is told of no poll and reports nothing. -/
theorem Tale.quiet (tale : Tale (events log) log phase) (mute : beat.reply? .polling = none)
    (quiet : beat.acts.filterMap Act.event? = []) :
    Tale (events (log ++ [beat])) (log ++ [beat]) phase := by
  rw [events_concat, quiet, List.append_nil]
  exact tale.congr (by simp [mute])

/-- A call that is told of no poll and posts a request. -/
theorem Tale.posts {job : Job} {body : String} (tale : Tale (events log) log t.phase)
    (going : t.phase ≠ .ended) (mute : beat.reply? .polling = none)
    (acted : beat.acts = (t.dispatch job body []).2) :
    Tale (events (log ++ [beat])) (log ++ [beat]) (t.dispatch job body []).1.phase := by
  refine Tale.dispatched going acted ?_
  rw [List.filterMap_nil, List.append_nil]
  exact tale.congr (by simp [mute])

/-- **Every call leaves a tale**, if it spends what it waited for. -/
theorem Tale.heed (tale : Tale (events log) log beat.before.phase) (fits : Fits log beat.before d)
    (spends : Docket.Spends d beat.call d') :
    Tale (events (log ++ [beat])) (log ++ [beat]) beat.after.phase := by
  by_cases ended : beat.before.phase = .ended
  · have step := heed_over ended beat.call
    have same : beat.after = beat.before := congrArg Prod.fst step
    have acted : beat.acts = if beat.call = .reset then [.detach, .release] else [] :=
      congrArg Prod.snd step
    rw [same]
    refine tale.quiet ?_ ?_
    · unfold Beat.reply?
      split <;> simp [ended]
    · rw [acted]
      split <;> rfl
  · have step := course ended beat.call
    have acted : beat.acts = (beat.before.heed beat.call).2 := rfl
    have became : beat.after = (beat.before.heed beat.call).1 := rfl
    rw [became]
    generalize beat.before.heed beat.call = result at step acted ⊢
    generalize called : beat.call = call at step
    -- Only the answer to a poll may bring a frame.
    have mute (other : ∀ outcome, call ≠ .answer .polling outcome) : beat.reply? .polling = none := by
      unfold Beat.reply?
      split
      · rename_i job outcome answers
        refine if_neg ?_
        rintro ⟨rfl, -⟩
        exact other outcome (called.symm.trans answers)
      · rfl
    cases step with
    | idle stray =>
        exact tale.quiet (mute fun outcome => stray.unanswered .polling outcome) (by simp [acted])
    | start fresh =>
        rw [fresh] at tale
        exact Tale.quiet tale (mute nofun) (by simp [acted, Act.event?])
    | ask opening => exact Tale.posts tale ended (mute nofun) acted
    | greet greeted =>
        rw [called] at spends
        cases spends
        obtain ⟨opening, unsaid, -⟩ := fits.knocked ended
        have silent : beat.reply? .polling = none := mute nofun
        rw [opening] at tale
        change events (log ++ [beat]) = story (log ++ [beat])
        simp [story, acted, Act.event?, tale.1, tale.2, silent]
    | poll live => exact Tale.posts tale ended (mute nofun) acted
    | @again outcome token next =>
        rw [called] at spends
        cases spends
        obtain ⟨live, -⟩ := fits.held ended
        have reply := Beat.reply?_answer called ended .polling
        rw [if_pos rfl] at reply
        refine Tale.dispatched (t := { beat.before with token }) ended acted ?_
        rw [live] at tale
        simp only [live, event_messages]
        change events log ++ _ = story (log ++ [beat])
        rw [tale]
        simp [story, reply]
    | enqueue live => exact tale.quiet (mute nofun) (by simp [acted, Act.event?])
    | hold | rest => exact tale.quiet (mute nofun) (by simp [acted])
    | @mail call frame later turn live next =>
        have silent : beat.reply? .polling = none := by
          rcases turn with ⟨rfl, -⟩ | ⟨outcome, -, rfl⟩ <;> exact mute nofun
        exact Tale.posts (t := { beat.before with queue := later, sending := true }) tale ended silent
          acted
    | @fail job outcome fatal =>
        have same : frames (log ++ [beat]) = frames log := by
          have reply := Beat.reply?_answer called ended .polling
          rw [frames_concat, reply]
          cases job with
          | polling => simp [frame?_fatal fatal]
          | opening | sending => simp
        rw [events_concat, acted]
        exact (tale.congr same).ends ended (.inr rfl)
    | reset =>
        have silent : beat.reply? .polling = none := mute nofun
        rw [events_concat, acted]
        exact (tale.congr (by simp [silent])).ends ended (.inl rfl)

/-! ## The order of things -/

theorem message_dispatch {job : Job} {body frame : String} {more : List Act}
    (going : t.phase ≠ .ended) :
    .emit (.message frame) ∈ (t.dispatch job body more).2 ↔ .emit (.message frame) ∈ more := by
  obtain ⟨tail, last, same⟩ := t.dispatch_snd job body more going
  rw [same]
  rcases last with rfl | rfl <;> simp

/-- A frame is reported right after the next poll was posted, with the token that came along. -/
theorem message_after_poll {frame : String} (told : .emit (.message frame) ∈ beat.acts) :
    ∃ outcome token request limit rest, beat.call = .answer .polling outcome ∧
      nextToken beat.before.token outcome = some token ∧ frame? outcome = some frame ∧
      request = beat.before.letter .polling (beat.before.signed token) ∧
      beat.acts = .post .polling request limit :: .emit (.message frame) :: rest := by
  by_cases ended : beat.before.phase = .ended
  · have acted : beat.acts = if beat.call = .reset then [.detach, .release] else [] :=
      congrArg Prod.snd (heed_over ended beat.call)
    rw [acted] at told
    split at told <;> simp at told
  · have step := course ended beat.call
    have acted : beat.acts = (beat.before.heed beat.call).2 := rfl
    rw [acted] at told ⊢
    generalize beat.before.heed beat.call = result at step told ⊢
    generalize beat.call = call at step ⊢
    cases step with
    | @again outcome token next =>
        obtain ⟨tail, last, same⟩ := dispatch_snd (t := { beat.before with token }) .polling
          (beat.before.signed token)
          ((frame? outcome).toList.map fun frame => .emit (.message frame)) ended
        have brought : frame? outcome = some frame := by
          simpa using (message_dispatch (t := { beat.before with token }) ended).1 told
        refine ⟨outcome, token, _, beat.before.options.limit .polling, tail, rfl, next, brought, rfl,
          ?_⟩
        rw [same, brought]
        rfl
    | ask | poll => cases (message_dispatch ended).1 told
    | @mail _ _ later =>
        cases (message_dispatch (t := { beat.before with queue := later, sending := true }) ended).1
          told
    | idle | start | greet | enqueue | hold | rest | fail | reset => simp at told

/-- The act neither detaches the sink nor reports the end. -/
def Act.IsOpen : Act → Prop
  | .emit event => event.isTerminal = false
  | .detach => False
  | .post _ _ _ | .wake _ | .release => True

/-- What ends a transport is the last that it does. -/
theorem acts_split (going : beat.before.phase ≠ .ended) :
    ∃ first last, beat.acts = first ++ last ∧ (∀ act ∈ first, act.IsOpen) ∧
      (last = [] ∧ ¬(.emit .failed ∈ beat.acts ∨ beat.call = .reset) ∨
        last = [.release, .emit .failed] ∨ last = [.detach, .release] ∧ beat.call = .reset) := by
  have step := course going beat.call
  unfold Beat.acts
  generalize beat.before.heed beat.call = result at step ⊢
  generalize beat.call = call at step ⊢
  have dispatched {t : LongPoll} {job : Job} {body : String} {more : List Act}
      (goes : t.phase ≠ .ended) (quiet : ∀ act ∈ more, act.IsOpen) (alive : call ≠ .reset) :
      ∃ first last, (t.dispatch job body more).2 = first ++ last ∧ (∀ act ∈ first, act.IsOpen) ∧
        (last = [] ∧ ¬(.emit .failed ∈ (t.dispatch job body more).2 ∨ call = .reset) ∨
          last = [.release, .emit .failed] ∨ last = [.detach, .release] ∧ call = .reset) := by
    obtain ⟨tail, last, same⟩ := t.dispatch_snd job body more goes
    refine ⟨_, tail, same, ?_, ?_⟩
    · simpa [Act.IsOpen] using quiet
    · rcases last with rfl | rfl
      · refine .inl ⟨rfl, ?_⟩
        rw [same, List.append_nil]
        rintro (failed | reset)
        · rcases List.mem_cons.1 failed with ends | ends
          · cases ends
          · cases quiet _ ends
        · exact alive reset
      · exact .inr (.inl rfl)
  cases step with
  | @idle call stray =>
      refine ⟨[], [], rfl, by simp, .inl ⟨rfl, ?_⟩⟩
      rintro (failed | rfl)
      · cases failed
      · exact stray
  | start | enqueue => exact ⟨[.wake _], [], rfl, by simp [Act.IsOpen], .inl ⟨rfl, by simp⟩⟩
  | greet =>
      refine ⟨[.emit .opened, .wake .polling], [], rfl, ?_, .inl ⟨rfl, by simp⟩⟩
      simp [Act.IsOpen, TransportEvent.isTerminal]
  | hold | rest => exact ⟨[], [], rfl, by simp, .inl ⟨rfl, by simp⟩⟩
  | ask | poll => exact dispatched going (by simp) (by simp)
  | @again outcome token next =>
      refine dispatched (t := { beat.before with token }) going ?_ (by simp)
      intro act among
      obtain ⟨frame, -, rfl⟩ := List.mem_map.1 among
      rfl
  | @mail call frame later turn live next =>
      refine dispatched (t := { beat.before with queue := later, sending := true }) going (by simp) ?_
      rintro rfl
      simp at turn
  | fail => exact ⟨[], [.release, .emit .failed], rfl, by simp, .inr (.inl rfl)⟩
  | reset => exact ⟨[], [.detach, .release], rfl, by simp, .inr (.inr ⟨rfl, rfl⟩)⟩

/-- A transport is over as soon as it failed, or was reset or dropped. -/
theorem Fits.ended_iff (fits : Fits log t d) : t.phase = .ended ↔ Ended log := by
  cases phase : t.phase with
  | fresh | opening =>
      simp only [Fits, phase] at fits
      simp [fits.1.going]
  | live =>
      simp only [Fits, phase] at fits
      obtain ⟨⟨uid, token, greeted⟩, -⟩ := fits
      simp [greeted.going]
  | ended =>
      simp only [Fits, phase] at fits
      simp [fits.1]

/-- A failure is reported at a fatal outcome or a request without time, unless the end came
before. -/
def FailsFirst (early : List Beat) (beat : Beat) : Prop :=
  .emit .failed ∈ beat.acts ↔ ¬Ended early ∧ beat.Fatal

/-- After the end no call changes anything: all that a reset still does is to detach the sink and
give up the requests. -/
def Hushed (early : List Beat) (beat : Beat) : Prop :=
  Ended early →
    beat.after = beat.before ∧ beat.acts = if beat.call = .reset then [.detach, .release] else []

theorem hushed (fits : Fits log beat.before d) : Hushed log beat := by
  intro ended
  have step := heed_over (fits.ended_iff.2 ended) beat.call
  exact ⟨congrArg Prod.fst step, congrArg Prod.snd step⟩

theorem fails_first (fits : Fits log beat.before d) : FailsFirst log beat := by
  unfold FailsFirst
  by_cases ended : Ended log
  · have acted := (hushed fits ended).2
    rw [acted]
    split <;> simp [ended]
  · have going : beat.before.phase ≠ .ended := mt fits.ended_iff.1 ended
    simp [failed_iff going, ended]

end Call

end Tether.LongPoll
