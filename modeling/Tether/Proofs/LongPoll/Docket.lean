/-
# Tether.Proofs.LongPoll.Docket -- what waits for a polling transport

A docket counts what waits in the surroundings of one transport: how often a job is still to
go on, how many requests of a job have not been heard of, and whether the requests are about
to be given up.  Acts enter the docket, and the calls that wake a job or answer a request are
spent from it.

Nothing else is asked of the surroundings: what waits may come in any order, with any outcome,
between any other calls.  From that alone follows what the docket holds in each phase.

    fresh                nothing
    opening              the wake of the opening job, or its one request
    live                 the wake of the polling job, or its one request
    ended                requests that are about to be given up

* `Fits.heed` -- every call leaves a docket that fits.
* `Fits.live_iff` -- a transport that polls is one that opened and is not over.
* `Fits.calm` -- such a one has one poll in flight, where nothing else waits.
-/
import Tether.Proofs.LongPoll.Calls

set_option autoImplicit false

namespace Tether.LongPoll

/-- What waits for a transport. -/
structure Docket where
  /-- How often each job is to go on. -/
  wakes : Job → Nat := fun _ => 0
  /-- The requests of each job that the transport has not heard of. -/
  flights : Job → Nat := fun _ => 0
  /-- Whether the requests are about to be given up. -/
  released : Bool := false

namespace Docket

def wake (d : Docket) (job : Job) : Docket :=
  { d with wakes := fun other => d.wakes other + if job = other then 1 else 0 }

def post (d : Docket) (job : Job) : Docket :=
  { d with flights := fun other => d.flights other + if job = other then 1 else 0 }

def enter (d : Docket) : Act → Docket
  | .post job _ _ => d.post job
  | .wake job => d.wake job
  | .release => { d with released := true }
  | .emit _ | .detach => d

def enterAll (d : Docket) (acts : List Act) : Docket := acts.foldl enter d

/-- The docket once the requests are given up. -/
def clear (d : Docket) (released : Bool) : Docket := { d with flights := fun _ => 0, released }

/-- A call spends what it waited for: `d` before it, the last docket after. -/
inductive Spends : Docket → Call → Docket → Prop
  | start (d : Docket) : Spends d .start d
  | wake (d : Docket) (job : Job) : Spends (d.wake job) (.wake job) d
  | answer (d : Docket) (job : Job) (outcome : Http.Outcome) :
      Spends (d.post job) (.answer job outcome) d
  | send (d : Docket) (frame : String) : Spends d (.send frame) d
  | reset (d : Docket) : Spends d .reset d

/-- What waits for the opening job and for the polling job, with nothing to be given up. -/
def Reads (d : Docket) (openingWakes openings pollingWakes polls : Nat) : Prop :=
  d.wakes .opening = openingWakes ∧ d.flights .opening = openings ∧
    d.wakes .polling = pollingWakes ∧ d.flights .polling = polls ∧ d.released = false

theorem enterAll_append (d : Docket) (first second : List Act) :
    d.enterAll (first ++ second) = (d.enterAll first).enterAll second := List.foldl_append

theorem released_enter {d : Docket} (released : d.released = true) (act : Act) :
    (d.enter act).released = true := by
  cases act <;> first | exact released | rfl

theorem released_enterAll {d : Docket} (released : d.released = true) (acts : List Act) :
    (d.enterAll acts).released = true := by
  induction acts generalizing d with
  | nil => exact released
  | cons act acts ih => exact ih (released_enter released act)

theorem enterAll_release (d : Docket) {acts : List Act} (release : .release ∈ acts) :
    (d.enterAll acts).released = true := by
  obtain ⟨first, rest, rfl⟩ := List.append_of_mem release
  rw [enterAll_append]
  exact released_enterAll rfl rest

theorem enterAll_messages (d : Docket) (news : List String) :
    d.enterAll (news.map fun frame => .emit (.message frame)) = d := by
  induction news with
  | nil => rfl
  | cons frame news ih => exact ih

end Docket

/-! ## Phases -/

/-- Nothing was said of opening, polling or the end. -/
structure Unsaid (log : List Beat) : Prop where
  shut : ¬Opened log
  going : ¬Ended log
  asked : asked log = []
  openings : replies .opening log = []
  answers : replies .polling log = []

/-- The transport opened, goes on, and holds the id and the token that it was told last. -/
structure Greeted (log : List Beat) (t : LongPoll) (uid token : String) : Prop where
  opened : Opened log
  going : ¬Ended log
  greeted : (replies .opening log).head?.bind firstToken = some (uid, token)
  named : t.uid = some uid
  reached : (replies .polling log).foldlM nextToken token = some t.token

/-- The docket that a transport with this log can have. -/
def Fits (log : List Beat) (t : LongPoll) (d : Docket) : Prop :=
  match t.phase with
  | .fresh => Unsaid log ∧ d.Reads 0 0 0 0
  | .opening => Unsaid log ∧ (d.Reads 1 0 0 0 ∨ d.Reads 0 1 0 0)
  | .live =>
      (∃ uid token, Greeted log t uid token) ∧
        (d.Reads 0 0 1 0 ∧ asked log = [] ∧ replies .polling log = [] ∨
          d.Reads 0 0 0 1 ∧ asked log = due log)
  | .ended =>
      Ended log ∧ (d.released = true ∨ d.flights .polling = 0) ∧ (asked log = [] ∨ asked log = due log)

theorem fits_new (options : Options) : Fits [] { options } {} := by
  refine ⟨⟨?_, ?_, rfl, rfl, rfl⟩, rfl, rfl, rfl, rfl, rfl⟩
  · rintro ⟨beat, none, -⟩
    cases none
  · rintro ⟨beat, none, -⟩
    cases none

section Waiting

variable {log : List Beat} {t : LongPoll} {d : Docket}

/-- The opening job only goes on while the transport opens. -/
theorem Fits.stirred (fits : Fits log t (d.wake .opening)) (going : t.phase ≠ .ended) :
    t.phase = .opening ∧ Unsaid log ∧ d.Reads 0 0 0 0 := by
  cases phase : t.phase with
  | ended => exact absurd phase going
  | fresh => simp [Fits, phase, Docket.Reads, Docket.wake] at fits
  | live => simp [Fits, phase, Docket.Reads, Docket.wake] at fits
  | opening => simpa [Fits, phase, Docket.Reads, Docket.wake] using fits

/-- The opening request only ends while the transport opens. -/
theorem Fits.knocked (fits : Fits log t (d.post .opening)) (going : t.phase ≠ .ended) :
    t.phase = .opening ∧ Unsaid log ∧ d.Reads 0 0 0 0 := by
  cases phase : t.phase with
  | ended => exact absurd phase going
  | fresh => simp [Fits, phase, Docket.Reads, Docket.post] at fits
  | live => simp [Fits, phase, Docket.Reads, Docket.post] at fits
  | opening => simpa [Fits, phase, Docket.Reads, Docket.post] using fits

/-- The polling job only goes on by itself before the first poll. -/
theorem Fits.called (fits : Fits log t (d.wake .polling)) (going : t.phase ≠ .ended) :
    t.phase = .live ∧ (∃ uid token, Greeted log t uid token) ∧ d.Reads 0 0 0 0 ∧
      asked log = [] ∧ replies .polling log = [] := by
  cases phase : t.phase with
  | ended => exact absurd phase going
  | fresh => simp [Fits, phase, Docket.Reads, Docket.wake] at fits
  | opening => simp [Fits, phase, Docket.Reads, Docket.wake] at fits
  | live => simpa [Fits, phase, Docket.Reads, Docket.wake] using fits

/-- A poll only ends while it is the one that is held. -/
theorem Fits.held (fits : Fits log t (d.post .polling)) (going : t.phase ≠ .ended) :
    t.phase = .live ∧ (∃ uid token, Greeted log t uid token) ∧ d.Reads 0 0 0 0 ∧
      asked log = due log := by
  cases phase : t.phase with
  | ended => exact absurd phase going
  | fresh => simp [Fits, phase, Docket.Reads, Docket.post] at fits
  | opening => simp [Fits, phase, Docket.Reads, Docket.post] at fits
  | live => simpa [Fits, phase, Docket.Reads, Docket.post] using fits

/-- What was posted is what is owed, once the polling job went on. -/
theorem Fits.paid (fits : Fits log t d) : asked log = [] ∨ asked log = due log := by
  cases phase : t.phase with
  | fresh =>
      simp only [Fits, phase] at fits
      exact .inl fits.1.asked
  | opening =>
      simp only [Fits, phase] at fits
      exact .inl fits.1.asked
  | live =>
      simp only [Fits, phase] at fits
      rcases fits.2 with ⟨-, none, -⟩ | ⟨-, all⟩
      · exact .inl none
      · exact .inr all
  | ended =>
      simp only [Fits, phase] at fits
      exact fits.2.2

/-- A transport polls as long as it opened and is not over. -/
theorem Fits.live_iff (fits : Fits log t d) : t.phase = .live ↔ Opened log ∧ ¬Ended log := by
  cases phase : t.phase with
  | fresh | opening =>
      simp only [Fits, phase] at fits
      simp [fits.1.shut]
  | live =>
      simp only [Fits, phase] at fits
      obtain ⟨⟨uid, token, greeted⟩, -⟩ := fits
      simp [greeted.opened, greeted.going]
  | ended =>
      simp only [Fits, phase] at fits
      simp [fits.1]

/-- Where no job is to go on and nothing is to be given up, a transport that polls has one poll
in flight, with the body it owes, and another has none. -/
theorem Fits.calm (fits : Fits log t d) (idle : d.wakes .polling = 0) (kept : d.released = false) :
    d.flights .polling ≤ 1 ∧ (d.flights .polling = 1 ↔ Opened log ∧ ¬Ended log) ∧
      (Opened log ∧ ¬Ended log → asked log = due log) := by
  rw [← fits.live_iff]
  cases phase : t.phase with
  | fresh =>
      simp only [Fits, phase] at fits
      simp [fits.2.2.2.2.1]
  | opening =>
      simp only [Fits, phase] at fits
      rcases fits.2 with waits | waits <;> simp [waits.2.2.2.1]
  | live =>
      simp only [Fits, phase] at fits
      rcases fits.2 with ⟨⟨-, -, one, -⟩, -⟩ | ⟨⟨-, -, -, one, -⟩, all⟩
      · rw [idle] at one
        cases one
      · simp [one, all]
  | ended =>
      simp only [Fits, phase, kept, Bool.false_eq_true, false_or] at fits
      simp [fits.2.1]

/-- While every answer is of use, each brings one token more. -/
theorem length_tokens {answers : List Http.Outcome} {token last : String}
    (reached : answers.foldlM nextToken token = some last) :
    (tokens token answers).length = answers.length + 1 := by
  induction answers generalizing token with
  | nil => rfl
  | cons outcome later ih =>
      rw [List.foldlM_cons] at reached
      obtain ⟨next, step, rest⟩ := Option.bind_eq_some_iff.1 reached
      simp [tokens, step, ih rest]

/-- Until the transport ends, each poll that it posted was answered or waits for its answer. -/
theorem Fits.heard (fits : Fits log t d) (going : ¬Ended log) :
    (asked log).length = (replies .polling log).length + d.flights .polling := by
  cases phase : t.phase with
  | fresh =>
      simp only [Fits, phase] at fits
      simp [fits.1.asked, fits.1.answers, fits.2.2.2.2.1]
  | opening =>
      simp only [Fits, phase] at fits
      rcases fits.2 with waits | waits <;> simp [fits.1.asked, fits.1.answers, waits.2.2.2.1]
  | live =>
      simp only [Fits, phase] at fits
      obtain ⟨⟨uid, token, greeted⟩, ⟨waits, none, unheard⟩ | ⟨waits, owed⟩⟩ := fits
      · simp [none, unheard, waits.2.2.2.1]
      · simp [owed, due, bodies, greeted.greeted, length_tokens greeted.reached, waits.2.2.2.1]
  | ended =>
      simp only [Fits, phase] at fits
      exact absurd fits.1 going

/-- What waits for a transport that has ended can lapse. -/
theorem Fits.lapse {call : Call} {d' : Docket} (fits : Fits log t d) (ended : t.phase = .ended)
    (spends : Docket.Spends d call d') : Fits log t d' := by
  simp only [Fits, ended] at fits ⊢
  refine ⟨fits.1, ?_, fits.2.2⟩
  cases spends with
  | start | send | reset | wake => exact fits.2.1
  | answer =>
      refine fits.2.1.imp id fun none => ?_
      simp only [Docket.post] at none
      omega

/-- Only a transport that has ended has its requests given up. -/
theorem Fits.clear (fits : Fits log t d) (released : d.released = true) (again : Bool) :
    t.phase = .ended ∧ Fits log t (d.clear again) := by
  cases phase : t.phase with
  | fresh | opening | live =>
      simp [Fits, phase, Docket.Reads, released] at fits
  | ended =>
      simp only [Fits, phase] at fits ⊢
      exact ⟨trivial, fits.1, .inr rfl, fits.2.2⟩

end Waiting

/-! ## One call -/

section Call

variable {log : List Beat} {beat : Beat} {t after : LongPoll} {d d' : Docket} {call : Call}
  {acts : List Act}

structure Beat.Silent (beat : Beat) : Prop where
  shut : .emit .opened ∉ beat.acts
  going : ¬(.emit .failed ∈ beat.acts ∨ beat.call = .reset)
  asked : beat.acts.filterMap Act.pollBody? = []
  openings : beat.reply? .opening = none
  answers : beat.reply? .polling = none

theorem Beat.reply?_answer {job : Job} {outcome : Http.Outcome}
    (called : beat.call = .answer job outcome) (going : beat.before.phase ≠ .ended) (other : Job) :
    beat.reply? other = if job = other then some outcome else none := by
  simp [Beat.reply?, called, going]

theorem Beat.reply?_mute (mute : ∀ job outcome, beat.call ≠ .answer job outcome) (job : Job) :
    beat.reply? job = none := by
  unfold Beat.reply?
  split
  · rename_i called
    exact absurd called (mute _ _)
  · rfl

/-- A call that is no answer and no reset says nothing, if its acts do not. -/
theorem Beat.silent (mute : ∀ job outcome, beat.call ≠ .answer job outcome)
    (alive : beat.call ≠ .reset)
    (quiet : ∀ act ∈ beat.acts, act ≠ .emit .opened ∧ act ≠ .emit .failed ∧ act.pollBody? = none) :
    beat.Silent where
  shut said := (quiet _ said).1 rfl
  going said := said.elim (fun failed => (quiet _ failed).2.1 rfl) alive
  asked := List.filterMap_eq_nil_iff.2 fun act among => (quiet act among).2.2
  openings := beat.reply?_mute mute .opening
  answers := beat.reply?_mute mute .polling

theorem Unsaid.concat (unsaid : Unsaid log) (silent : beat.Silent) : Unsaid (log ++ [beat]) where
  shut := by simp [unsaid.shut, silent.shut]
  going := by simpa [unsaid.going] using silent.going
  asked := by simp [unsaid.asked, silent.asked]
  openings := by simp [unsaid.openings, silent.openings]
  answers := by simp [unsaid.answers, silent.answers]

theorem Greeted.concat {uid token : String} (greeted : Greeted log t uid token)
    (silent : beat.Silent) (named : after.uid = t.uid) (same : after.token = t.token) :
    Greeted (log ++ [beat]) after uid token where
  opened := by simp [greeted.opened]
  going := by simpa [greeted.going] using silent.going
  greeted := by simpa [silent.openings] using greeted.greeted
  named := named.trans greeted.named
  reached := by simpa [silent.answers, same] using greeted.reached

theorem due_concat (openings : beat.reply? .opening = none) (answers : beat.reply? .polling = none) :
    due (log ++ [beat]) = due log := by
  simp [due, openings, answers]

/-- A silent call leaves things as they are. -/
theorem Fits.concat (fits : Fits log t d) (going : t.phase ≠ .ended) (silent : beat.Silent)
    (phase : after.phase = t.phase) (named : after.uid = t.uid) (same : after.token = t.token)
    (reads : ∀ {ow o pw p : Nat}, d.Reads ow o pw p → d'.Reads ow o pw p) :
    Fits (log ++ [beat]) after d' := by
  have owed : due (log ++ [beat]) = due log := due_concat silent.openings silent.answers
  cases now : t.phase with
  | ended => exact absurd now going
  | fresh =>
      simp only [Fits, now, phase] at fits ⊢
      exact ⟨fits.1.concat silent, reads fits.2⟩
  | opening =>
      simp only [Fits, now, phase] at fits ⊢
      exact ⟨fits.1.concat silent, fits.2.imp reads reads⟩
  | live =>
      simp only [Fits, now, phase] at fits ⊢
      obtain ⟨⟨uid, token, greeted⟩, stage⟩ := fits
      refine ⟨⟨uid, token, greeted.concat silent named same⟩, ?_⟩
      rcases stage with ⟨waits, none, unheard⟩ | ⟨waits, all⟩
      · exact .inl ⟨reads waits, by simp [none, silent.asked], by simp [unheard, silent.answers]⟩
      · exact .inr ⟨reads waits, by simp [all, silent.asked, owed]⟩

/-- A call that ends the transport. -/
theorem fits_ended (phase : after.phase = .ended)
    (ends : .emit .failed ∈ beat.acts ∨ beat.call = .reset) (release : .release ∈ beat.acts)
    (paid : asked (log ++ [beat]) = [] ∨ asked (log ++ [beat]) = due (log ++ [beat])) :
    Fits (log ++ [beat]) after (d.enterAll beat.acts) := by
  simp only [Fits, phase]
  exact ⟨(ended_concat log beat).2 (.inr ends), .inl (d.enterAll_release release), paid⟩

/-- A transport that has ended stays so, with its requests about to be given up. -/
theorem Fits.deaf (fits : Fits log beat.before d) (ended : beat.before.phase = .ended)
    (spends : Docket.Spends d beat.call d') :
    Fits (log ++ [beat]) beat.after (d'.enterAll beat.acts) := by
  obtain ⟨phase, acts⟩ :
      beat.after.phase = .ended ∧ (beat.acts = [] ∨ beat.acts = [.detach, .release]) :=
    heed_ended ended beat.call
  have unheard (job : Job) : beat.reply? job = none := by
    unfold Beat.reply?
    split <;> simp [ended]
  have unasked : beat.acts.filterMap Act.pollBody? = [] := by
    rcases acts with none | reset
    · rw [none]
      rfl
    · rw [reset]
      rfl
  have rest := fits.lapse ended spends
  simp only [Fits, ended] at rest
  simp only [Fits, phase]
  refine ⟨(ended_concat log beat).2 (.inl rest.1), ?_, ?_⟩
  · rcases acts with none | reset
    · rw [none]
      exact rest.2.1
    · rw [reset]
      exact .inl rfl
  · rw [asked_concat, unasked, List.append_nil, due_concat (unheard _) (unheard _)]
    exact rest.2.2

/-- The opening request is posted. -/
theorem Fits.ask {request : Http.Request} {limit : Nat} (fits : Fits log t d)
    (going : t.phase ≠ .ended) (called : beat.call = .wake .opening)
    (waits : Waits t [.post .opening request limit] after beat.acts)
    (spends : Docket.Spends d (.wake .opening) d') :
    Fits (log ++ [beat]) after (d'.enterAll beat.acts) := by
  cases spends
  obtain ⟨phase, unsaid, reads⟩ := fits.stirred going
  rcases waits with ⟨rfl, acted⟩ | ⟨rfl, acted⟩
  · have silent : beat.Silent :=
      Beat.silent (by simp [called]) (by simp [called]) (by simp [acted, Act.pollBody?])
    simp only [Fits, phase]
    refine ⟨unsaid.concat silent, .inr ?_⟩
    rw [acted]
    simpa [Docket.Reads, Docket.enterAll, Docket.enter, Docket.post] using reads
  · refine fits_ended rfl (.inl (by simp [acted])) (by simp [acted]) (.inl ?_)
    simp [unsaid.asked, acted, Act.pollBody?]

/-- The opening request brought an id and a token. -/
theorem Fits.greet {outcome : Http.Outcome} {uid token : String} (fits : Fits log t d)
    (going : t.phase ≠ .ended) (before : beat.before = t)
    (called : beat.call = .answer .opening outcome)
    (greeted : firstToken outcome = some (uid, token))
    (acted : beat.acts = [.emit .opened, .wake .polling])
    (spends : Docket.Spends d (.answer .opening outcome) d') :
    Fits (log ++ [beat]) { t with phase := .live, uid := some uid, token }
      (d'.enterAll beat.acts) := by
  cases spends
  obtain ⟨phase, unsaid, reads⟩ := fits.knocked going
  have reply := Beat.reply?_answer called (before ▸ going)
  have unheard : replies .polling (log ++ [beat]) = [] := by simp [unsaid.answers, reply]
  refine ⟨⟨uid, token, ?_⟩, .inl ⟨?_, ?_, unheard⟩⟩
  · exact
      { opened := by simp [acted]
        going := by simp [unsaid.going, acted, called]
        greeted := by simp [unsaid.openings, reply, greeted]
        named := rfl
        reached := by rw [unheard]; rfl }
  · rw [acted]
    simpa [Docket.Reads, Docket.enterAll, Docket.enter, Docket.wake] using reads
  · simp [unsaid.asked, acted, Act.pollBody?]

/-- A poll is posted, with the body that is owed. -/
theorem fits_poll {request : Http.Request} {limit : Nat} {more : List Act} {uid first : String}
    (phase : t.phase = .live) (alive : beat.call ≠ .reset)
    (reads : d.Reads 0 0 0 0) (opened : Opened log) (going : ¬Ended log) (named : t.uid = some uid)
    (greeted : (replies .opening (log ++ [beat])).head?.bind firstToken = some (uid, first))
    (reached : (replies .polling (log ++ [beat])).foldlM nextToken first = some t.token)
    (paid : asked log ++ [request.body] = due (log ++ [beat]))
    (news : ∃ frames : List String, more = frames.map fun frame => .emit (.message frame))
    (waits : Waits t (.post .polling request limit :: more) after beat.acts) :
    Fits (log ++ [beat]) after (d.enterAll beat.acts) := by
  obtain ⟨frames, rfl⟩ := news
  have unasked : (frames.map fun frame => Act.emit (.message frame)).filterMap Act.pollBody? = [] := by
    simp [Act.pollBody?]
  rcases waits with ⟨rfl, acted⟩ | ⟨rfl, acted⟩
  · simp only [Fits, phase]
    refine ⟨⟨uid, first, ?_⟩, .inr ⟨?_, ?_⟩⟩
    · exact
        { opened := by simp [opened]
          going := by simp [going, acted, alive]
          greeted := greeted
          named := named
          reached := reached }
    · rw [acted]
      change ((d.post .polling).enterAll _).Reads 0 0 0 1
      rw [Docket.enterAll_messages]
      simpa [Docket.Reads, Docket.post] using reads
    · rw [asked_concat, acted, List.filterMap_cons, unasked]
      exact paid
  · -- Where a poll is given no time it goes out all the same.
    refine fits_ended rfl (.inl (by simp [acted])) (by simp [acted]) (.inr ?_)
    rw [asked_concat, acted, List.filterMap_append, List.filterMap_cons, unasked]
    exact paid

theorem firstBody {openings : List Http.Outcome} {uid token : String}
    (greeted : openings.head?.bind firstToken = some (uid, token)) :
    bodies openings [] = [uid ++ "&" ++ token] := by
  simp only [bodies, greeted, tokens, List.map_cons, List.map_nil]

/-- The first poll. -/
theorem Fits.first {request : Http.Request} {limit : Nat} (fits : Fits log t d)
    (going : t.phase ≠ .ended) (called : beat.call = .wake .polling)
    (body : request.body = t.signed t.token)
    (waits : Waits t [.post .polling request limit] after beat.acts)
    (spends : Docket.Spends d (.wake .polling) d') :
    Fits (log ++ [beat]) after (d'.enterAll beat.acts) := by
  cases spends
  obtain ⟨phase, ⟨uid, token, greeted⟩, reads, none, unheard⟩ := fits.called going
  have mute (job : Job) : beat.reply? job = .none := Beat.reply?_mute (by simp [called]) job
  have here : token = t.token := by
    have reached := greeted.reached
    rw [unheard] at reached
    exact Option.some.inj reached
  have heard : (replies .opening (log ++ [beat])).head?.bind firstToken = some (uid, token) := by
    simpa [mute] using greeted.greeted
  refine fits_poll phase (by simp [called]) reads greeted.opened greeted.going greeted.named heard
    ?_ ?_ ⟨[], rfl⟩ waits
  · simpa [mute] using greeted.reached
  · rw [none, due_concat (mute _) (mute _), due, unheard, firstBody greeted.greeted, body, signed,
      greeted.named, here]
    rfl

/-- A poll was answered, and the next one is posted. -/
theorem Fits.again {outcome : Http.Outcome} {token : String} {request : Http.Request} {limit : Nat}
    {news : List String} (fits : Fits log t d) (going : t.phase ≠ .ended) (before : beat.before = t)
    (called : beat.call = .answer .polling outcome) (next : nextToken t.token outcome = some token)
    (body : request.body = t.signed token)
    (waits : Waits { t with token }
      (.post .polling request limit :: news.map fun frame => .emit (.message frame)) after
      beat.acts)
    (spends : Docket.Spends d (.answer .polling outcome) d') :
    Fits (log ++ [beat]) after (d'.enterAll beat.acts) := by
  cases spends
  obtain ⟨phase, ⟨uid, first, greeted⟩, reads, all⟩ := fits.held going
  have reply := Beat.reply?_answer called (before ▸ going)
  have heard : (replies .opening (log ++ [beat])).head?.bind firstToken = some (uid, first) := by
    simpa [reply] using greeted.greeted
  refine fits_poll (t := { t with token }) phase (by simp [called]) reads greeted.opened
    greeted.going greeted.named heard ?_ ?_ ⟨news, rfl⟩ waits
  · simp [reply, greeted.reached, next]
  · have opening : replies .opening (log ++ [beat]) = replies .opening log := by simp [reply]
    have polling : replies .polling (log ++ [beat]) = replies .polling log ++ [outcome] := by
      simp [reply]
    rw [all, due, due, opening, polling, bodies_concat greeted.greeted greeted.reached, next, body,
      signed, greeted.named]
    rfl

/-- A request ended in a way that ends the transport. -/
theorem Fits.fail {job : Job} {outcome : Http.Outcome} (fits : Fits log t d)
    (going : t.phase ≠ .ended) (before : beat.before = t)
    (called : beat.call = .answer job outcome) (useless : t.Useless outcome job)
    (acted : beat.acts = [.release, .emit .failed])
    (spends : Docket.Spends d (.answer job outcome) d') :
    Fits (log ++ [beat]) { t with phase := .ended } (d'.enterAll beat.acts) := by
  cases spends
  have reply := Beat.reply?_answer called (before ▸ going)
  have same : asked (log ++ [beat]) = asked log := by simp [acted, Act.pollBody?]
  refine fits_ended rfl (.inl (by simp [acted])) (by simp [acted]) ?_
  rw [same]
  cases job with
  | opening => exact .inl (fits.knocked going).2.1.asked
  | polling =>
      obtain ⟨-, ⟨uid, token, greeted⟩, -, all⟩ := fits.held going
      have opening : replies .opening (log ++ [beat]) = replies .opening log := by simp [reply]
      have polling : replies .polling (log ++ [beat]) = replies .polling log ++ [outcome] := by
        simp [reply]
      rw [all, due, due, opening, polling, bodies_concat greeted.greeted greeted.reached,
        show nextToken t.token outcome = none from useless]
      exact .inr (List.append_nil _).symm
  | sending =>
      rw [due_concat (by simp [reply]) (by simp [reply])]
      exact fits.paid

/-- A frame to send is posted, or none is. -/
theorem Fits.feed {queue : List String} {sending : Bool} {posted : List Act} (fits : Fits log t d)
    (going : t.phase ≠ .ended)
    (turn : call = .wake .sending ∨ ∃ outcome, call = .answer .sending outcome)
    (called : beat.call = call)
    (post : posted = [] ∨ ∃ request limit, posted = [.post .sending request limit])
    (waits : Waits { t with queue, sending } posted after beat.acts)
    (spends : Docket.Spends d call d') :
    Fits (log ++ [beat]) after (d'.enterAll beat.acts) := by
  have mute (job : Job) (other : job ≠ .sending) : beat.reply? job = none := by
    rcases turn with rfl | ⟨outcome, rfl⟩ <;> simp [Beat.reply?, called, other.symm]
  have alive : beat.call ≠ .reset := by
    rcases turn with rfl | ⟨outcome, rfl⟩ <;> simp [called]
  have spent {ow o pw p : Nat} (reads : d.Reads ow o pw p) : d'.Reads ow o pw p := by
    rcases turn with rfl | ⟨outcome, rfl⟩ <;> cases spends
    · simpa [Docket.Reads, Docket.wake] using reads
    · simpa [Docket.Reads, Docket.post] using reads
  have unasked : posted.filterMap Act.pollBody? = [] := by
    rcases post with rfl | ⟨request, limit, rfl⟩ <;> rfl
  rcases waits with ⟨rfl, acted⟩ | ⟨rfl, acted⟩
  · have silent : beat.Silent := by
      refine ⟨?_, ?_, by rw [acted, unasked], mute _ (by simp), mute _ (by simp)⟩
      · rcases post with rfl | ⟨request, limit, rfl⟩ <;> simp [acted]
      · rcases post with rfl | ⟨request, limit, rfl⟩ <;> simp [acted, alive]
    refine fits.concat going silent rfl rfl rfl fun {_ _ _ _} reads => ?_
    rw [acted]
    rcases post with rfl | ⟨request, limit, rfl⟩
    · exact spent reads
    · simpa [Docket.Reads, Docket.enterAll, Docket.enter, Docket.post] using spent reads
  · refine fits_ended rfl (.inl (by simp [acted])) (by simp [acted]) ?_
    rw [due_concat (mute _ (by simp)) (mute _ (by simp)), asked_concat, acted, List.filterMap_append, unasked]
    exact (List.append_nil (asked log)).symm ▸ fits.paid

/-- A call that comes too early, too late or once too often. -/
theorem Fits.idle (fits : Fits log t d) (going : t.phase ≠ .ended) (called : beat.call = call)
    (stray : t.Stray call) (acted : beat.acts = []) (spends : Docket.Spends d call d') :
    Fits (log ++ [beat]) t (d'.enterAll beat.acts) := by
  have mute (other : Job) (outcome : Http.Outcome) : beat.call ≠ .answer other outcome := by
    intro same
    rw [← called, same] at stray
    exact stray
  have alive : beat.call ≠ .reset := by
    intro same
    rw [← called, same] at stray
    exact stray
  have silent : beat.Silent := Beat.silent mute alive (by simp [acted])
  refine fits.concat going silent rfl rfl rfl fun {_ _ _ _} reads => ?_
  rw [acted]
  cases spends with
  | start => exact reads
  | send => exact reads
  | reset => exact stray.elim
  | answer => exact stray.elim
  | wake _ job =>
      cases job with
      | opening => exact absurd (fits.stirred going).1 stray
      | polling => exact absurd (fits.called going).1 stray
      | sending => exact stray.elim

/-- **Every call leaves a docket that fits**, if it spends what it waited for. -/
theorem Fits.heed (fits : Fits log beat.before d) (spends : Docket.Spends d beat.call d') :
    Fits (log ++ [beat]) beat.after (d'.enterAll beat.acts) := by
  by_cases ended : beat.before.phase = .ended
  · exact fits.deaf ended spends
  · -- What the call spends shows which phase the transport is in, so each outcome has one case.
    have up : Upshot beat.before beat.call beat.after beat.acts := upshot ended beat.call
    generalize called : beat.call = call at up spends
    generalize result : beat.after = after at up ⊢
    obtain ⟨acts, acted⟩ : ∃ acts, beat.acts = acts := ⟨_, rfl⟩
    rw [acted] at up
    cases up with
    | idle stray => exact fits.idle ended called stray acted spends
    | ask opening waits => exact fits.ask ended called (acted ▸ waits) spends
    | greet greeted => exact fits.greet ended rfl called greeted acted spends
    | poll live body waits => exact fits.first ended called body (acted ▸ waits) spends
    | again next body waits =>
        exact fits.again ended rfl called next body (acted ▸ waits) spends
    | feed turn post waits => exact fits.feed ended turn called post (acted ▸ waits) spends
    | fail useless => exact fits.fail ended rfl called useless acted spends
    | start fresh =>
        cases spends
        have silent : beat.Silent :=
          Beat.silent (by simp [called]) (by simp [called]) (by simp [acted, Act.pollBody?])
        simp only [Fits, fresh] at fits ⊢
        refine ⟨fits.1.concat silent, .inl ?_⟩
        rw [acted]
        simpa [Docket.Reads, Docket.enterAll, Docket.enter, Docket.wake] using fits.2
    | enqueue live =>
        cases spends
        have silent : beat.Silent :=
          Beat.silent (by simp [called]) (by simp [called]) (by simp [acted, Act.pollBody?])
        refine fits.concat ended silent rfl rfl rfl fun {_ _ _ _} reads => ?_
        rw [acted]
        simpa [Docket.Reads, Docket.enterAll, Docket.enter, Docket.wake] using reads
    | reset =>
        cases spends
        have mute (job : Job) : beat.reply? job = none := Beat.reply?_mute (by simp [called]) job
        refine fits_ended rfl (.inr called) (by simp [acted]) ?_
        rw [due_concat (mute _) (mute _), asked_concat, acted]
        exact (List.append_nil (asked log)).symm ▸ fits.paid

end Call

end Tether.LongPoll
