/-
# Tether.Proofs.LongPoll.Mail -- frames are posted one at a time

The mail of a transport are the requests to its send endpoint: `init`, and then the frames that
it took, under its id, one after the other.  A frame is posted when none is under way, that is
once the one before it was accepted, and where none is under way and one waits the sender is to
go on.

    fresh, opening       no frame was taken, and `init` is in flight once it was posted
    live                 what was taken is what was posted and what waits
    ended                what was posted are the first frames of those that were taken

* `Mails.heed` -- every call leaves the mail in order.
* `Mails.kept` -- in each phase the mail is a prefix of what is due, with one request in flight.
* `Mails.posted_all` -- where no job is to go on and none is in flight, every frame was posted.
* `Mails.inTurn` -- each frame is posted after the ones before it were accepted.
-/
import Tether.Proofs.LongPoll.Courses

set_option autoImplicit false

namespace Tether.LongPoll

/-! ## What a log says of the mail -/

def Act.posted? : Act → Option (Job × Http.Request)
  | .post job request _ => some (job, request)
  | _ => none

def posted (log : List Beat) : List (Job × Http.Request) :=
  log.flatMap fun beat => beat.acts.filterMap Act.posted?

def mail? : Job × Http.Request → Option Http.Request
  | (.polling, _) => none
  | (.opening, request) | (.sending, request) => some request

/-- The requests to the send endpoint, oldest first. -/
def mailed (log : List Beat) : List Http.Request := (posted log).filterMap mail?

def Beat.taken? (beat : Beat) : Option String :=
  match beat.call with
  | .send frame =>
      match beat.before.send frame with
      | .ok _ => some frame
      | .error _ => none
  | _ => none

def taken (log : List Beat) : List String := log.filterMap Beat.taken?

/-- The mail that is due once the frames `done` are posted. -/
def mail (t : LongPoll) (done : List String) : List Http.Request :=
  t.letter .opening "init" :: done.map fun frame => t.letter .sending (t.signed frame)

section Concat

variable (log : List Beat) (beat : Beat)

@[simp] theorem posted_concat :
    posted (log ++ [beat]) = posted log ++ beat.acts.filterMap Act.posted? := by
  simp only [posted, List.flatMap_append, List.flatMap_singleton]

@[simp] theorem mailed_concat :
    mailed (log ++ [beat]) = mailed log ++ (beat.acts.filterMap Act.posted?).filterMap mail? := by
  simp only [mailed, posted_concat, List.filterMap_append]

@[simp] theorem taken_concat : taken (log ++ [beat]) = taken log ++ beat.taken?.toList := by
  unfold taken
  rw [List.filterMap_append]
  cases found : beat.taken? <;> simp [found]

end Concat

/-- A request goes out whether or not there is time for it. -/
theorem posted_dispatch {t : LongPoll} (going : t.phase ≠ .ended) (job : Job) (body : String)
    (more : List Act) :
    (t.dispatch job body more).2.filterMap Act.posted? =
      (job, t.letter job body) :: more.filterMap Act.posted? := by
  obtain ⟨tail, last, same⟩ := t.dispatch_snd job body more going
  rw [same]
  rcases last with rfl | rfl <;> simp [Act.posted?]

theorem posted_messages (news : List String) :
    (news.map fun frame => Act.emit (.message frame)).filterMap Act.posted? = [] := by
  simp [Act.posted?]

/-! ## The mail of each phase -/

structure Kept (done : List String) (log : List Beat) (t : LongPoll) (d : Docket) : Prop where
  mailed : mailed log = [] ∧ done = [] ∨ mailed log = t.mail done
  taken : done <+: taken log
  single : d.flights .opening + d.flights .sending ≤ 1

structure Unsent (log : List Beat) (t : LongPoll) (d : Docket) : Prop where
  mailed : mailed log = if d.flights .opening = 0 then [] else t.mail []
  single : d.flights .opening ≤ 1
  taken : taken log = []
  queue : t.queue = []
  free : t.sending = false
  flights : d.flights .sending = 0
  heard : replies .sending log = []

/-- The frames `done` were posted, and the others wait. -/
structure Sends (done : List String) (log : List Beat) (t : LongPoll) (d : Docket) : Prop where
  mailed : mailed log = t.mail done
  opened : d.flights .opening = 0
  taken : taken log = done ++ t.queue
  flights : d.flights .sending = if t.sending then 1 else 0
  heard : (replies .sending log).length + d.flights .sending = done.length
  accepted : ∀ outcome ∈ replies .sending log, Accepted outcome
  /-- A frame that waits is posted once the one under way was, or the sender is to go on. -/
  fed : t.queue ≠ [] → t.sending = false → 0 < d.wakes .sending

/-- The mail that a transport with this log can have. -/
def Mails (log : List Beat) (t : LongPoll) (d : Docket) : Prop :=
  match t.phase with
  | .fresh | .opening => Unsent log t d
  | .live => ∃ done, Sends done log t d
  | .ended => (∃ done, Kept done log t d) ∧ (d.released = true ∨ ∀ job, d.flights job = 0)

theorem mails_new (options : Options) : Mails [] { options } {} where
  mailed := rfl
  single := Nat.zero_le 1
  taken := rfl
  queue := rfl
  free := rfl
  flights := rfl
  heard := rfl

section Phases

variable {log : List Beat} {t : LongPoll} {d : Docket} {done : List String}

theorem Mails.unsent (mails : Mails log t d) (early : t.phase = .fresh ∨ t.phase = .opening) :
    Unsent log t d := by
  rcases early with phase | phase <;> simpa only [Mails, phase] using mails

theorem Mails.sends (mails : Mails log t d) (live : t.phase = .live) :
    ∃ done, Sends done log t d := by
  simpa only [Mails, live] using mails

theorem Unsent.mails (unsent : Unsent log t d) (early : t.phase = .fresh ∨ t.phase = .opening) :
    Mails log t d := by
  rcases early with phase | phase <;> simpa only [Mails, phase] using unsent

theorem Sends.mails (sends : Sends done log t d) (live : t.phase = .live) : Mails log t d := by
  simp only [Mails, live]
  exact ⟨done, sends⟩

/-- The mail is a prefix of what is due, with at most one request in flight. -/
theorem Mails.kept (mails : Mails log t d) : ∃ done, Kept done log t d := by
  cases phase : t.phase with
  | ended =>
      simp only [Mails, phase] at mails
      exact mails.1
  | fresh | opening =>
      have unsent := mails.unsent (by simp [phase])
      refine ⟨[], ?_, List.nil_prefix, ?_⟩
      · rw [unsent.mailed]
        split
        · exact .inl ⟨rfl, rfl⟩
        · exact .inr rfl
      · rw [unsent.flights]
        exact unsent.single
  | live =>
      obtain ⟨done, sends⟩ := mails.sends phase
      refine ⟨done, .inr sends.mailed, ?_, ?_⟩
      · rw [sends.taken]
        exact List.prefix_append ..
      · rw [sends.opened, sends.flights]
        split <;> simp

/-- Where no job is to go on and no frame is in flight, every frame that was taken was posted. -/
theorem Mails.posted_all (mails : Mails log t d) (going : t.phase ≠ .ended)
    (idle : d.wakes .sending = 0) (empty : d.flights .sending = 0) :
    t.phase = .live ∧ mailed log = t.mail (taken log) ∨ t.phase ≠ .live ∧ taken log = [] := by
  cases phase : t.phase with
  | ended => exact absurd phase going
  | fresh | opening => exact .inr ⟨by simp, (mails.unsent (by simp [phase])).taken⟩
  | live =>
      obtain ⟨done, sends⟩ := mails.sends phase
      have free : t.sending = false := by
        cases busy : t.sending with
        | false => rfl
        | true =>
            have one := sends.flights
            simp [busy, empty] at one
      have all : t.queue = [] := by
        cases queue : t.queue with
        | nil => rfl
        | cons frame later =>
            have woken := sends.fed (by simp [queue]) free
            omega
      refine .inl ⟨rfl, ?_⟩
      rw [sends.taken, all, List.append_nil]
      exact sends.mailed

end Phases

/-! ## One call -/

section Call

variable {log late : List Beat} {beat : Beat} {t after : LongPoll} {d d' : Docket} {call : Call}
  {done : List String}

/-- A transport that ends has its requests given up. -/
theorem Kept.ends (kept : Kept done log t d) (ended : after.phase = .ended)
    (same : after.mail = t.mail) (letters : LongPoll.mailed late = LongPoll.mailed log)
    (frames : LongPoll.taken log <+: LongPoll.taken late)
    (fewer : ∀ job, d'.flights job ≤ d.flights job)
    (past : d'.released = true ∨ ∀ job, d'.flights job = 0) : Mails late after d' := by
  simp only [Mails, ended]
  refine ⟨⟨done, ?_, kept.taken.trans frames, ?_⟩, past⟩
  · rw [letters, same]
    exact kept.mailed
  · have opening := fewer .opening
    have sending := fewer .sending
    have single := kept.single
    omega

/-- A request that is posted too late ends the transport, and else leaves the mail as one that is
posted in time. -/
theorem Mails.dispatched {job : Job} {body : String} {more : List Act} (going : t.phase ≠ .ended)
    (mails : Mails log t
      (d.enterAll (.post job (t.letter job body) (t.options.limit job) :: more))) :
    Mails log (t.dispatch job body more).1 (d.enterAll (t.dispatch job body more).2) := by
  rcases t.dispatch_cases job body more going with ⟨same, -⟩ | ⟨same, -⟩
  · rw [same]
    exact mails
  · rw [same]
    obtain ⟨done, kept⟩ := mails.kept
    dsimp only
    rw [Docket.enterAll_append]
    exact kept.ends rfl rfl rfl (List.prefix_refl _) (fun _ => Nat.le_refl _) (.inl rfl)

/-- A call about something else leaves the mail as it is. -/
theorem Mails.aside (mails : Mails log t d) (phase : after.phase = t.phase)
    (mail : after.mail = t.mail) (queue : after.queue = t.queue) (sending : after.sending = t.sending)
    (going : t.phase ≠ .ended) (letters : mailed late = mailed log) (frames : taken late = taken log)
    (heard : replies .sending late = replies .sending log)
    (openings : d'.flights .opening = d.flights .opening)
    (flights : d'.flights .sending = d.flights .sending)
    (fed : t.phase = .live → t.queue ≠ [] → t.sending = false →
      0 < d.wakes .sending → 0 < d'.wakes .sending) : Mails late after d' := by
  cases now : t.phase with
  | ended => exact absurd now going
  | fresh | opening =>
      have unsent := mails.unsent (by simp [now])
      refine Unsent.mails ?_ (by simp [phase, now])
      exact
        { mailed := by rw [letters, openings, mail]; exact unsent.mailed
          single := openings ▸ unsent.single
          taken := frames.trans unsent.taken
          queue := queue.trans unsent.queue
          free := sending.trans unsent.free
          flights := flights.trans unsent.flights
          heard := heard.trans unsent.heard }
  | live =>
      obtain ⟨done, sends⟩ := mails.sends now
      suffices sends : Sends done _ _ _ from sends.mails (phase.trans now)
      exact
        { mailed := by rw [letters, mail]; exact sends.mailed
          opened := openings.trans sends.opened
          taken := by rw [frames, queue]; exact sends.taken
          flights := by rw [flights, sending]; exact sends.flights
          heard := by rw [heard, flights]; exact sends.heard
          accepted := by rw [heard]; exact sends.accepted
          fed := by
            rw [queue, sending]
            exact fun waits free => fed now waits free (sends.fed waits free) }

/-! ### Calls that end the transport -/

theorem Docket.Spends.fewer (spends : Docket.Spends d call d') (job : Job) :
    d'.flights job ≤ d.flights job := by
  cases spends <;> simp [Docket.wake, Docket.post]

theorem Docket.Spends.released (spends : Docket.Spends d call d') : d'.released = d.released := by
  cases spends <;> rfl

/-- Only what is posted is in flight. -/
theorem Docket.flights_enterAll (d : Docket) {acts : List Act}
    (quiet : acts.filterMap Act.posted? = []) : (d.enterAll acts).flights = d.flights := by
  induction acts generalizing d with
  | nil => rfl
  | cons act acts ih =>
      rw [List.filterMap_eq_nil_iff, List.forall_mem_cons, ← List.filterMap_eq_nil_iff] at quiet
      change ((d.enter act).enterAll acts).flights = d.flights
      rw [ih _ quiet.2]
      cases act with
      | post => cases quiet.1
      | wake | emit | detach | release => rfl

theorem Beat.taken?_mute (mute : ∀ frame, beat.call ≠ .send frame) : beat.taken? = none := by
  unfold Beat.taken?
  split
  · rename_i called
    exact absurd called (mute _)
  · rfl

/-- A call that gives the requests up and posts none. -/
theorem Mails.ends (mails : Mails log t d) (spends : Docket.Spends d call d')
    (ended : after.phase = .ended) (same : after.mail = t.mail)
    (quiet : beat.acts.filterMap Act.posted? = []) (release : .release ∈ beat.acts) :
    Mails (log ++ [beat]) after (d'.enterAll beat.acts) := by
  obtain ⟨done, kept⟩ := mails.kept
  refine kept.ends ended same (by simp [quiet]) ?_ ?_ (.inl (d'.enterAll_release release))
  · rw [taken_concat]
    exact List.prefix_append ..
  · rw [d'.flights_enterAll quiet]
    exact spends.fewer

/-- What waits for a transport that has ended can lapse. -/
theorem Mails.lapse (mails : Mails log t d) (ended : t.phase = .ended)
    (spends : Docket.Spends d call d') : Mails log t d' := by
  simp only [Mails, ended] at mails
  obtain ⟨⟨done, kept⟩, past⟩ := mails
  refine kept.ends ended rfl rfl (List.prefix_refl _) spends.fewer ?_
  rw [spends.released]
  refine past.imp_right fun (empty : ∀ job, d.flights job = 0) job => ?_
  exact Nat.le_zero.1 (empty job ▸ spends.fewer job)

/-- A transport that has ended posts nothing. -/
theorem Mails.deaf (mails : Mails log beat.before d) (ended : beat.before.phase = .ended)
    (spends : Docket.Spends d beat.call d') :
    Mails (log ++ [beat]) beat.after (d'.enterAll beat.acts) := by
  have step := heed_over ended beat.call
  have same : beat.after = beat.before := congrArg Prod.fst step
  have acted : beat.acts = if beat.call = .reset then [.detach, .release] else [] :=
    congrArg Prod.snd step
  rw [same]
  by_cases reset : beat.call = .reset
  · rw [if_pos reset] at acted
    exact mails.ends spends ended rfl (by simp [acted, Act.posted?]) (by simp [acted])
  · rw [if_neg reset] at acted
    have calm : d'.enterAll beat.acts = d' := by rw [acted]; rfl
    have rest := mails.lapse ended spends
    simp only [Mails, ended] at rest
    obtain ⟨⟨done, kept⟩, past⟩ := rest
    rw [calm]
    refine kept.ends ended rfl (by simp [acted]) ?_ (fun _ => Nat.le_refl _) past
    rw [taken_concat]
    exact List.prefix_append ..

theorem Mails.clear (mails : Mails log t d) (ended : t.phase = .ended) (again : Bool) :
    Mails log t (d.clear again) := by
  obtain ⟨done, kept⟩ := mails.kept
  exact kept.ends ended rfl rfl (List.prefix_refl _) (fun _ => Nat.zero_le _) (.inr fun _ => rfl)

/-! ### Calls that go on -/

theorem Mails.start (mails : Mails log t d) (fresh : t.phase = .fresh) (called : beat.call = .start)
    (acted : beat.acts = [.wake .opening]) :
    Mails (log ++ [beat]) { t with phase := .opening } (d.enterAll beat.acts) := by
  have unsent := mails.unsent (.inl fresh)
  have quiet : beat.acts.filterMap Act.posted? = [] := by simp [acted, Act.posted?]
  have flights := d.flights_enterAll quiet
  have untaken : beat.taken? = none := Beat.taken?_mute (by simp [called])
  have mute : beat.reply? .sending = .none := Beat.reply?_mute (by simp [called]) .sending
  refine Unsent.mails ?_ (.inr rfl)
  exact
    { mailed := by
        rw [mailed_concat, quiet, flights, List.filterMap_nil, List.append_nil]
        exact unsent.mailed
      single := flights ▸ unsent.single
      taken := by simp [unsent.taken, untaken]
      queue := unsent.queue
      free := unsent.free
      flights := flights ▸ unsent.flights
      heard := by simp [unsent.heard, mute] }

/-- The opening request is posted. -/
theorem Mails.ask (mails : Mails log t (d.wake .opening)) (fits : Fits log t (d.wake .opening))
    (opening : t.phase = .opening) (called : beat.call = .wake .opening)
    (acted : beat.acts = (t.dispatch .opening "init" []).2) :
    Mails (log ++ [beat]) (t.dispatch .opening "init" []).1 (d.enterAll beat.acts) := by
  have going : t.phase ≠ .ended := by simp [opening]
  have unsent := mails.unsent (.inr opening)
  obtain ⟨-, -, -, none, -⟩ := fits.stirred going
  have untaken : beat.taken? = .none := Beat.taken?_mute (by simp [called])
  have mute : beat.reply? .sending = .none := Beat.reply?_mute (by simp [called]) .sending
  have before : mailed log = [] := by
    rw [unsent.mailed]
    exact if_pos none
  rw [acted]
  refine Mails.dispatched going (Unsent.mails ?_ (.inr opening))
  exact
    { mailed := by
        rw [mailed_concat, acted, posted_dispatch going, before]
        simp [Docket.enterAll, Docket.enter, Docket.post, mail, mail?]
      single := by simp [Docket.enterAll, Docket.enter, Docket.post, none]
      taken := by simp [unsent.taken, untaken]
      queue := unsent.queue
      free := unsent.free
      flights := unsent.flights
      heard := by simp [unsent.heard, mute] }

/-- The opening request brought an id: no frame was taken before. -/
theorem Mails.greet {outcome : Http.Outcome} {uid token : String}
    (mails : Mails log t (d.post .opening)) (fits : Fits log t (d.post .opening))
    (going : t.phase ≠ .ended) (called : beat.call = .answer .opening outcome)
    (acted : beat.acts = [.emit .opened, .wake .polling]) :
    Mails (log ++ [beat]) { t with phase := .live, uid := some uid, token }
      (d.enterAll beat.acts) := by
  obtain ⟨opening, -, -, none, -⟩ := fits.knocked going
  have unsent := mails.unsent (.inr opening)
  have quiet : beat.acts.filterMap Act.posted? = [] := by simp [acted, Act.posted?]
  have flights := d.flights_enterAll quiet
  have untaken : beat.taken? = .none := Beat.taken?_mute (by simp [called])
  have mute : beat.reply? .sending = .none := by simp [Beat.reply?, called]
  have empty : d.flights .sending = 0 := by simpa [Docket.post] using unsent.flights
  suffices sends : Sends [] _ _ _ from sends.mails rfl
  exact
    { mailed := by
        rw [mailed_concat, quiet, List.filterMap_nil, List.append_nil, unsent.mailed]
        simp [Docket.post, mail, letter, Options.url]
      opened := flights ▸ none
      taken := by simp [unsent.taken, unsent.queue, untaken]
      flights := by rw [flights, empty, unsent.free]; rfl
      heard := by rw [flights, empty]; simp [unsent.heard, mute]
      accepted := by simp [unsent.heard, mute]
      fed := fun waits => absurd unsent.queue waits }

/-- A poll is posted: this is no mail. -/
theorem Mails.poll (after : LongPoll) {body : String} {more : List Act} (mails : Mails log t d)
    (going : t.phase ≠ .ended) (phase : after.phase = t.phase) (mail : after.mail = t.mail)
    (queue : after.queue = t.queue) (sending : after.sending = t.sending)
    (quiet : more.filterMap Act.posted? = []) (still : ∀ d : Docket, d.enterAll more = d)
    (untaken : beat.taken? = none) (mute : beat.reply? .sending = none)
    (acted : beat.acts = (after.dispatch .polling body more).2)
    (openings : d'.flights .opening = d.flights .opening)
    (flights : d'.flights .sending = d.flights .sending)
    (wakes : d'.wakes .sending = d.wakes .sending) :
    Mails (log ++ [beat]) (after.dispatch .polling body more).1 (d'.enterAll beat.acts) := by
  have stays : after.phase ≠ .ended := phase ▸ going
  have letters : mailed (log ++ [beat]) = mailed log := by
    rw [mailed_concat, acted, posted_dispatch stays, quiet]
    simp [mail?]
  rw [acted]
  refine Mails.dispatched stays ?_
  have entered : d'.enterAll
      (.post .polling (after.letter .polling body) (after.options.limit .polling) :: more) =
        d'.post .polling := still _
  rw [entered]
  refine mails.aside phase mail queue sending going letters (by simp [untaken]) (by simp [mute])
    ?_ ?_ fun _ _ _ woken => ?_
  · simpa [Docket.post] using openings
  · simpa [Docket.post] using flights
  · simpa [Docket.post, wakes] using woken

/-- A frame is taken. -/
theorem Mails.enqueue {frame : String} (mails : Mails log beat.before d)
    (live : beat.before.phase = .live) (called : beat.call = .send frame)
    (acted : beat.acts = [.wake .sending]) :
    Mails (log ++ [beat]) { beat.before with queue := beat.before.queue ++ [frame] }
      (d.enterAll beat.acts) := by
  obtain ⟨done, sends⟩ := mails.sends live
  have quiet : beat.acts.filterMap Act.posted? = [] := by simp [acted, Act.posted?]
  have flights := d.flights_enterAll quiet
  have takes : beat.taken? = some frame := by simp [Beat.taken?, called, LongPoll.send, live]
  have mute : beat.reply? .sending = .none := Beat.reply?_mute (by simp [called]) .sending
  suffices sends : Sends done _ _ _ from sends.mails live
  exact
    { mailed := by
        rw [mailed_concat, quiet, List.filterMap_nil, List.append_nil]
        exact sends.mailed
      opened := flights ▸ sends.opened
      taken := by simp [takes, sends.taken]
      flights := by rw [flights]; exact sends.flights
      heard := by rw [flights]; simpa [mute] using sends.heard
      accepted := by simpa [mute] using sends.accepted
      fed := fun _ _ => by simp [acted, Docket.enterAll, Docket.enter, Docket.wake] }

/-- The sender is free: it goes on while no frame is under way, or the frame under way was
accepted. -/
def Frees (beat : Beat) : Prop :=
  beat.call = .wake .sending ∧ beat.before.sending = false ∨
    ∃ outcome, Accepted outcome ∧ beat.call = .answer .sending outcome

/-- When the sender is free, all that it posted was accepted. -/
theorem Sends.free (sends : Sends done log beat.before d) (going : beat.before.phase ≠ .ended)
    (frees : Frees beat) (spends : Docket.Spends d beat.call d') :
    d'.flights .opening = 0 ∧ d'.flights .sending = 0 ∧
      (replies .sending (log ++ [beat])).length = done.length ∧
      ∀ outcome ∈ replies .sending (log ++ [beat]), Accepted outcome := by
  have heard := sends.heard
  have flights := sends.flights
  have opened := sends.opened
  rcases frees with ⟨called, free⟩ | ⟨outcome, accepted, called⟩
  · have mute : beat.reply? .sending = .none := Beat.reply?_mute (by simp [called]) .sending
    rw [called] at spends
    cases spends
    rw [free] at flights
    simp only [Docket.wake, Bool.false_eq_true, if_false] at flights heard opened
    refine ⟨opened, flights, ?_, ?_⟩
    · simp only [replies_concat, mute, Option.toList_none, List.append_nil]
      omega
    · simpa [mute] using sends.accepted
  · have reply := Beat.reply?_answer called going .sending
    rw [if_pos rfl] at reply
    rw [called] at spends
    cases spends
    simp only [Docket.post, if_true, reduceCtorEq, if_false, Nat.add_zero] at flights heard opened
    have none : d'.flights .sending = 0 := by
      split at flights <;> omega
    refine ⟨opened, none, ?_, ?_⟩
    · simp only [replies_concat, reply, Option.toList_some, List.length_append,
        List.length_singleton]
      omega
    · simp only [replies_concat, reply, Option.toList_some, List.mem_append, List.mem_singleton]
      rintro other (before | rfl)
      · exact sends.accepted other before
      · exact accepted

theorem Frees.untaken (frees : Frees beat) : beat.taken? = none := by
  refine Beat.taken?_mute ?_
  rcases frees with ⟨called, -⟩ | ⟨outcome, -, called⟩ <;> simp [called]

/-- The next frame is posted. -/
theorem Mails.post {frame : String} {later : List String} (mails : Mails log beat.before d)
    (frees : Frees beat) (live : beat.before.phase = .live)
    (next : beat.before.queue = frame :: later) (spends : Docket.Spends d beat.call d')
    (same : t = { beat.before with queue := later, sending := true })
    (acted : beat.acts = (t.dispatch .sending (beat.before.signed frame) []).2) :
    Mails (log ++ [beat]) (t.dispatch .sending (beat.before.signed frame) []).1
      (d'.enterAll beat.acts) := by
  have phase : t.phase = .live := by rw [same]; exact live
  have letters : t.mail = beat.before.mail := by rw [same]; rfl
  have letter : t.letter .sending (beat.before.signed frame) =
      beat.before.letter .sending (beat.before.signed frame) := by rw [same]; rfl
  have queue : t.queue = later := by rw [same]
  have busy : t.sending = true := by rw [same]
  have going : t.phase ≠ .ended := by simp [phase]
  obtain ⟨done, sends⟩ := mails.sends live
  obtain ⟨opened, free, heard, accepted⟩ := sends.free (by simp [live]) frees spends
  rw [acted]
  refine Mails.dispatched going ?_
  suffices sends : Sends (done ++ [frame]) _ _ _ from sends.mails phase
  exact
    { mailed := by
        rw [mailed_concat, acted, posted_dispatch going, sends.mailed, letters, letter]
        simp [mail, mail?]
      opened := opened
      taken := by simp [frees.untaken, sends.taken, next, queue]
      flights := by simp [Docket.enterAll, Docket.enter, Docket.post, free, busy]
      heard := by
        rw [heard]
        simp [Docket.enterAll, Docket.enter, Docket.post, free]
      accepted := accepted
      fed := by simp [busy] }

/-- A frame was accepted, and none is left. -/
theorem Mails.rest (mails : Mails log beat.before d) (frees : Frees beat)
    (live : beat.before.phase = .live) (none : beat.before.queue = [])
    (spends : Docket.Spends d beat.call d') (acted : beat.acts = []) :
    Mails (log ++ [beat]) { beat.before with sending := false } (d'.enterAll beat.acts) := by
  obtain ⟨done, sends⟩ := mails.sends live
  obtain ⟨opened, free, heard, accepted⟩ := sends.free (by simp [live]) frees spends
  have calm : d'.enterAll beat.acts = d' := by rw [acted]; rfl
  have letters : mailed (log ++ [beat]) = mailed log := by simp [acted]
  rw [calm]
  suffices sends : Sends done _ _ _ from sends.mails live
  exact
    { mailed := letters.trans sends.mailed
      opened := opened
      taken := by simpa [frees.untaken] using sends.taken
      flights := free
      heard := by rw [heard, free, Nat.add_zero]
      accepted := accepted
      fed := fun waits => absurd none waits }

/-- A call that comes too early, too late or once too often. -/
theorem Mails.idle (mails : Mails log beat.before d) (going : beat.before.phase ≠ .ended)
    (stray : beat.before.Stray beat.call) (acted : beat.acts = [])
    (spends : Docket.Spends d beat.call d') :
    Mails (log ++ [beat]) beat.before (d'.enterAll beat.acts) := by
  have calm : d'.enterAll beat.acts = d' := by rw [acted]; rfl
  have untaken : beat.taken? = none := by
    unfold Beat.taken?
    split
    · rename_i frame called
      rw [called] at stray
      cases phase : beat.before.phase <;> simp_all [Stray, LongPoll.send]
    · rfl
  have mute : beat.reply? .sending = none := Beat.reply?_mute stray.unanswered .sending
  rw [calm]
  generalize beat.call = call at stray spends
  refine mails.aside rfl rfl rfl rfl going (by simp [acted]) (by simp [untaken]) (by simp [mute])
    ?_ ?_ ?_
  · cases spends <;> first | rfl | exact stray.elim
  · cases spends <;> first | rfl | exact stray.elim
  · intro _ _ _ woken
    cases spends with
    | start | send | reset => exact woken
    | answer => exact stray.elim
    | wake _ job =>
        cases job with
        | sending => exact stray.elim
        | opening | polling => simpa [Docket.wake] using woken

/-- The sender goes on although it is not its turn. -/
theorem Mails.hold (mails : Mails log t (d.wake .sending)) (going : t.phase ≠ .ended)
    (called : beat.call = .wake .sending)
    (busy : t.phase ≠ .live ∨ t.sending = true ∨ t.queue = []) (acted : beat.acts = []) :
    Mails (log ++ [beat]) t (d.enterAll beat.acts) := by
  have calm : d.enterAll beat.acts = d := by rw [acted]; rfl
  have untaken : beat.taken? = none := Beat.taken?_mute (by simp [called])
  have mute : beat.reply? .sending = .none := Beat.reply?_mute (by simp [called]) .sending
  rw [calm]
  refine mails.aside rfl rfl rfl rfl going (by simp [acted]) (by simp [untaken]) (by simp [mute])
    rfl rfl fun live waits free _ => ?_
  rcases busy with other | taken | none
  · exact absurd live other
  · rw [taken] at free
    cases free
  · exact absurd none waits

/-- A frame is only in flight while the transport is open. -/
theorem Mails.live (mails : Mails log t (d.post .sending)) (going : t.phase ≠ .ended) :
    t.phase = .live := by
  cases phase : t.phase with
  | live => rfl
  | ended => exact absurd phase going
  | fresh | opening =>
      have none := (mails.unsent (by simp [phase])).flights
      simp [Docket.post] at none

/-- **Every call leaves the mail in order**, if it spends what it waited for. -/
theorem Mails.heed (mails : Mails log beat.before d) (fits : Fits log beat.before d)
    (spends : Docket.Spends d beat.call d') :
    Mails (log ++ [beat]) beat.after (d'.enterAll beat.acts) := by
  by_cases ended : beat.before.phase = .ended
  · exact mails.deaf ended spends
  · have step := course ended beat.call
    have acted : beat.acts = (beat.before.heed beat.call).2 := rfl
    have became : beat.after = (beat.before.heed beat.call).1 := rfl
    rw [became]
    generalize beat.before.heed beat.call = result at step acted ⊢
    generalize called : beat.call = call at step
    cases step with
    | idle stray => exact mails.idle ended (called ▸ stray) acted spends
    | start fresh =>
        rw [called] at spends
        cases spends
        exact mails.start fresh called acted
    | ask opening =>
        rw [called] at spends
        cases spends
        exact mails.ask fits opening called acted
    | greet greeted =>
        rw [called] at spends
        cases spends
        exact mails.greet fits ended called acted
    | poll live =>
        rw [called] at spends
        cases spends
        refine mails.poll _ ended rfl rfl rfl rfl rfl (fun _ => rfl) ?_ ?_ acted rfl rfl rfl
        · exact Beat.taken?_mute (by simp [called])
        · exact Beat.reply?_mute (by simp [called]) .sending
    | @again _ token next =>
        rw [called] at spends
        cases spends
        refine mails.poll { beat.before with token } ended rfl rfl rfl rfl
          (posted_messages _) (fun d => d.enterAll_messages _) ?_ ?_ acted rfl rfl rfl
        · exact Beat.taken?_mute (by simp [called])
        · simp [Beat.reply?, called]
    | enqueue live =>
        rw [called] at spends
        cases spends
        exact mails.enqueue live called acted
    | hold busy =>
        rw [called] at spends
        cases spends
        exact mails.hold ended called busy acted
    | rest accepted none =>
        have live : beat.before.phase = .live := by
          rw [called] at spends
          cases spends
          exact mails.live ended
        have empty := none.resolve_left fun other => other live
        exact mails.rest (.inr ⟨_, accepted, called⟩) live empty spends acted
    | mail turn live next =>
        have frees : Frees beat := by
          unfold Frees
          rwa [called]
        exact mails.post frees live next spends rfl acted
    | fail fatal => exact mails.ends spends rfl rfl (by simp [acted, Act.posted?]) (by simp [acted])
    | reset => exact mails.ends spends rfl rfl (by simp [acted, Act.posted?]) (by simp [acted])

/-! ## The order of the mail -/

/-- A frame is posted after the ones before it were accepted: as many as were posted by then,
`init` aside. -/
def InTurn (early : List Beat) (beat : Beat) : Prop :=
  (∃ request, (.sending, request) ∈ posted [beat]) →
    (replies .sending (early ++ [beat])).length + 1 = (mailed early).length ∧
      ∀ outcome ∈ replies .sending (early ++ [beat]), Accepted outcome

/-- A frame is posted by a sender that is free. -/
theorem frees_of_posted {request : Http.Request} (sent : (.sending, request) ∈ posted [beat]) :
    beat.before.phase = .live ∧ Frees beat := by
  simp only [posted, List.flatMap_singleton] at sent
  by_cases ended : beat.before.phase = .ended
  · have acted : beat.acts = if beat.call = .reset then [.detach, .release] else [] :=
      congrArg Prod.snd (heed_over ended beat.call)
    rw [acted] at sent
    split at sent <;> simp [Act.posted?] at sent
  · have step := course ended beat.call
    have acted : beat.acts = (beat.before.heed beat.call).2 := rfl
    rw [acted] at sent
    unfold Frees
    generalize beat.before.heed beat.call = result at step sent
    generalize beat.call = call at step ⊢
    cases step with
    | mail turn live next => exact ⟨live, turn⟩
    | ask | poll =>
        rw [posted_dispatch ended] at sent
        simp at sent
    | @again outcome token next =>
        rw [posted_dispatch (t := { beat.before with token }) ended, posted_messages] at sent
        simp at sent
    | idle | start | greet | enqueue | hold | rest | fail | reset => simp [Act.posted?] at sent

theorem Mails.inTurn (mails : Mails log beat.before d) (spends : Docket.Spends d beat.call d') :
    InTurn log beat := by
  rintro ⟨request, sent⟩
  obtain ⟨live, frees⟩ := frees_of_posted sent
  obtain ⟨done, sends⟩ := mails.sends live
  obtain ⟨-, -, heard, accepted⟩ := sends.free (by simp [live]) frees spends
  refine ⟨?_, accepted⟩
  rw [heard, sends.mailed]
  simp [mail]

/-! ## The name of the sender -/

/-- The id that the opening request brought, if it brought one. -/
def assigned (log : List Beat) : Option String :=
  ((replies .opening log).head?.bind firstToken).map Prod.fst

theorem dispatch_fst (t : LongPoll) (job : Job) (body : String) (more : List Act) :
    (t.dispatch job body more).1.options = t.options ∧ (t.dispatch job body more).1.uid = t.uid := by
  unfold dispatch issue
  split
  · unfold LongPoll.fail
    by_cases ended : t.phase = .ended <;> simp [ended]
  · exact ⟨rfl, rfl⟩

/-- No call changes the options of a transport, and none but the answer to the opening request
its id. -/
theorem heed_fst (t : LongPoll) (call : Call) :
    (t.heed call).1.options = t.options ∧
      ((∀ outcome, call ≠ .answer .opening outcome) → (t.heed call).1.uid = t.uid) := by
  by_cases ended : t.phase = .ended
  · rw [heed_over ended]
    exact ⟨rfl, fun _ => rfl⟩
  · have step := course ended call
    generalize t.heed call = result at step ⊢
    cases step with
    | ask | poll | again | mail =>
        exact ⟨(dispatch_fst ..).1, fun _ => (dispatch_fst ..).2⟩
    | greet => exact ⟨rfl, fun other => absurd rfl (other _)⟩
    | idle | start | enqueue | hold | rest | fail | reset => exact ⟨rfl, fun _ => rfl⟩

def Named (log : List Beat) (t : LongPoll) : Prop := t.uid = assigned log

theorem Named.heed (named : Named log beat.before) (fits : Fits log beat.before d)
    (spends : Docket.Spends d beat.call d') : Named (log ++ [beat]) beat.after := by
  unfold Named assigned at *
  by_cases opening : beat.before.phase ≠ .ended ∧ ∃ outcome, beat.call = .answer .opening outcome
  · obtain ⟨going, outcome, called⟩ := opening
    have reply := Beat.reply?_answer called going .opening
    have became : beat.after = (beat.before.answer .opening outcome).1 := by
      unfold Beat.after
      rw [called]
      rfl
    rw [called] at spends
    cases spends
    obtain ⟨-, unsaid, -⟩ := fits.knocked going
    rw [unsaid.openings] at named
    rw [became, answer_opening going, replies_concat, unsaid.openings, reply]
    cases greeted : firstToken outcome <;> simp [greeted, named]
  · have mute : beat.reply? .opening = none := by
      unfold Beat.reply?
      split
      · rename_i job outcome called
        refine if_neg fun both => opening ⟨both.2, outcome, ?_⟩
        rw [called, both.1]
      · rfl
    have same : beat.after.uid = beat.before.uid := by
      by_cases ended : beat.before.phase = .ended
      · unfold Beat.after
        rw [heed_over ended]
      · exact (heed_fst _ _).2 fun outcome called => opening ⟨ended, outcome, called⟩
    rw [same, replies_concat, mute, Option.toList_none, List.append_nil]
    exact named

end Call

end Tether.LongPoll
