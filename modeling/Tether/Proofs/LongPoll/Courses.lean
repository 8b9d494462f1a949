/-
# Tether.Proofs.LongPoll.Courses -- what a call does, to the letter

`Upshot` says what a call can do as far as the polls go.  Here each case names the transport
after the call and the acts in full: which request goes out, to which endpoint and with which
time, which frame is handed on, and which outcome ends the transport.

A request ends the transport if it errs, runs out of time, is answered outside 2xx, or lacks
the delimiter where one is needed (`Fatal`): in the answer to the opening request, and in the
answer to a poll unless that has status 204 or no body.

* `course` -- all that a call does to a transport that has not ended.
* `heed_over` -- one that has ended stays as it is.
* `failed_iff` -- a transport fails at a fatal outcome, and at a request that is given no time.
-/
import Tether.Proofs.LongPoll.Docket

set_option autoImplicit false

namespace Tether.LongPoll

/-! ## Logs -/

/-- `P` holds of each beat of a log and those before it. -/
def Throughout (P : List Beat → Beat → Prop) (log : List Beat) : Prop :=
  ∀ early beat, early ++ [beat] <+: log → P early beat

theorem throughout_nil {P : List Beat → Beat → Prop} : Throughout P [] := by
  intro early beat here
  simp at here

theorem Throughout.concat {P : List Beat → Beat → Prop} {log : List Beat} {beat : Beat}
    (before : Throughout P log) (now : P log beat) : Throughout P (log ++ [beat]) := by
  intro early last here
  rcases List.prefix_concat_iff.1 here with same | inside
  · obtain ⟨rfl, rfl⟩ := List.append_singleton_inj.1 same
    exact now
  · exact before early last inside

/-! ## Endpoints and times -/

def Options.url (options : Options) : Job → String
  | .polling => options.pollUrl
  | .opening | .sending => options.sendUrl

def Options.limit (options : Options) : Job → Nat
  | .polling => options.pollTimeout
  | .opening | .sending => options.sendTimeout

def letter (t : LongPoll) (job : Job) (body : String) : Http.Request where
  url := t.options.url job
  headers := Http.plainText
  body := body

/-- Post the request of a job, and do `more`. -/
def dispatch (t : LongPoll) (job : Job) (body : String) (more : List Act) : LongPoll × List Act :=
  t.issue job (t.options.url job) body (t.options.limit job) more

section Dispatch

variable {t : LongPoll} (job : Job) (body : String) (more : List Act)

theorem dispatch_in_time (time : t.options.limit job ≠ 0) :
    t.dispatch job body more = (t, .post job (t.letter job body) (t.options.limit job) :: more) :=
  if_neg time

theorem dispatch_too_late (going : t.phase ≠ .ended) (time : t.options.limit job = 0) :
    t.dispatch job body more =
      ({ t with phase := .ended },
        .post job (t.letter job body) (t.options.limit job) :: more ++ [.release, .emit .failed]) := by
  unfold dispatch issue
  rw [if_pos time, fail_going going]
  rfl

theorem dispatch_cases (going : t.phase ≠ .ended) :
    (t.dispatch job body more =
        (t, .post job (t.letter job body) (t.options.limit job) :: more) ∧
      t.options.limit job ≠ 0) ∨
    (t.dispatch job body more =
        ({ t with phase := .ended },
          .post job (t.letter job body) (t.options.limit job) :: more ++
            [.release, .emit .failed]) ∧
      t.options.limit job = 0) := by
  by_cases time : t.options.limit job = 0
  · exact .inr ⟨dispatch_too_late job body more going time, time⟩
  · exact .inl ⟨dispatch_in_time job body more time, time⟩

/-- The request goes out first; where it is given no time the failure comes last. -/
theorem dispatch_snd (going : t.phase ≠ .ended) :
    ∃ tail, (tail = [] ∨ tail = [.release, .emit .failed]) ∧
      (t.dispatch job body more).2 =
        .post job (t.letter job body) (t.options.limit job) :: more ++ tail := by
  rcases dispatch_cases job body more going with ⟨same, -⟩ | ⟨same, -⟩
  · exact ⟨[], .inl rfl, by rw [same, List.append_nil]⟩
  · exact ⟨_, .inr rfl, by rw [same]⟩

end Dispatch

/-! ## Outcomes -/

def Accepted : Http.Outcome → Prop
  | .response response => response.isSuccess = true
  | .refused _ | .timedOut => False

def NeedsDelimiter (response : Http.Response) : Job → Prop
  | .opening => True
  | .polling => response.status ≠ 204 ∧ response.body ≠ []
  | .sending => False

def Fatal (job : Job) : Http.Outcome → Prop
  | .response response =>
      response.isSuccess = false ∨ NeedsDelimiter response job ∧ '&' ∉ response.text.toList
  | .refused _ | .timedOut => True

/-- The frame that the answer to a poll brings: the text after the first delimiter, unless
there is none. -/
def frame? : Http.Outcome → Option String
  | .response response =>
      if response.isSuccess = true ∧ response.status ≠ 204 ∧ response.body ≠ [] then
        (cut response.text).bind fun parts => if parts.2.isEmpty then none else some parts.2
      else none
  | .refused _ | .timedOut => none

instance (outcome : Http.Outcome) : Decidable (Accepted outcome) := by
  cases outcome <;> unfold Accepted <;> infer_instance

instance (response : Http.Response) (job : Job) : Decidable (NeedsDelimiter response job) := by
  cases job <;> unfold NeedsDelimiter <;> infer_instance

instance (job : Job) (outcome : Http.Outcome) : Decidable (Fatal job outcome) := by
  cases outcome <;> unfold Fatal <;> infer_instance

/-- A body is not cut exactly when it has no delimiter. -/
theorem cut_eq_none {body : String} : cut body = none ↔ '&' ∉ body.toList := by
  simp [cut, Text.cutFirst_eq_none]

theorem fatal_opening {outcome : Http.Outcome} :
    Fatal .opening outcome ↔ firstToken outcome = none := by
  cases outcome with
  | refused text => simp [Fatal, firstToken]
  | timedOut => simp [Fatal, firstToken]
  | response response =>
      cases accepted : response.isSuccess <;>
        simp [Fatal, firstToken, NeedsDelimiter, accepted, cut_eq_none]

theorem fatal_polling (token : String) {outcome : Http.Outcome} :
    Fatal .polling outcome ↔ nextToken token outcome = none := by
  cases outcome with
  | refused text => simp [Fatal, nextToken]
  | timedOut => simp [Fatal, nextToken]
  | response response =>
      cases accepted : response.isSuccess with
      | false => simp [Fatal, nextToken, accepted]
      | true =>
          by_cases empty : response.status = 204 ∨ response.body = []
          · rcases empty with none | none <;>
              simp [Fatal, nextToken, NeedsDelimiter, accepted, none]
          · have full := not_or.1 empty
            simp [Fatal, nextToken, NeedsDelimiter, accepted, full, cut_eq_none]

theorem fatal_sending {outcome : Http.Outcome} : Fatal .sending outcome ↔ ¬Accepted outcome := by
  cases outcome <;> simp [Fatal, Accepted, NeedsDelimiter]

theorem complete_accepted {outcome : Http.Outcome} :
    (∃ response, complete outcome = .ok response) ↔ Accepted outcome := by
  cases outcome with
  | refused text => simp [complete, Accepted]
  | timedOut => simp [complete, Accepted]
  | response response =>
      cases accepted : response.isSuccess <;> simp [complete, Accepted, accepted]

/-! ## Courses -/

/-- A transport that does not end at the answer to a poll posts the next one before it hands
on what the answer brought. -/
theorem answer_polling_frame {t : LongPoll} {outcome : Http.Outcome} {token : String}
    (going : t.phase ≠ .ended) (next : nextToken t.token outcome = some token) :
    t.answer .polling outcome =
      { t with token }.dispatch .polling (t.signed token)
        ((frame? outcome).toList.map fun frame => .emit (.message frame)) := by
  cases outcome with
  | refused text => cases next
  | timedOut => cases next
  | response response =>
      cases accepted : response.isSuccess with
      | false => simp [nextToken, accepted] at next
      | true =>
          simp only [nextToken, accepted, if_true] at next
          unfold answer
          rw [if_neg going]
          simp only [complete, accepted, if_true, LongPoll.polled, frame?]
          by_cases empty : response.status = 204 ∨ response.body = []
          · rw [if_pos empty] at next ⊢
            cases next
            have silent : ¬(response.status ≠ 204 ∧ response.body ≠ []) := by
              rintro ⟨status, body⟩
              exact empty.elim status body
            simp only [silent, and_false, if_false]
            rfl
          · rw [if_neg empty] at next ⊢
            obtain ⟨status, body⟩ := not_or.1 empty
            obtain ⟨⟨front, frame⟩, parts, rfl⟩ := Option.map_eq_some_iff.1 next
            simp only [parts, status, body, ne_eq, not_false_eq_true, and_self, if_true,
              Option.bind_some]
            cases frame.isEmpty <;> rfl

/-- All that a call does to a transport that has not ended. -/
inductive Course (t : LongPoll) : Call → LongPoll × List Act → Prop
  | idle {call : Call} (stray : t.Stray call) : Course t call (t, [])
  | start (fresh : t.phase = .fresh) :
      Course t .start ({ t with phase := .opening }, [.wake .opening])
  | ask (opening : t.phase = .opening) :
      Course t (.wake .opening) (t.dispatch .opening "init" [])
  | greet {outcome : Http.Outcome} {uid token : String}
      (greeted : firstToken outcome = some (uid, token)) :
      Course t (.answer .opening outcome)
        ({ t with phase := .live, uid := some uid, token }, [.emit .opened, .wake .polling])
  | poll (live : t.phase = .live) :
      Course t (.wake .polling) (t.dispatch .polling (t.signed t.token) [])
  | again {outcome : Http.Outcome} {token : String}
      (next : nextToken t.token outcome = some token) :
      Course t (.answer .polling outcome)
        ({ t with token }.dispatch .polling (t.signed token)
          ((frame? outcome).toList.map fun frame => .emit (.message frame)))
  | enqueue {frame : String} (live : t.phase = .live) :
      Course t (.send frame) ({ t with queue := t.queue ++ [frame] }, [.wake .sending])
  /-- It is not the turn of the next frame. -/
  | hold (busy : t.phase ≠ .live ∨ t.sending = true ∨ t.queue = []) :
      Course t (.wake .sending) (t, [])
  /-- A frame was sent, and none is left. -/
  | rest {outcome : Http.Outcome} (accepted : Accepted outcome)
      (none : t.phase ≠ .live ∨ t.queue = []) :
      Course t (.answer .sending outcome) ({ t with sending := false }, [])
  | mail {call : Call} {frame : String} {later : List String}
      (turn : call = .wake .sending ∧ t.sending = false ∨
        ∃ outcome, Accepted outcome ∧ call = .answer .sending outcome)
      (live : t.phase = .live) (next : t.queue = frame :: later) :
      Course t call
        ({ t with queue := later, sending := true }.dispatch .sending (t.signed frame) [])
  | fail {job : Job} {outcome : Http.Outcome} (fatal : Fatal job outcome) :
      Course t (.answer job outcome) ({ t with phase := .ended }, [.release, .emit .failed])
  | reset : Course t .reset ({ t with phase := .ended }, [.detach, .release])

theorem Stray.unanswered {t : LongPoll} {call : Call} (stray : t.Stray call) (job : Job)
    (outcome : Http.Outcome) : call ≠ .answer job outcome := by
  rintro rfl
  exact stray

/-- The sender posts the next frame if it is free, and else does nothing. -/
theorem feed_cases (t : LongPoll) :
    (t.feed = (t, []) ∧ (t.phase ≠ .live ∨ t.sending = true ∨ t.queue = [])) ∨
      ∃ frame later, t.phase = .live ∧ t.sending = false ∧ t.queue = frame :: later ∧
        t.feed = { t with queue := later, sending := true }.dispatch .sending (t.signed frame) [] := by
  unfold feed
  split
  · rename_i frame later live free next
    exact .inr ⟨frame, later, live, free, next, rfl⟩
  · rename_i busy
    refine .inl ⟨rfl, ?_⟩
    cases live : t.phase with
    | fresh | opening | ended => exact .inl (by simp)
    | live =>
        cases free : t.sending with
        | true => exact .inr (.inl rfl)
        | false =>
            cases next : t.queue with
            | nil => exact .inr (.inr rfl)
            | cons frame later => exact absurd next (busy frame later live free)

theorem wake_course {t : LongPoll} (job : Job) : Course t (.wake job) (t.wake job) := by
  cases job with
  | opening =>
      simp only [LongPoll.wake]
      split
      · exact .ask ‹_›
      · exact .idle ‹_›
  | polling =>
      simp only [LongPoll.wake]
      split
      · exact .poll ‹_›
      · exact .idle ‹_›
  | sending =>
      simp only [LongPoll.wake]
      rcases t.feed_cases with ⟨same, busy⟩ | ⟨frame, later, live, free, next, same⟩
      · rw [same]
        exact .hold busy
      · rw [same]
        exact .mail (.inl ⟨rfl, free⟩) live next

theorem answer_course {t : LongPoll} (going : t.phase ≠ .ended) (job : Job)
    (outcome : Http.Outcome) : Course t (.answer job outcome) (t.answer job outcome) := by
  cases job with
  | opening =>
      rw [answer_opening going]
      cases greeted : firstToken outcome with
      | none => exact .fail (fatal_opening.2 greeted)
      | some parts => exact .greet greeted
  | polling =>
      cases next : nextToken t.token outcome with
      | none =>
          rcases answer_polling going outcome with ⟨token, news, some_, -⟩ | ⟨-, same⟩
          · rw [next] at some_
            cases some_
          · rw [same]
            exact .fail ((fatal_polling _).2 next)
      | some token =>
          rw [answer_polling_frame going next]
          exact .again next
  | sending =>
      unfold answer
      rw [if_neg going]
      cases completed : complete outcome with
      | error fault =>
          have refused : ¬Accepted outcome := by
            rw [← complete_accepted, completed]
            simp
          simp only [fail_going going]
          exact .fail (fatal_sending.2 refused)
      | ok response =>
          have accepted : Accepted outcome := complete_accepted.1 ⟨response, completed⟩
          rcases feed_cases { t with sending := false } with
            ⟨same, busy⟩ | ⟨frame, later, live, -, next, same⟩
          · simp only [same]
            exact .rest accepted (by simpa using busy)
          · simp only [same]
            exact .mail (.inr ⟨outcome, accepted, rfl⟩) live next

theorem course {t : LongPoll} (going : t.phase ≠ .ended) (call : Call) :
    Course t call (t.heed call) := by
  cases call with
  | start =>
      simp only [heed, LongPoll.start]
      split
      · exact .start ‹_›
      · exact .idle ‹_›
  | wake job => exact wake_course job
  | answer job outcome => exact answer_course going job outcome
  | send frame =>
      by_cases live : t.phase = .live
      · have taken :
            t.heed (.send frame) = ({ t with queue := t.queue ++ [frame] }, [.wake .sending]) := by
          simp only [heed, LongPoll.send, live]
        rw [taken]
        exact .enqueue live
      · have refused : t.heed (.send frame) = (t, []) := by
          unfold heed LongPoll.send
          cases phase : t.phase <;> simp_all
        rw [refused]
        exact .idle live
  | reset => exact .reset

/-- A transport that has ended stays as it is: all that it still does is to detach its sink and
give up its requests, when it is reset. -/
theorem heed_over {t : LongPoll} (ended : t.phase = .ended) (call : Call) :
    t.heed call = (t, if call = .reset then [.detach, .release] else []) := by
  cases call with
  | start => simp [heed, LongPoll.start, ended]
  | wake job => cases job <;> simp [heed, LongPoll.wake, LongPoll.feed, ended]
  | answer job outcome => simp [heed, answer_ended ended]
  | send frame => simp [heed, LongPoll.send, ended]
  | reset =>
      have same : { t with phase := .ended } = t := by rw [← ended]
      simp [heed, LongPoll.reset, same]

/-- Each request goes to the endpoint of its job, and is given the time of its job. -/
theorem post_terms {t : LongPoll} {call : Call} {job : Job} {request : Http.Request} {limit : Nat}
    (posts : .post job request limit ∈ (t.heed call).2) :
    request.url = t.options.url job ∧ limit = t.options.limit job := by
  have dispatched (t' : LongPoll) {own : Job} {body : String} {more : List Act}
      (going : t'.phase ≠ .ended) (same : t'.options = t.options)
      (quiet : .post job request limit ∉ more)
      (posts : .post job request limit ∈ (t'.dispatch own body more).2) :
      request.url = t.options.url job ∧ limit = t.options.limit job := by
    obtain ⟨tail, last, acted⟩ := t'.dispatch_snd own body more going
    have first : .post job request limit =
        Act.post own (t'.letter own body) (t'.options.limit own) := by
      rw [acted] at posts
      rcases last with rfl | rfl <;> simpa [quiet] using posts
    cases first
    rw [← same]
    exact ⟨rfl, rfl⟩
  by_cases ended : t.phase = .ended
  · rw [heed_over ended] at posts
    split at posts <;> simp at posts
  · have step := course ended call
    generalize t.heed call = result at step posts
    cases step with
    | ask | poll => exact dispatched _ ended rfl (by simp) posts
    | @again outcome token next =>
        exact dispatched { t with token } ended rfl (by simp) posts
    | @mail call frame later turn live next =>
        exact dispatched { t with queue := later, sending := true } ended rfl (by simp) posts
    | idle | start | greet | enqueue | hold | rest | fail | reset => simp at posts

/-! ## The end -/

/-- The beat brings a fatal outcome, or posts a request that is given no time. -/
def Beat.Fatal (beat : Beat) : Prop :=
  (∃ job outcome, beat.call = .answer job outcome ∧ LongPoll.Fatal job outcome) ∨
    ∃ job request, .post job request 0 ∈ beat.acts

section Dispatch

variable {t : LongPoll} {job : Job} {body : String} {more : List Act}

theorem dispatch_failed (going : t.phase ≠ .ended) (unfailed : .emit .failed ∉ more) :
    .emit .failed ∈ (t.dispatch job body more).2 ↔ t.options.limit job = 0 := by
  rcases t.dispatch_cases job body more going with ⟨same, time⟩ | ⟨same, time⟩ <;>
    rw [same] <;> simp [time, unfailed]

theorem dispatch_hasty (going : t.phase ≠ .ended)
    (unposted : ∀ other request limit, .post other request limit ∉ more) :
    (∃ other request, .post other request 0 ∈ (t.dispatch job body more).2) ↔
      t.options.limit job = 0 := by
  rcases t.dispatch_cases job body more going with ⟨same, time⟩ | ⟨same, time⟩ <;>
    rw [same] <;> simp [time, unposted, Ne.symm]

end Dispatch

/-- A transport that goes on fails at a fatal outcome and at a request that is given no time,
and at nothing else. -/
theorem failed_iff {beat : Beat} (going : beat.before.phase ≠ .ended) :
    .emit .failed ∈ beat.acts ↔ beat.Fatal := by
  have step := course going beat.call
  unfold Beat.Fatal Beat.acts
  generalize beat.before.heed beat.call = result at step ⊢
  generalize beat.call = call at step ⊢
  cases step with
  | idle stray => simp [stray.unanswered]
  | start fresh => simp
  | ask opening => simp [dispatch_failed going, dispatch_hasty going]
  | greet greeted => simp [fatal_opening, greeted]
  | poll live => simp [dispatch_failed going, dispatch_hasty going]
  | @again outcome token next =>
      have useful : ¬LongPoll.Fatal .polling outcome := by
        rw [fatal_polling beat.before.token, next]
        simp
      rw [dispatch_failed (t := { beat.before with token }) going (by simp),
        dispatch_hasty (t := { beat.before with token }) going (by simp)]
      simp [useful]
  | enqueue live => simp
  | hold busy => simp
  | rest accepted none => simp [fatal_sending, accepted]
  | @mail call frame later turn live next =>
      have useful : ¬∃ job outcome, call = .answer job outcome ∧ LongPoll.Fatal job outcome := by
        rintro ⟨job, outcome, rfl, fatal⟩
        rcases turn with ⟨wakes, -⟩ | ⟨other, accepted, answers⟩
        · cases wakes
        · cases answers
          exact fatal_sending.1 fatal accepted
      rw [dispatch_failed (t := { beat.before with queue := later, sending := true }) going (by simp),
        dispatch_hasty (t := { beat.before with queue := later, sending := true }) going (by simp)]
      simp only [useful, false_or]
  | fail fatal => exact iff_of_true (by simp) (.inl ⟨_, _, rfl, fatal⟩)
  | reset => simp

end Tether.LongPoll
