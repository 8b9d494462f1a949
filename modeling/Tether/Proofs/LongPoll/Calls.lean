/-
# Tether.Proofs.LongPoll.Calls -- the calls of a polling transport, and what they do

All that reaches a polling transport is a call: it is opened, a job of its goes on, a request
of its ends, a frame is handed over, or it is reset.  A beat is a call with the transport that
heeded it, and a log is the list of the beats of one transport.  Nothing here says which calls
can come when: a log may be any list.

What is read off a log is said in the terms of the server: which outcomes the transport heard
of its requests (`replies`), which tokens these give (`firstToken`, `nextToken`, `tokens`), and
from this which bodies its polls owe (`due`), beside those that it posted (`asked`).

* `upshot` -- all that a call can do to a transport that has not ended.
* `heed_ended` -- one that has ended posts nothing and reports nothing.
* `cut_eq_some` -- where a body is cut.
* `tokens_concat` -- one more outcome gives at most one more token.
-/
import Tether.LongPoll

set_option autoImplicit false

namespace Tether.LongPoll

inductive Call
  | start
  | wake (job : Job)
  | answer (job : Job) (outcome : Http.Outcome)
  | send (frame : String)
  /-- The transport is reset or dropped. -/
  | reset
deriving DecidableEq

def heed (t : LongPoll) : Call → LongPoll × List Act
  | .start => t.start
  | .wake job => t.wake job
  | .answer job outcome => t.answer job outcome
  | .send frame =>
      match t.send frame with
      | .ok step => step
      | .error _ => (t, [])
  | .reset => t.reset

structure Beat where
  before : LongPoll
  call : Call

namespace Beat

def after (beat : Beat) : LongPoll := (beat.before.heed beat.call).1

def acts (beat : Beat) : List Act := (beat.before.heed beat.call).2

/-- How a request of `job` ended, where a transport that goes on hears of it. -/
def reply? (job : Job) (beat : Beat) : Option Http.Outcome :=
  match beat.call with
  | .answer other outcome =>
      if other = job ∧ beat.before.phase ≠ .ended then some outcome else none
  | _ => none

end Beat

/-! ## What a log says -/

def Opened (log : List Beat) : Prop := ∃ beat ∈ log, .emit .opened ∈ beat.acts

/-- The transport failed, or was reset or dropped. -/
def Ended (log : List Beat) : Prop :=
  ∃ beat ∈ log, .emit .failed ∈ beat.acts ∨ beat.call = .reset

def Act.pollBody? : Act → Option String
  | .post .polling request _ => some request.body
  | _ => none

/-- The bodies of the polls that were posted, oldest first. -/
def asked (log : List Beat) : List String :=
  log.flatMap fun beat => beat.acts.filterMap Act.pollBody?

/-- What the transport heard of the requests of `job`, oldest first. -/
def replies (job : Job) (log : List Beat) : List Http.Outcome := log.filterMap (Beat.reply? job)

instance (log : List Beat) : Decidable (Opened log) := by unfold Opened; infer_instance

instance (log : List Beat) : Decidable (Ended log) := by unfold Ended; infer_instance

section Concat

variable (log : List Beat) (beat : Beat)

@[simp] theorem opened_concat :
    Opened (log ++ [beat]) ↔ Opened log ∨ .emit .opened ∈ beat.acts := by
  simp [Opened, or_and_right, exists_or]

@[simp] theorem ended_concat :
    Ended (log ++ [beat]) ↔ Ended log ∨ .emit .failed ∈ beat.acts ∨ beat.call = .reset := by
  simp [Ended, or_and_right, exists_or]

@[simp] theorem asked_concat :
    asked (log ++ [beat]) = asked log ++ beat.acts.filterMap Act.pollBody? := by
  simp only [asked, List.flatMap_append, List.flatMap_singleton]

@[simp] theorem replies_concat (job : Job) :
    replies job (log ++ [beat]) = replies job log ++ (beat.reply? job).toList := by
  unfold replies
  rw [List.filterMap_append]
  cases found : beat.reply? job <;> simp [found]

end Concat

/-! ## Tokens -/

/-- A body is cut at its first delimiter. -/
theorem cut_eq_some {body front back : String} :
    cut body = some (front, back) ↔ body = front ++ "&" ++ back ∧ '&' ∉ front.toList := by
  have whole : body = front ++ "&" ++ back ↔ body.toList = front.toList ++ '&' :: back.toList := by
    rw [← String.toList_inj]
    simp
  rw [whole]
  constructor
  · intro found
    obtain ⟨parts, cuts, same⟩ := Option.map_eq_some_iff.1 found
    cases same
    simpa using Text.cutFirst_eq_some cuts
  · rintro ⟨joined, free⟩
    simp [cut, joined, Text.cutFirst_append free]

/-- The id and the first token that the answer to `init` gives. -/
def firstToken : Http.Outcome → Option (String × String)
  | .response response => if response.isSuccess then cut response.text else none
  | .refused _ | .timedOut => none

/-- The token of the next poll, after the answer to the poll with `token`. -/
def nextToken (token : String) : Http.Outcome → Option String
  | .response response =>
      if response.isSuccess then
        if response.status = 204 ∨ response.body = [] then some token
        else (cut response.text).map Prod.fst
      else none
  | .refused _ | .timedOut => none

/-- The tokens of the polls that begin with `token` and are answered in turn. -/
def tokens (token : String) : List Http.Outcome → List String
  | [] => [token]
  | outcome :: later =>
      token ::
        match nextToken token outcome with
        | some next => tokens next later
        | none => []

/-- The bodies of the polls that a transport owes, when its opening was answered by `openings`
and its polls by `answers`. -/
def bodies (openings answers : List Http.Outcome) : List String :=
  match openings.head?.bind firstToken with
  | some (uid, token) => (tokens token answers).map fun token => uid ++ "&" ++ token
  | none => []

/-- The bodies of the polls that a transport owes. -/
def due (log : List Beat) : List String := bodies (replies .opening log) (replies .polling log)

theorem tokens_concat {token last : String} {answers : List Http.Outcome}
    (reached : answers.foldlM nextToken token = some last) (outcome : Http.Outcome) :
    tokens token (answers ++ [outcome]) =
      tokens token answers ++ (nextToken last outcome).toList := by
  induction answers generalizing token with
  | nil =>
      cases reached
      simp only [List.nil_append, tokens]
      cases nextToken last outcome <;> rfl
  | cons first later ih =>
      rw [List.foldlM_cons] at reached
      obtain ⟨next, step, rest⟩ := Option.bind_eq_some_iff.1 reached
      simp only [List.cons_append, tokens, step]
      rw [ih rest]

/-- One more answer adds the body with the token that it gives, if it gives one. -/
theorem bodies_concat {openings answers : List Http.Outcome} {uid token last : String}
    (greeted : openings.head?.bind firstToken = some (uid, token))
    (reached : answers.foldlM nextToken token = some last) (outcome : Http.Outcome) :
    bodies openings (answers ++ [outcome]) =
      bodies openings answers ++
        (nextToken last outcome).toList.map fun token => uid ++ "&" ++ token := by
  simp only [bodies, greeted]
  rw [tokens_concat reached, List.map_append]

/-! ## What a call does -/

theorem fail_going {t : LongPoll} (going : t.phase ≠ .ended) (fault : Fault) :
    t.fail fault = ({ t with phase := .ended }, [.release, .emit .failed]) := if_neg going

theorem answer_opening {t : LongPoll} (going : t.phase ≠ .ended) (outcome : Http.Outcome) :
    t.answer .opening outcome =
      match firstToken outcome with
      | some (uid, token) =>
          ({ t with phase := .live, uid := some uid, token }, [.emit .opened, .wake .polling])
      | none => ({ t with phase := .ended }, [.release, .emit .failed]) := by
  unfold answer
  rw [if_neg going]
  cases outcome with
  | refused text => exact fail_going going _
  | timedOut => exact fail_going going _
  | response response =>
      by_cases accepted : response.isSuccess
      · simp only [complete, firstToken, accepted, if_true, opened]
        cases cut response.text with
        | none => exact fail_going going _
        | some parts => rfl
      · simp only [complete, firstToken, accepted, if_false, Bool.false_eq_true]
        exact fail_going going _

/-- A poll that ended either has the next one posted or ends the transport. -/
theorem answer_polling {t : LongPoll} (going : t.phase ≠ .ended) (outcome : Http.Outcome) :
    (∃ (token : String) (news : List String), nextToken t.token outcome = some token ∧
        t.answer .polling outcome =
          { t with token }.poll (news.map fun frame => .emit (.message frame))) ∨
      nextToken t.token outcome = none ∧
        t.answer .polling outcome = ({ t with phase := .ended }, [.release, .emit .failed]) := by
  unfold answer
  rw [if_neg going]
  cases outcome with
  | refused text => exact .inr ⟨rfl, fail_going going _⟩
  | timedOut => exact .inr ⟨rfl, fail_going going _⟩
  | response response =>
      by_cases accepted : response.isSuccess
      · simp only [complete, nextToken, accepted, if_true, LongPoll.polled]
        by_cases empty : response.status = 204 ∨ response.body = []
        · rw [if_pos empty, if_pos empty]
          exact .inl ⟨t.token, [], rfl, rfl⟩
        · rw [if_neg empty, if_neg empty]
          cases cut response.text with
          | none => exact .inr ⟨rfl, fail_going going _⟩
          | some parts =>
              obtain ⟨token, frame⟩ := parts
              refine .inl ⟨token, if frame.isEmpty then [] else [frame], rfl, ?_⟩
              by_cases silent : frame.isEmpty <;> simp only [silent] <;> rfl
      · simp only [complete, nextToken, accepted, if_false, Bool.false_eq_true]
        exact .inr ⟨trivial, fail_going going _⟩

/-- After `acts` a transport goes on as `t`, or it ends because no time was allowed to wait. -/
def Waits (t : LongPoll) (acts : List Act) (after : LongPoll) (all : List Act) : Prop :=
  (after = t ∧ all = acts) ∨
    (after = { t with phase := .ended } ∧ all = acts ++ [.release, .emit .failed])

theorem issue_waits {t : LongPoll} (going : t.phase ≠ .ended) (job : Job) (url body : String)
    (limit : Nat) (more : List Act) :
    ∃ request, request.body = body ∧
      Waits t (.post job request limit :: more) (t.issue job url body limit more).1
        (t.issue job url body limit more).2 := by
  refine ⟨{ url, headers := Http.plainText, body }, rfl, ?_⟩
  unfold issue
  split
  · rw [fail_going going]
    exact .inr ⟨rfl, rfl⟩
  · exact .inl ⟨rfl, rfl⟩

/-- The call comes too early, too late or once too often. -/
def Stray (t : LongPoll) : Call → Prop
  | .start => t.phase ≠ .fresh
  | .wake .opening => t.phase ≠ .opening
  | .wake .polling | .send _ => t.phase ≠ .live
  | .wake .sending | .answer _ _ | .reset => False

/-- The outcome of a request of `job` ends the transport; for a frame that was sent this is
left open. -/
def Useless (t : LongPoll) (outcome : Http.Outcome) : Job → Prop
  | .opening => firstToken outcome = none
  | .polling => nextToken t.token outcome = none
  | .sending => True

/-- All that a call can do to a transport that has not ended. -/
inductive Upshot (t : LongPoll) : Call → LongPoll → List Act → Prop
  | idle {call : Call} (stray : t.Stray call) : Upshot t call t []
  | start (fresh : t.phase = .fresh) :
      Upshot t .start { t with phase := .opening } [.wake .opening]
  | ask {request : Http.Request} {limit : Nat} {after : LongPoll} {acts : List Act}
      (opening : t.phase = .opening) (waits : Waits t [.post .opening request limit] after acts) :
      Upshot t (.wake .opening) after acts
  | greet {outcome : Http.Outcome} {uid token : String}
      (greeted : firstToken outcome = some (uid, token)) :
      Upshot t (.answer .opening outcome) { t with phase := .live, uid := some uid, token }
        [.emit .opened, .wake .polling]
  /-- The first poll. -/
  | poll {request : Http.Request} {limit : Nat} {after : LongPoll} {acts : List Act}
      (live : t.phase = .live) (body : request.body = t.signed t.token)
      (waits : Waits t [.post .polling request limit] after acts) :
      Upshot t (.wake .polling) after acts
  /-- The next poll goes out before what the last one brought. -/
  | again {outcome : Http.Outcome} {token : String} {request : Http.Request} {limit : Nat}
      {news : List String} {after : LongPoll} {acts : List Act}
      (next : nextToken t.token outcome = some token) (body : request.body = t.signed token)
      (waits : Waits { t with token }
        (.post .polling request limit :: news.map fun frame => .emit (.message frame)) after acts) :
      Upshot t (.answer .polling outcome) after acts
  /-- A frame waits to be posted. -/
  | enqueue {frame : String} (live : t.phase = .live) :
      Upshot t (.send frame) { t with queue := t.queue ++ [frame] } [.wake .sending]
  /-- The next frame is posted, if there is one. -/
  | feed {call : Call} {queue : List String} {sending : Bool} {posted : List Act}
      {after : LongPoll} {acts : List Act}
      (turn : call = .wake .sending ∨ ∃ outcome, call = .answer .sending outcome)
      (post : posted = [] ∨ ∃ request limit, posted = [.post .sending request limit])
      (waits : Waits { t with queue, sending } posted after acts) :
      Upshot t call after acts
  /-- A request ended in a way that ends the transport. -/
  | fail {job : Job} {outcome : Http.Outcome} (useless : t.Useless outcome job) :
      Upshot t (.answer job outcome) { t with phase := .ended } [.release, .emit .failed]
  | reset : Upshot t .reset { t with phase := .ended } [.detach, .release]

/-- Feeding the sender leaves all but its queue alone, unless the frame is given no time. -/
theorem feed_waits (t : LongPoll) :
    ∃ queue sending posted,
      (posted = [] ∨ ∃ request limit, posted = [.post .sending request limit]) ∧
        Waits { t with queue, sending } posted t.feed.1 t.feed.2 := by
  unfold feed
  split
  · rename_i frame rest live idle waiting
    obtain ⟨request, -, waits⟩ := issue_waits
      (t := { t with queue := rest, sending := true }) (by simp [live]) .sending t.options.sendUrl
      (t.signed frame) t.options.sendTimeout []
    exact ⟨rest, true, _, .inr ⟨request, _, rfl⟩, waits⟩
  · exact ⟨t.queue, t.sending, [], .inl rfl, .inl ⟨rfl, rfl⟩⟩

/-- A job that goes on posts what waits for it, if it is its turn. -/
theorem wake_upshot {t : LongPoll} (going : t.phase ≠ .ended) (job : Job) :
    Upshot t (.wake job) (t.wake job).1 (t.wake job).2 := by
  cases job with
  | opening =>
      simp only [LongPoll.wake]
      split
      · rename_i opening
        obtain ⟨request, -, waits⟩ := issue_waits going .opening t.options.sendUrl "init"
          t.options.sendTimeout []
        exact .ask opening waits
      · rename_i stray
        exact .idle stray
  | polling =>
      simp only [LongPoll.wake]
      split
      · rename_i live
        obtain ⟨request, body, waits⟩ := issue_waits going .polling t.options.pollUrl
          (t.signed t.token) t.options.pollTimeout []
        exact .poll live body waits
      · rename_i stray
        exact .idle stray
  | sending =>
      obtain ⟨queue, sending, posted, post, waits⟩ := t.feed_waits
      exact .feed (.inl rfl) post waits

/-- A request that ended brings the next one, or it ends the transport. -/
theorem answer_upshot {t : LongPoll} (going : t.phase ≠ .ended) (job : Job)
    (outcome : Http.Outcome) :
    Upshot t (.answer job outcome) (t.answer job outcome).1 (t.answer job outcome).2 := by
  cases job with
  | opening =>
      rw [answer_opening going]
      cases greeted : firstToken outcome with
      | none => exact .fail greeted
      | some parts => exact .greet greeted
  | polling =>
      rcases answer_polling going outcome with ⟨token, news, next, same⟩ | ⟨useless, same⟩
      · rw [same]
        obtain ⟨request, body, waits⟩ := issue_waits (t := { t with token }) going .polling
          t.options.pollUrl (LongPoll.signed { t with token } token) t.options.pollTimeout
          (news.map fun frame => .emit (.message frame))
        exact .again next body waits
      · rw [same]
        exact .fail useless
  | sending =>
      unfold answer
      rw [if_neg going]
      split
      · rw [fail_going going]
        exact .fail trivial
      · obtain ⟨queue, sending, posted, post, waits⟩ :=
          LongPoll.feed_waits { t with sending := false }
        exact .feed (.inr ⟨outcome, rfl⟩) post waits

/-- All that a call can do to a transport that has not ended. -/
theorem upshot {t : LongPoll} (going : t.phase ≠ .ended) (call : Call) :
    Upshot t call (t.heed call).1 (t.heed call).2 := by
  cases call with
  | start =>
      simp only [heed, LongPoll.start]
      split
      · rename_i fresh
        exact .start fresh
      · rename_i stray
        exact .idle stray
  | wake job => exact wake_upshot going job
  | answer job outcome => exact answer_upshot going job outcome
  | send frame =>
      simp only [heed, LongPoll.send]
      split
      · rename_i taken
        split at taken <;> cases taken
        rename_i live
        exact .enqueue live
      · rename_i refused
        refine .idle fun live => ?_
        rw [live] at refused
        cases refused
  | reset => exact .reset

/-- A transport that has ended does nothing but detach its sink and give up its requests. -/
theorem heed_ended {t : LongPoll} (ended : t.phase = .ended) (call : Call) :
    (t.heed call).1.phase = .ended ∧
      ((t.heed call).2 = [] ∨ (t.heed call).2 = [.detach, .release]) := by
  cases call with
  | start => simp [heed, LongPoll.start, ended]
  | wake job => cases job <;> simp [heed, LongPoll.wake, LongPoll.feed, ended]
  | answer job outcome => simp [heed, answer_ended ended, ended]
  | send frame => simp [heed, LongPoll.send, ended]
  | reset => exact ⟨rfl, .inr rfl⟩

end Tether.LongPoll
