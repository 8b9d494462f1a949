/-
# Tether.Proofs.Session.Answered -- which sends get an answer

A send waits for its answer.  It gets one when the session looks at it, and a session looks at
its inbox in order, until it is told to close; what stands behind the close in the inbox is never
looked at.  So a send is answered exactly if no close stood before it when the call was made.
One that comes later still, to a session that has stopped, is refused on the spot.

What matters is the mail of a rehearsal (`Mail`): what stands in the inbox and among the results,
the calls made, and the answers given.  A mail changes in a few ways (`Mail.Change`), and each of
them keeps a call heeded that is heeded, and doomed that is doomed.

* `tick_changes`, `act_changes` -- every tick and every command is a course of such changes.
* `Change.heeds`, `Change.dooms` -- no change turns a call that is heeded into a doomed one, or
  the other way round.
* `answered_unless_behind_close` -- what becomes of a send, in any rehearsal.
-/
import Mathlib.Logic.Relation
import Tether.Proofs.Session.Rehearsed
import Tether.Proofs.Session.Sends

set_option autoImplicit false

namespace Tether

/-! ## What a beat answers -/

namespace Session

theorem Offer.unanswered {number : Nat} {frame : String} {v w : Stance} {taken : Bool}
    {given : List Effect} (offer : Offer number frame v taken w given) :
    given.filterMap Effect.answered = [] := by
  cases offer <;> rfl

theorem Fresh.unanswered {v w : Stance} {given : List Effect} (fresh : Fresh v w given) :
    given.filterMap Effect.answered = [] := by
  cases fresh <;> rfl

/-- What is heard of a task is answered once. -/
theorem Deed.answers {accepting : Bool} {v w : Stance} {call : Nat} {task : String}
    {fields : List (String × String)} {given : List Effect}
    (deed : Deed accepting v (some (.task call task fields)) w given) :
    ∃ sent, given.filterMap Effect.answered = [(call, sent)] := by
  cases deed with
  | unready | lost => exact ⟨false, rfl⟩
  | send phase held current used offer =>
      refine ⟨accepting, ?_⟩
      rw [List.filterMap_append, offer.unanswered]
      rfl

/-- Nothing else is answered. -/
theorem Deed.unanswered {accepting : Bool} {v w : Stance} {hearing : Option Hearing}
    {given : List Effect} (deed : Deed accepting v hearing w given)
    (other : ∀ call task fields, hearing ≠ some (.task call task fields)) :
    given.filterMap Effect.answered = [] := by
  cases deed with
  | install session token fresh => exact fresh.unanswered
  | reinstall held tokenHeld unspent fresh => exact fresh.unanswered
  | greet phase held tokenHeld used offer => exact offer.unanswered
  | pong phase held used offer => exact offer.unanswered
  | unready phase call task fields => exact absurd rfl (other call task fields)
  | lost phase down call task fields => exact absurd rfl (other call task fields)
  | @send _ _ _ call task fields => exact absurd rfl (other call task fields)
  | _ => rfl

/-- A task is heard of in a send alone. -/
theorem hears_task {s : Session} {input : Input} {call : Nat} {task : String}
    {fields : List (String × String)} (heard : s.hears input = some (.task call task fields)) :
    input = .send call task fields := by
  unfold hears presentable reads at heard
  repeat' split at heard
  all_goals cases heard
  rfl

/-- A session stops when it is told to close, and not otherwise. -/
theorem Upshot.keeps_running {setup : Setup} {v w : Footing} {incident : Option Incident}
    {given : List Effect} (upshot : Upshot setup v incident w given)
    (open_ : incident ≠ some .close) : w.running = v.running := by
  have anew : ∀ {forced : Bool}, Anew setup forced v w given → w.running = v.running := by
    intro forced anew
    cases anew <;> rfl
  cases upshot with
  | close => exact absurd rfl open_
  | start fresh => exact anew fresh
  | credentials _ fresh => exact anew fresh
  | reuse _ _ _ fresh => exact anew fresh
  | _ => rfl

section Lives

variable {config : SessionConfig} {past : List Beat} {s : Session} {turn : Turn}

theorem running_after (life : Life config past s) (open_ : turn.input ≠ .close) :
    (s.beat config turn).after.running = s.running := by
  refine (beat_upshot life turn).keeps_running fun closed => ?_
  exact open_ (befalls_causes (befell_some closed).2)

theorem beat_close (life : Life config past s) (running : s.running = true)
    (closed : turn.input = .close) :
    (s.beat config turn).after.running = false := by
  obtain ⟨after, -⟩ := beat_running running life.outbox turn
  rw [after, closed]
  rfl

/-- A session that runs answers the sends it looks at. -/
theorem beat_answers (life : Life config past s) (running : s.running = true) {call : Nat}
    {task : String} {fields : List (String × String)}
    (called : turn.input = .send call task fields) :
    ∃ sent, (s.beat config turn).answers = [(call, sent)] := by
  have deed := beat_deed life turn
  have heard : (s.beat config turn).heard = some (.task call task fields) := by
    have hears : (s.beat config turn).heard = s.hears turn.input := if_pos running
    rw [hears, called]
    rfl
  rw [heard] at deed
  rw [answers_signals]
  exact deed.answers

/-- It answers nothing else. -/
theorem beat_unanswered (life : Life config past s)
    (other : ∀ call task fields, turn.input ≠ .send call task fields) :
    (s.beat config turn).answers = [] := by
  rw [answers_signals]
  refine (beat_deed life turn).unanswered fun call task fields heard => ?_
  unfold Beat.heard at heard
  split at heard
  · exact other call task fields (hears_task heard)
  · cases heard

end Lives

end Session

/-! ## Mail -/

/-- What of a rehearsal bears on the answers to sends. -/
structure Mail where
  running : Bool
  inbox : List Input
  results : List Input
  calls : Nat
  answers : List (Nat × Bool)

namespace Mail

def made (task : String) (fields : List (String × String)) (m : Mail) : Mail :=
  { m with inbox := m.inbox ++ [.send m.calls task fields], calls := m.calls + 1 }

inductive Change (m : Mail) : Mail → Prop
  | arrive (input : Input) (other : ∀ call task fields, input ≠ .send call task fields) :
      Change m { m with inbox := m.inbox ++ [input] }
  | call (task : String) (fields : List (String × String)) : Change m (m.made task fields)
  | result (attempt : Nat) (manual : Bool) (reply : Option ReconnectReply) :
      Change m { m with results := m.results ++ [.resolved attempt manual reply] }
  | enter {result : Input} {rest : List Input} (idle : m.inbox = [])
      (waits : m.results = result :: rest) :
      Change m { m with inbox := [result], results := rest }
  /-- A session that has stopped looks at nothing. -/
  | skip {input : Input} {rest : List Input} (stopped : m.running = false)
      (first : m.inbox = input :: rest) : Change m { m with inbox := rest }
  | answer {call : Nat} {task : String} {fields : List (String × String)} {rest : List Input}
      (running : m.running = true) (first : m.inbox = .send call task fields :: rest)
      (sent : Bool) : Change m { m with inbox := rest, answers := m.answers ++ [(call, sent)] }
  | close {rest : List Input} (first : m.inbox = .close :: rest) :
      Change m { m with inbox := rest, running := false }
  | pass {input : Input} {rest : List Input} (first : m.inbox = input :: rest)
      (other : ∀ call task fields, input ≠ .send call task fields) (open_ : input ≠ .close) :
      Change m { m with inbox := rest }

abbrev Course : Mail → Mail → Prop := Relation.ReflTransGen Change

def Answered (m : Mail) (call : Nat) : Prop := ∃ sent, (call, sent) ∈ m.answers

/-- The call was answered, or it stands in the inbox of a session that runs, and no close before
it. -/
def Heeded (call : Nat) (m : Mail) : Prop :=
  m.Answered call ∨
    m.running = true ∧ ∃ ahead task fields behind,
      m.inbox = ahead ++ .send call task fields :: behind ∧ .close ∉ ahead

/-- The call was not answered, and if the session runs, a close stands in its inbox, and the call
does not stand before it. -/
def Doomed (call : Nat) (m : Mail) : Prop :=
  ¬m.Answered call ∧
    (m.running = true → ∃ ahead behind, m.inbox = ahead ++ .close :: behind ∧
      ∀ task fields, .send call task fields ∉ ahead)

/-- Every call that was made bears a number below the next one. -/
structure Numbered (m : Mail) : Prop where
  inbox : ∀ call task fields, .send call task fields ∈ m.inbox → call < m.calls
  results : ∀ call task fields, .send call task fields ∉ m.results
  answers : ∀ call, m.Answered call → call < m.calls

/-- As long as the session runs, every call was answered or is to be. -/
def Booked (m : Mail) : Prop :=
  m.running = true → ∀ call < m.calls,
    m.Answered call ∨ ∃ task fields, .send call task fields ∈ m.inbox

section Changes

variable {m n : Mail} {call : Nat}

/-- Answers are never taken back. -/
theorem Change.answered (change : Change m n) (answered : m.Answered call) : n.Answered call := by
  cases change with
  | answer _ first sent =>
      obtain ⟨passed, member⟩ := answered
      exact ⟨passed, List.mem_append_left _ member⟩
  | _ => exact answered

/-- A call that is heeded stays so. -/
theorem Change.heeds (change : Change m n) (heeded : m.Heeded call) : n.Heeded call := by
  rcases heeded with answered | ⟨running, ahead, task, fields, behind, waits, open_⟩
  · exact .inl (change.answered answered)
  have later : ∀ more, m.inbox ++ more = ahead ++ .send call task fields :: (behind ++ more) := by
    intro more
    rw [waits, List.append_assoc, List.cons_append]
  have stands : ∀ {input : Input} {rest : List Input}, m.inbox = input :: rest →
      ahead = [] ∧ input = .send call task fields ∨
        ∃ between, ahead = input :: between ∧
          rest = between ++ .send call task fields :: behind := by
    intro input rest first
    rw [waits] at first
    cases ahead with
    | nil => exact .inl ⟨rfl, (List.cons.inj first).1.symm⟩
    | cons head between =>
        obtain ⟨rfl, same⟩ := List.cons.inj first
        exact .inr ⟨between, rfl, same.symm⟩
  have advances : ∀ {input : Input} {rest between : List Input}, ahead = input :: between →
      rest = between ++ .send call task fields :: behind →
        ∃ ahead task fields behind, rest = ahead ++ .send call task fields :: behind ∧
          .close ∉ ahead := by
    intro input rest between split same
    refine ⟨between, task, fields, behind, same, fun closed => open_ ?_⟩
    rw [split]
    exact List.mem_cons_of_mem _ closed
  cases change with
  | arrive input => exact .inr ⟨running, ahead, task, fields, _, later _, open_⟩
  | call => exact .inr ⟨running, ahead, task, fields, _, later _, open_⟩
  | result => exact .inr ⟨running, ahead, task, fields, behind, waits, open_⟩
  | enter idle =>
      rw [idle] at waits
      simp at waits
  | skip stopped => cases stopped.symm.trans running
  | answer _ first sent =>
      rcases stands first with ⟨-, same⟩ | ⟨between, split, same⟩
      · cases same
        exact .inl ⟨sent, List.mem_append_right _ (List.mem_singleton_self _)⟩
      · exact .inr ⟨running, advances split same⟩
  | close first =>
      rcases stands first with ⟨-, same⟩ | ⟨between, split, -⟩
      · cases same
      · rw [split] at open_
        exact absurd (List.mem_cons_self ..) open_
  | pass first other =>
      rcases stands first with ⟨-, same⟩ | ⟨between, split, same⟩
      · exact absurd same (other call task fields)
      · exact .inr ⟨running, advances split same⟩

/-- A call that is doomed stays so. -/
theorem Change.dooms (change : Change m n) (doomed : m.Doomed call) : n.Doomed call := by
  obtain ⟨unanswered, waits⟩ := doomed
  have later : ∀ more : List Input, m.running = true → ∃ ahead behind,
      m.inbox ++ more = ahead ++ .close :: behind ∧
        ∀ task fields, .send call task fields ∉ ahead := by
    intro more running
    obtain ⟨ahead, behind, stands, absent⟩ := waits running
    refine ⟨ahead, behind ++ more, ?_, absent⟩
    rw [stands, List.append_assoc, List.cons_append]
  have stands : ∀ {input : Input} {rest : List Input}, m.inbox = input :: rest →
      m.running = true → input = .close ∨ (∀ task fields, input ≠ .send call task fields) ∧
        ∃ ahead behind, rest = ahead ++ .close :: behind ∧
          ∀ task fields, .send call task fields ∉ ahead := by
    intro input rest first running
    obtain ⟨ahead, behind, stands, absent⟩ := waits running
    rw [first] at stands
    cases ahead with
    | nil => exact .inl (List.cons.inj stands).1
    | cons head between =>
        obtain ⟨rfl, same⟩ := List.cons.inj stands
        refine .inr ⟨fun task fields same => ?_, between, behind, same, ?_⟩
        · exact absent task fields (List.mem_cons.2 (.inl same.symm))
        · intro task fields member
          exact absent task fields (List.mem_cons_of_mem _ member)
  cases change with
  | arrive input => exact ⟨unanswered, later _⟩
  | call => exact ⟨unanswered, later _⟩
  | result => exact ⟨unanswered, waits⟩
  | enter idle =>
      refine ⟨unanswered, fun running => ?_⟩
      obtain ⟨ahead, behind, stands, -⟩ := waits running
      rw [idle] at stands
      simp at stands
  | skip stopped =>
      refine ⟨unanswered, fun running => ?_⟩
      cases stopped.symm.trans running
  | @answer other task fields rest running first sent =>
      obtain ⟨different, still⟩ := (stands first running).resolve_left nofun
      refine ⟨?_, fun _ => still⟩
      rintro ⟨passed, member⟩
      rcases List.mem_append.1 member with old | new
      · exact unanswered ⟨passed, old⟩
      · cases List.mem_singleton.1 new
        exact different task fields rfl
  | close first => exact ⟨unanswered, nofun⟩
  | pass first other open_ =>
      refine ⟨unanswered, fun running => ?_⟩
      exact ((stands first running).resolve_left open_).2

theorem Change.numbers (change : Change m n) (numbered : m.Numbered) : n.Numbered := by
  obtain ⟨inbox, results, answers⟩ := numbered
  have shorter : ∀ {input : Input} {rest : List Input}, m.inbox = input :: rest →
      ∀ call task fields, .send call task fields ∈ rest → call < m.calls := by
    intro input rest first call task fields member
    refine inbox call task fields ?_
    rw [first]
    exact List.mem_cons_of_mem _ member
  cases change with
  | arrive input other =>
      refine ⟨fun call task fields member => ?_, results, answers⟩
      rcases List.mem_append.1 member with old | new
      · exact inbox call task fields old
      · exact absurd (List.mem_singleton.1 new).symm (other call task fields)
  | call task fields =>
      refine ⟨fun call task fields member => ?_, results, fun call answered => ?_⟩
      · rcases List.mem_append.1 member with old | new
        · exact Nat.lt_succ_of_lt (inbox call task fields old)
        · cases List.mem_singleton.1 new
          exact Nat.lt_succ_self _
      · exact Nat.lt_succ_of_lt (answers call answered)
  | result attempt manual reply =>
      refine ⟨inbox, fun call task fields member => ?_, answers⟩
      rcases List.mem_append.1 member with old | new
      · exact results call task fields old
      · cases List.mem_singleton.1 new
  | @enter result rest idle waits =>
      refine ⟨fun call task fields member => ?_, fun call task fields member => ?_, answers⟩
      · rw [waits] at results
        refine absurd ?_ (results call task fields)
        rw [List.mem_singleton.1 member]
        exact List.mem_cons_self ..
      · rw [waits] at results
        exact results call task fields (List.mem_cons_of_mem _ member)
  | skip _ first => exact ⟨shorter first, results, answers⟩
  | @answer call task fields rest _ first sent =>
      refine ⟨shorter first, results, ?_⟩
      rintro other ⟨passed, member⟩
      rcases List.mem_append.1 member with old | new
      · exact answers other ⟨passed, old⟩
      · cases List.mem_singleton.1 new
        refine inbox call task fields ?_
        rw [first]
        exact List.mem_cons_self ..
  | close first => exact ⟨shorter first, results, answers⟩
  | pass first => exact ⟨shorter first, results, answers⟩

theorem Change.books (change : Change m n) (booked : m.Booked) : n.Booked := by
  intro running call made
  cases change with
  | arrive input other =>
      refine (booked running call made).imp_right ?_
      rintro ⟨task, fields, member⟩
      exact ⟨task, fields, List.mem_append_left _ member⟩
  | call task fields =>
      rcases Nat.lt_succ_iff_lt_or_eq.1 made with before | rfl
      · refine (booked running call before).imp_right ?_
        rintro ⟨task, fields, member⟩
        exact ⟨task, fields, List.mem_append_left _ member⟩
      · exact .inr ⟨task, fields, List.mem_append_right _ (List.mem_singleton_self _)⟩
  | result => exact booked running call made
  | enter idle =>
      refine .inl ((booked running call made).resolve_right ?_)
      rintro ⟨task, fields, member⟩
      rw [idle] at member
      cases member
  | skip stopped => cases stopped.symm.trans running
  | @answer _ _ _ rest _ first sent =>
      rcases booked running call made with ⟨passed, member⟩ | ⟨task, fields, member⟩
      · exact .inl ⟨passed, List.mem_append_left _ member⟩
      · rw [first] at member
        rcases List.mem_cons.1 member with same | later
        · cases same
          exact .inl ⟨sent, List.mem_append_right _ (List.mem_singleton_self _)⟩
        · exact .inr ⟨task, fields, later⟩
  | close => cases running
  | pass first other =>
      refine (booked running call made).imp_right ?_
      rintro ⟨task, fields, member⟩
      rw [first] at member
      refine ⟨task, fields, (List.mem_cons.1 member).resolve_left fun same => ?_⟩
      exact other call task fields same.symm

/-- A call that is made behind a close is doomed. -/
theorem Numbered.dooms (numbered : m.Numbered) (closed : .close ∈ m.inbox) (task : String)
    (fields : List (String × String)) : (m.made task fields).Doomed m.calls := by
  refine ⟨fun answered => Nat.lt_irrefl _ (numbered.answers _ answered), fun _ => ?_⟩
  obtain ⟨ahead, behind, split⟩ := List.append_of_mem closed
  refine ⟨ahead, behind ++ [.send m.calls task fields], ?_, fun task fields member => ?_⟩
  · show m.inbox ++ _ = _
    rw [split, List.append_assoc, List.cons_append]
  · have stands : .send m.calls task fields ∈ m.inbox := by
      rw [split]
      exact List.mem_append_left _ member
    exact Nat.lt_irrefl _ (numbered.inbox _ task fields stands)

/-- A call that is made otherwise is heeded. -/
theorem heeds_call (running : m.running = true) (open_ : .close ∉ m.inbox) (task : String)
    (fields : List (String × String)) : (m.made task fields).Heeded m.calls :=
  .inr ⟨running, m.inbox, task, fields, [], rfl, open_⟩

/-- With nothing left in the inbox, a call that is heeded was answered. -/
theorem Heeded.answered (heeded : m.Heeded call) (idle : m.inbox = []) : m.Answered call := by
  refine heeded.resolve_right ?_
  rintro ⟨-, ahead, task, fields, behind, waits, -⟩
  rw [idle] at waits
  simp at waits

theorem Course.keeps {P : Mail → Prop} (course : Course m n)
    (change : ∀ {m n}, Change m n → P m → P n) (held : P m) : P n := by
  induction course with
  | refl => exact held
  | tail _ next ih => exact change next ih

end Changes
end Mail

/-! ## The mail of a rehearsal -/

namespace Rehearsal

open Session Mail

def mail (r : Rehearsal) : Mail where
  running := r.session.running
  inbox := r.inbox
  results := r.results
  calls := r.calls
  answers := r.answers

theorem outcome_none {r : Rehearsal} {call : Nat} :
    r.outcome call = none ↔ ¬r.mail.Answered call := by
  unfold outcome Mail.Answered
  rw [Option.map_eq_none_iff, List.find?_eq_none]
  constructor
  · rintro missing ⟨sent, member⟩
    exact missing _ member (beq_self_eq_true call)
  · intro unanswered answer member same
    obtain rfl := beq_iff_eq.1 same
    exact unanswered ⟨answer.2, member⟩

/-- The results are ends of requests. -/
def Ends (results : List Input) : Prop :=
  ∀ result ∈ results, ∃ attempt manual reply, result = .resolved attempt manual reply

/-- An effect answers a send, or has a result come in, or leaves the mail alone. -/
theorem absorb_mail (r : Rehearsal) (effect : Effect) :
    ∃ more, Ends more ∧
      (r.absorb effect).mail =
        { r.mail with
          results := r.results ++ more
          answers := r.answers ++ effect.answered.toList } := by
  have quiet : r.mail = { r.mail with results := r.results ++ [], answers := r.answers ++ [] } := by
    rw [List.append_nil, List.append_nil]
    rfl
  cases effect with
  | answer call sent =>
      refine ⟨[], nofun, ?_⟩
      rw [List.append_nil]
      rfl
  | request attempt manual instanceId =>
      unfold absorb
      dsimp only
      split
      · rename_i reply rest _
        refine ⟨[.resolved attempt manual reply], ?_, ?_⟩
        · intro result member
          exact ⟨attempt, manual, reply, List.mem_singleton.1 member⟩
        · rw [show (Effect.request attempt manual instanceId).answered.toList = [] from rfl,
            List.append_nil]
          rfl
      · exact ⟨[], nofun, quiet⟩
  | event event =>
      unfold absorb
      dsimp only
      split <;> exact ⟨[], nofun, quiet⟩
  | _ => exact ⟨[], nofun, quiet⟩

theorem foldl_absorb_mail (r : Rehearsal) (effects : List Effect) :
    ∃ more, Ends more ∧
      (effects.foldl absorb r).mail =
        { r.mail with
          results := r.results ++ more
          answers := r.answers ++ effects.filterMap Effect.answered } := by
  induction effects generalizing r with
  | nil =>
      refine ⟨[], nofun, ?_⟩
      rw [List.filterMap_nil, List.append_nil, List.append_nil]
      rfl
  | cons effect effects ih =>
      obtain ⟨first, ends, same⟩ := r.absorb_mail effect
      obtain ⟨later, endsLater, whole⟩ := ih (r.absorb effect)
      have results : (r.absorb effect).results = r.results ++ first := congrArg Mail.results same
      have answers : (r.absorb effect).answers = r.answers ++ effect.answered.toList :=
        congrArg Mail.answers same
      refine ⟨first ++ later, fun result member => ?_, ?_⟩
      · exact (List.mem_append.1 member).elim (ends result) (endsLater result)
      · have told : (effect :: effects).filterMap Effect.answered =
            effect.answered.toList ++ effects.filterMap Effect.answered := by
          cases answered : effect.answered <;> simp [answered]
        rw [List.foldl_cons, whole, same, results, answers, told, List.append_assoc,
          List.append_assoc]

/-- Results that come in. -/
theorem ends_course (m : Mail) {more : List Input} (ends : Ends more) :
    Course m { m with results := m.results ++ more } := by
  induction more generalizing m with
  | nil => rw [List.append_nil]
  | cons result more ih =>
      obtain ⟨attempt, manual, reply, rfl⟩ := ends result (List.mem_cons_self ..)
      have rest := ih { m with results := m.results ++ [.resolved attempt manual reply] }
        fun other member => ends other (List.mem_cons_of_mem _ member)
      rw [List.append_assoc] at rest
      exact .head (.result attempt manual reply) rest

/-- What a session makes of the first input is one change. -/
theorem beat_changes {r : Rehearsal} {past : List Beat} (life : Life r.setup.config past r.session)
    (turn : Turn) {rest : List Input} (first : r.inbox = turn.input :: rest) :
    Change r.mail
      { r.mail with
        running := (r.session.beat r.setup.config turn).after.running
        inbox := rest
        answers := r.answers ++ (r.session.beat r.setup.config turn).answers } := by
  cases running : r.session.running with
  | false =>
      obtain ⟨after, effects⟩ : (r.session.beat r.setup.config turn).after = r.session ∧
          (r.session.beat r.setup.config turn).effects = [] := beat_stopped running turn
      have unanswered : (r.session.beat r.setup.config turn).answers = [] := by
        rw [Beat.answers, effects]
        rfl
      rw [after, unanswered, List.append_nil]
      exact .skip running first
  | true =>
      by_cases closed : turn.input = .close
      · have unanswered : (r.session.beat r.setup.config turn).answers = [] :=
          beat_unanswered life fun call task fields => by rw [closed]; simp
        rw [beat_close life running closed, unanswered, List.append_nil]
        rw [closed] at first
        exact .close first
      · rw [running_after life closed]
        by_cases sends : ∃ call task fields, turn.input = .send call task fields
        · obtain ⟨call, task, fields, called⟩ := sends
          obtain ⟨sent, answers⟩ := beat_answers life running called
          rw [answers]
          rw [called] at first
          exact .answer running first sent
        · have other : ∀ call task fields, turn.input ≠ .send call task fields :=
            fun call task fields called => sends ⟨call, task, fields, called⟩
          rw [beat_unanswered life other, List.append_nil]
          exact .pass first other closed

theorem tick_changes {setup : Setup} {r after : Rehearsal} (staged : Staged setup r) {limit : Nat}
    (ticks : r.tick limit = some after) : Course r.mail after.mail := by
  cases ticked_of_tick ticks with
  | @handle input rest first =>
      obtain ⟨rfl, -, past, line⟩ := staged
      have change := beat_changes line.life (Rehearsal.turn { r with inbox := rest } input) first
      obtain ⟨more, ends, after⟩ := foldl_absorb_mail
        { r with inbox := rest, session := (r.session.beat r.setup.config (r.turn input)).after }
        (r.session.beat r.setup.config (r.turn input)).effects
      have whole : (Rehearsal.handle { r with inbox := rest } input).mail = _ := after
      rw [whole]
      exact .head change (ends_course _ ends)
  | answer idle waits => exact .single (.enter idle waits)
  | @ring due timer ticket first rest idle =>
      have arrives : Change r.mail
          { r.mail with inbox := r.mail.inbox ++ [.expired timer ticket] } :=
        .arrive (.expired timer ticket) fun _ _ _ => nofun
      rw [show r.mail.inbox = [] from idle] at arrives
      exact .single arrives

section Commands

variable {setup : Setup} {r : Rehearsal}

theorem runUntil_changes (staged : Staged setup r) (limit : Nat) :
    Course r.mail (r.runUntil limit).mail := by
  have both : Staged setup (r.runUntil limit) ∧ Course r.mail (r.runUntil limit).mail :=
    runFor_keeps (P := fun after => Staged setup after ∧ Course r.mail after.mail)
      (fun _ _ before ticks =>
        ⟨before.1.tick ticks, before.2.trans (tick_changes before.1 ticks)⟩)
      r.work ⟨staged, .refl⟩
  exact both.2

theorem submit_changes {input : Input}
    (other : ∀ call task fields, input ≠ .send call task fields) :
    Course r.mail (r.submit input).1.mail := by
  unfold submit
  split
  · exact .single (.arrive input other)
  · exact .refl

theorem fire_changes (transport : Option Nat) (change : Puppet → Puppet) (event : TransportEvent) :
    Course r.mail (r.fire transport change event).1.mail := by
  unfold fire
  dsimp only
  split
  · exact .refl
  · dsimp only
    split
    · exact .single (.arrive (.transport (r.target transport) event) fun _ _ _ => nofun)
    · exact .refl

/-- What a command does to the mail. -/
theorem act_changes (staged : Staged setup r) (command : Command) :
    Course r.mail (r.act command).1.mail := by
  cases command with
  | init | reconnect | close => exact submit_changes fun _ _ _ => nofun
  | send task fields =>
      unfold act
      dsimp only
      split
      · exact .single (.call task fields)
      · exact .refl
  | opened | message | down | breakDown => exact fire_changes ..
  | force transport event =>
      unfold act
      dsimp only
      split
      · split
        · exact .single (.arrive (.transport (r.target transport) event) fun _ _ _ => nofun)
        · exact .refl
      · exact .refl
  | prepare | dropEvents => exact .refl
  | resolve number reply =>
      unfold act
      dsimp only
      split
      · rename_i asked _
        split
        · split
          · exact .single (.result asked.attempt asked.manual reply)
          · exact .refl
        · exact .refl
      · exact .refl
  | advance ms => exact runUntil_changes staged (r.clock.now + ms)

theorem actAll_changes (staged : Staged setup r) (commands : List Command) :
    Course r.mail (r.actAll commands).1.mail := by
  induction commands generalizing r with
  | nil => exact .refl
  | cons command commands ih =>
      exact (act_changes staged command).trans (ih (staged.act command))

theorem actAll_append (r : Rehearsal) (first rest : List Command) :
    (r.actAll (first ++ rest)).1 = ((r.actAll first).1.actAll rest).1 := by
  induction first generalizing r with
  | nil => rfl
  | cons command first ih => exact ih (r.act command).1

/-- What one batch after the other does to the mail. -/
theorem plays_changes (staged : Staged setup r) (batches : List (List Command)) :
    Course r.mail (batches.foldl (fun r commands => (r.play commands).1) r).mail := by
  induction batches generalizing r with
  | nil => exact .refl
  | cons commands batches ih =>
      have queued := staged.actAll commands
      have calmed := runUntil_changes queued (r.actAll commands).1.clock.now
      exact (actAll_changes staged commands).trans
        (calmed.trans (ih (queued.runUntil (r.actAll commands).1.clock.now)))

end Commands

/-! ## The answer to a call -/

/-- The mail of every rehearsal is in order. -/
theorem mail_in_order (setup : Setup) (batches : List (List Command)) :
    (plays setup batches).mail.Numbered ∧ (plays setup batches).mail.Booked := by
  have start : Staged setup { setup := setup } := ⟨rfl, nofun, [], .dawn⟩
  have course := plays_changes start batches
  refine ⟨course.keeps Change.numbers ⟨nofun, nofun, ?_⟩, course.keeps Change.books ?_⟩
  · rintro call ⟨sent, member⟩
    cases member
  · intro _ call made
    cases made

/-- The rehearsal in the midst of a batch: `first` was carried out, and nothing was let run. -/
def midst (setup : Setup) (batches : List (List Command)) (first : List Command) : Rehearsal :=
  ((plays setup batches).actAll first).1

/-- A call that is made while the session runs gets the next number, and waits in the inbox. -/
theorem act_send {r : Rehearsal} (running : r.session.running = true) (task : String)
    (fields : List (String × String)) :
    (r.act (.send task fields)).2 = .inr r.calls ∧
      (r.act (.send task fields)).1.mail = r.mail.made task fields := by
  unfold act
  dsimp only
  rw [if_pos running]
  exact ⟨rfl, rfl⟩

/-- What happens to the mail from a command to the end of a rehearsal. -/
theorem changes_since (setup : Setup) (batches more : List (List Command))
    (first rest : List Command) (command : Command) :
    Course ((midst setup batches first).act command).1.mail
      (plays setup (batches ++ (first ++ command :: rest) :: more)).mail := by
  obtain ⟨staged, -, -⟩ := staged_of_plays setup batches
  have queued : Staged setup ((midst setup batches first).act command).1 :=
    (staged.actAll first).act command
  have last := actAll_changes queued rest
  have filled := queued.actAll rest
  have whole : (((midst setup batches first).act command).1.actAll rest).1 =
      ((plays setup batches).actAll (first ++ command :: rest)).1 :=
    (actAll_append (plays setup batches) first (command :: rest)).symm
  rw [whole] at last filled
  rw [plays, List.foldl_append, List.foldl_cons]
  exact last.trans ((runUntil_changes filled _).trans (plays_changes (filled.runUntil _) more))

/-- **A send is answered, unless a close stands before it.**  A session that has stopped answers
false at once.  A call to one that runs is answered by the time all is calm, unless a close stood
in the inbox when the call was made; then it never is.  So as long as the session runs, every call
made so far was answered whenever all is calm. -/
theorem answered_unless_behind_close (setup : Setup) (batches more : List (List Command))
    (first rest : List Command) (task : String) (fields : List (String × String)) :
    ((midst setup batches first).session.running = false →
      ((midst setup batches first).act (.send task fields)).2 = .inl (.sent (some false))) ∧
    ((midst setup batches first).session.running = true →
      ((midst setup batches first).act (.send task fields)).2 =
          .inr (midst setup batches first).calls ∧
        ((plays setup (batches ++ (first ++ .send task fields :: rest) :: more)).outcome
            (midst setup batches first).calls = none ↔
          .close ∈ (midst setup batches first).inbox)) ∧
    ((plays setup batches).session.running = true →
      ∀ call < (plays setup batches).calls, (plays setup batches).outcome call ≠ none) := by
  refine ⟨fun stopped => ?_, fun running => ?_, fun running call made => ?_⟩
  · unfold act
    dsimp only
    rw [if_neg (Bool.eq_false_iff.1 stopped)]
  · obtain ⟨number, made⟩ := act_send running task fields
    obtain ⟨staged, -, -⟩ := staged_of_plays setup batches
    have numbered : (midst setup batches first).mail.Numbered :=
      (actAll_changes staged first).keeps Change.numbers (mail_in_order setup batches).1
    have course := changes_since setup batches more first rest (.send task fields)
    rw [made] at course
    obtain ⟨-, calm, -⟩ :=
      staged_of_plays setup (batches ++ (first ++ .send task fields :: rest) :: more)
    refine ⟨number, ?_⟩
    rw [outcome_none]
    -- What comes later keeps a call behind a close doomed, and any other call heeded.
    by_cases closed : .close ∈ (midst setup batches first).inbox
    · have doomed := course.keeps Change.dooms (numbered.dooms closed task fields)
      exact iff_of_true doomed.1 closed
    · have heeded := course.keeps Change.heeds (heeds_call running closed task fields)
      exact iff_of_false (not_not_intro (heeded.answered calm.1)) closed
  · obtain ⟨-, calm, -⟩ := staged_of_plays setup batches
    have idle : (plays setup batches).mail.inbox = [] := calm.1
    rw [Ne, outcome_none, not_not]
    refine ((mail_in_order setup batches).2 running call made).resolve_right ?_
    rintro ⟨task, fields, member⟩
    rw [idle] at member
    cases member

/-- A close and a task stand in the inbox together. -/
def lateTask : List (List Command) := [[.close, .send "echo" []]]

/-- The task is left without an answer, though all is calm. -/
theorem send_behind_close_pending :
    ¬∀ (setup : Setup) (batches : List (List Command)),
      ∀ call < (plays setup batches).calls, (plays setup batches).outcome call ≠ none := by
  intro answered
  have pending : (plays {} lateTask).calls = 1 ∧ (plays {} lateTask).outcome 0 = none := by
    decide +kernel
  refine answered {} lateTask 0 ?_ pending.2
  rw [pending.1]
  exact Nat.one_pos

end Rehearsal

end Tether
