/-
# Tether.Proofs.Network.Channel -- what a polling transport promises

A transport runs alone on a network whose errands come in any order, and whatever the server
answers.  What the caller and the server see of it is read off its history: what it heard of its
requests, which frames it took, and whether it opened and ended.

The sink is the caller's too.  Where events are promised it is left to the transport until that
has ended (`Attached`); where times are, the run is prompt (`Timely`).

* `frames_in_order` -- every frame that a poll brings comes out once and in order.
* `posted_in_turn` -- the frames that were taken are posted in order, one at a time.
* `lifecycle` -- Open, then frames, then at most one failure; and after the end nothing.
-/
import Tether.Proofs.Network.Deadlines

set_option autoImplicit false

namespace Tether.Network

open LongPoll (Beat Call Ended Job Opened Options assigned events frames mailed posted replies taken)

/-! ## What is in flight -/

/-- The requests of a job that wait for their answers. -/
def waiting (n : Network) (line : Nat) (job : Job) : List Request :=
  n.exchange.entries.filter fun request =>
    request.owner = .job line job ∧ request.standing = .waiting

theorem length_waiting_le (n : Network) (line : Nat) (job : Job) :
    (n.waiting line job).length ≤ (n.docket line).flights job := by
  unfold waiting
  rw [← List.countP_eq_length_filter]
  refine List.countP_mono_left fun request _ waits => ?_
  simp only [decide_eq_true_eq] at waits
  simp [isHeld, waits]

/-- Where no errand is left, all that was neither taken nor given up waits for its answer. -/
theorem length_waiting {moves : List Move} (calm : (after moves).errands = []) (line : Nat)
    (job : Job) :
    ((after moves).waiting line job).length = ((after moves).docket line).flights job := by
  unfold waiting
  rw [← List.countP_eq_length_filter]
  refine List.countP_congr fun request there => ?_
  simp only [isHeld, decide_eq_true_eq]
  refine and_congr_right fun _ => ⟨?_, waiting_of_calm calm there⟩
  intro waits
  simp [waits]

/-! ## Frames that are received -/

def message? : TransportEvent → Option String
  | .message frame => some frame
  | .opened | .closed | .failed => none

section Solo

variable (options : Options) (moves : List Move)

/-- The events that a transport reports: Open, frames, and a failure. -/
theorem shape_solo (attached : Attached 0 (solo options moves)) :
    ∃ stem tail, delivered 0 (solo options moves) = stem ++ tail ∧
      (stem = [] ∧ frames (history 0 (solo options moves)) = [] ∨
        stem = .opened :: (frames (history 0 (solo options moves))).map .message) ∧
      (tail = [] ∨ tail = [.failed]) := by
  obtain ⟨t, built⟩ := conduct_solo options moves
  have told := (own_solo options moves attached).told
  have tale := built.conduct.tale
  rw [told]
  cases phase : t.phase with
  | fresh | opening =>
      rw [phase] at tale
      exact ⟨[], [], tale.1, .inl ⟨rfl, tale.2⟩, .inl rfl⟩
  | live =>
      rw [phase] at tale
      exact ⟨_, [], (List.append_nil _).symm ▸ tale, .inr rfl, .inl rfl⟩
  | ended =>
      rw [phase] at tale
      obtain ⟨stem, tail, whole, said, last⟩ := tale
      exact ⟨stem, tail, whole, said, last⟩

/-- **Frames come out complete and in order**: what comes out are the frames that the answers to the
polls brought, in the order of the answers, and Open before them; and each is reported right after
the next poll was posted.  No answer is lost: where no errand is left, a transport that goes on has
heard of every poll that it posted, but of the one that is in flight. -/
theorem frames_in_order (attached : Attached 0 (solo options moves)) :
    (delivered 0 (solo options moves)).filterMap message? =
        (replies .polling (history 0 (solo options moves))).filterMap LongPoll.frame? ∧
      (∀ early frame late, delivered 0 (solo options moves) = early ++ .message frame :: late →
        .opened ∈ early) ∧
      LongPoll.Throughout (LongPoll.Ahead options) (history 0 (solo options moves)) ∧
      ((after (solo options moves)).errands = [] → ¬Ended (history 0 (solo options moves)) →
        ((after (solo options moves)).polls 0).length =
          (replies .polling (history 0 (solo options moves))).length +
            ((after (solo options moves)).waiting 0 .polling).length) ∧
      (Timely (solo options moves) → Punctual 0 options (solo options moves)) := by
  obtain ⟨t, built⟩ := conduct_solo options moves
  obtain ⟨stem, tail, whole, said, last⟩ := shape_solo options moves attached
  refine ⟨?_, ?_, built.conduct.ahead, fun calm going => ?_, punctual_solo options moves⟩
  · have failure : tail.filterMap message? = [] := by
      rcases last with rfl | rfl <;> rfl
    rw [whole, List.filterMap_append, failure, List.append_nil]
    rcases said with ⟨rfl, none⟩ | rfl
    · exact none.symm
    · rw [List.filterMap_cons_none rfl, List.filterMap_map]
      have same : message? ∘ TransportEvent.message = some := rfl
      rw [same, List.filterMap_some]
      rfl
  · intro early frame late split
    rw [whole] at split
    -- The tail alone tells of the end and holds no message.
    rcases said with ⟨rfl, -⟩ | rfl
    · have told : .message frame ∈ tail := by
        rw [List.nil_append] at split
        simp [split]
      rcases last with rfl | rfl <;> simp at told
    · cases early with
      | nil => simp at split
      | cons first early =>
          have first_ : first = .opened := by
            simp only [List.cons_append, List.cons.injEq] at split
            exact split.1.symm
          simp [first_]
  · rw [polls_history, length_waiting calm]
    exact built.conduct.fits.heard going

def plain : Options := { sendUrl := "send", pollUrl := "poll" }

/-- A transport opens, its first poll brings a frame after a while, and it is reset. -/
def oneFrame : List Move :=
  [.start 0, .errand 0, .answer (.path "send") (.response (.ofBody "u&a".toUTF8.toList)), .errand 0,
    .errand 0, .wait 10, .answer (.path "poll") (.response (.ofBody "b&hello".toUTF8.toList)),
    .errand 0, .fetch, .reset 0]

/-- The frame comes out, in time. -/
theorem one_frame_out :
    Attached 0 (solo plain oneFrame) ∧
      (delivered 0 (solo plain oneFrame)).filterMap message? = ["hello"] ∧
      Punctual 0 plain (solo plain oneFrame) := by
  have attached : Attached 0 (solo plain oneFrame) := by decide +kernel
  have timely : Timely (solo plain oneFrame) := by decide +kernel
  have brought : (replies .polling (history 0 (solo plain oneFrame))).filterMap LongPoll.frame? =
      ["hello"] := by decide +kernel
  obtain ⟨came, -, -, -, punctual⟩ := frames_in_order plain oneFrame attached
  exact ⟨attached, came.trans brought, punctual timely⟩

/-! ## Frames that are sent -/

def toSend (options : Options) (body : String) : Http.Request where
  url := options.sendUrl
  headers := Http.plainText
  body := body

/-- **Frames are posted in order, one at a time.**  What goes to the send endpoint is `init`, and
then the first of the frames that were taken, under the id of the transport; one request is in
flight at most, and each frame goes out after the ones before it were accepted.  Where nothing is
left to do and every request was answered, all frames that were taken went out, unless the
transport has ended. -/
theorem posted_in_turn :
    (∃ done, done <+: taken (history 0 (solo options moves)) ∧
      (((after (solo options moves)).letters 0).filterMap LongPoll.mail? = [] ∧ done = [] ∨
        ((after (solo options moves)).letters 0).filterMap LongPoll.mail? =
          toSend options "init" :: done.map fun frame =>
            toSend options ((assigned (history 0 (solo options moves))).getD "" ++ "&" ++ frame)) ∧
      ((after (solo options moves)).errands = [] → ¬Ended (history 0 (solo options moves)) →
        (after (solo options moves)).waiting 0 .sending = [] →
          done = taken (history 0 (solo options moves)))) ∧
      ((after (solo options moves)).waiting 0 .opening).length +
        ((after (solo options moves)).waiting 0 .sending).length ≤ 1 ∧
      LongPoll.Throughout LongPoll.InTurn (history 0 (solo options moves)) ∧
      (Timely (solo options moves) → Punctual 0 options (solo options moves)) := by
  obtain ⟨t, built⟩ := conduct_solo options moves
  obtain ⟨done, kept⟩ := built.conduct.mails.kept
  have letters : ((after (solo options moves)).letters 0).filterMap LongPoll.mail? =
      mailed (history 0 (solo options moves)) := by
    rw [letters_solo]
    rfl
  have mail (done : List String) : t.mail done =
      toSend options "init" :: done.map fun frame =>
        toSend options ((assigned (history 0 (solo options moves))).getD "" ++ "&" ++ frame) := by
    rw [← built.conduct.named, ← built.conduct.steady]
    rfl
  refine ⟨?_, ?_, built.conduct.inTurn, punctual_solo options moves⟩
  · rw [letters]
    simp only [← mail]
    -- Once everything is answered, all that was taken is posted; until then, a part of it is.
    by_cases all : (after (solo options moves)).errands = [] ∧
        ¬Ended (history 0 (solo options moves)) ∧ (after (solo options moves)).waiting 0 .sending = []
    · obtain ⟨calm, going, answered⟩ := all
      have idle : ((after (solo options moves)).docket 0).wakes .sending = 0 := by
        simp [docket, calm]
      have empty : ((after (solo options moves)).docket 0).flights .sending = 0 := by
        rw [← length_waiting calm, answered]
        rfl
      have alive : t.phase ≠ .ended := mt built.conduct.fits.ended_iff.1 going
      refine ⟨taken (history 0 (solo options moves)), List.prefix_refl _, ?_, fun _ _ _ => rfl⟩
      rcases built.conduct.mails.posted_all alive idle empty with ⟨-, posted⟩ | ⟨-, none⟩
      · exact .inr posted
      · have before := kept.taken
        rw [none] at before ⊢
        have nothing : done = [] := List.prefix_nil.1 before
        subst nothing
        exact kept.mailed
    · refine ⟨done, kept.taken, kept.mailed, fun calm going answered => ?_⟩
      exact absurd ⟨calm, going, answered⟩ all
  · have opening := length_waiting_le (after (solo options moves)) 0 .opening
    have sending := length_waiting_le (after (solo options moves)) 0 .sending
    have single : ((after (solo options moves)).docket 0).flights .opening +
        ((after (solo options moves)).docket 0).flights .sending ≤ 1 := kept.single
    omega

/-! ## The end -/

/-- What holds of a transport that has ended, whatever happens to it: `first` is the run up to
then, and `last` what happens later. -/
structure Over (options : Options) (first last : List Move) : Prop where
  letters : (after (solo options (first ++ last))).letters 0 = (after (solo options first)).letters 0
  events : delivered 0 (solo options (first ++ last)) = delivered 0 (solo options first)
  /-- No call changes anything: a reset detaches the sink and gives the requests up once more. -/
  beats : ∀ beat ∈ historyFrom 0 (after (solo options first)) last,
    beat.after = beat.before ∧ beat.acts = if beat.call = .reset then [.detach, .release] else []
  start : (after (solo options (first ++ last))).start 0 = after (solo options (first ++ last))
  /-- Its requests are given up, or about to be. -/
  dropped : .release 0 ∈ (after (solo options (first ++ last))).errands ∨
    ∀ job, (after (solo options (first ++ last))).waiting 0 job = []
  closed : ∀ frame, ((after (solo options (first ++ last))).send 0 frame).1 = some .closed

/-- The transport is there until it is dropped. -/
theorem carrier_solo {t : LongPoll}
    (built : Built options (history 0 (solo options moves)) ((after (solo options moves)).view 0) t) :
    (after (solo options moves)).carrier? 0 = some (.polling t) ∨
      (after (solo options moves)).carrier? 0 = none ∧ t.phase = .ended := by
  rcases built.stays with here | ⟨absent, ended⟩
  · exact .inl (poller?_eq_some.1 here)
  · refine .inr ⟨?_, ended⟩
    cases found : (after (solo options moves)).carrier? 0 with
    | none => rfl
    | some carrier =>
        cases carrier with
        | persistent ws => exact absurd ⟨ws, found⟩ (polling_solo options moves)
        | polling other =>
            have here : ((after (solo options moves)).view 0).poller = some other :=
              poller?_eq_some.2 found
            rw [absent] at here
            cases here

/-- What becomes of a frame that is handed over: it is taken while the transport is open. -/
theorem send_solo (frame : String) :
    ((after (solo options moves)).send 0 frame).1 =
      if Ended (history 0 (solo options moves)) then some .closed
      else if Opened (history 0 (solo options moves)) then none else some .notOpen := by
  obtain ⟨t, built⟩ := conduct_solo options moves
  have fits := built.conduct.fits
  have past := fits.ended_iff
  have live := fits.live_iff
  unfold send
  rcases carrier_solo options moves built with carrier | ⟨carrier, ended⟩
  · rw [carrier]
    cases phase : t.phase with
    | fresh | opening =>
        have shut : ¬Opened (history 0 (solo options moves)) := by
          simp only [LongPoll.Fits, phase] at fits
          exact fits.1.shut
        have going : ¬Ended (history 0 (solo options moves)) := by
          simp [← past, phase]
        simp [LongPoll.send, phase, shut, going]
    | live =>
        obtain ⟨opened, going⟩ := live.1 phase
        simp [LongPoll.send, phase, opened, going]
    | ended => simp [LongPoll.send, phase, past.1 phase]
  · rw [carrier, if_pos (past.1 ended)]

theorem ended_append {early late : List Beat} (ended : Ended early) : Ended (early ++ late) := by
  obtain ⟨beat, there, ends⟩ := ended
  exact ⟨beat, List.mem_append_left _ there, ends⟩

/-- Beats after the end do nothing that is seen. -/
theorem hushed_append {early late : List Beat} (ended : Ended early)
    (hushed : LongPoll.Throughout LongPoll.Hushed (early ++ late)) :
    ∀ beat ∈ late,
      beat.after = beat.before ∧ beat.acts = if beat.call = .reset then [.detach, .release] else [] := by
  intro beat there
  obtain ⟨first, last, rfl⟩ := List.append_of_mem there
  refine hushed (early ++ first) beat ?_ (ended_append ended)
  exact ⟨last, by simp⟩

theorem posted_append (early : List Beat) {late : List Beat}
    (quiet : ∀ beat ∈ late, beat.after = beat.before ∧
      beat.acts = if beat.call = .reset then [.detach, .release] else []) :
    posted (early ++ late) = posted early ∧ events (early ++ late) = events early := by
  induction late using List.reverseRecOn with
  | nil => simp
  | append_singleton late beat ih =>
      obtain ⟨letters, told⟩ := ih fun other there => quiet other (List.mem_append_left _ there)
      have acted := (quiet beat (List.mem_append_right _ (List.mem_singleton_self _))).2
      rw [← List.append_assoc, LongPoll.posted_concat, LongPoll.events_concat, letters, told, acted]
      constructor <;> split <;> simp [LongPoll.Act.posted?, LongPoll.Act.event?]

theorem over_solo (first last : List Move) (attached : Attached 0 (solo options (first ++ last)))
    (ended : Ended (history 0 (solo options first))) : Over options first last := by
  obtain ⟨t, built⟩ := conduct_solo options (first ++ last)
  have split : history 0 (solo options (first ++ last)) =
      history 0 (solo options first) ++ historyFrom 0 (after (solo options first)) last :=
    history_append 0 (solo options first) last
  have still : Ended (history 0 (solo options (first ++ last))) := split ▸ ended_append ended
  have past : t.phase = .ended := built.conduct.fits.ended_iff.2 still
  have quiet := hushed_append ended (split ▸ built.conduct.hushed)
  obtain ⟨letters, told⟩ := posted_append (history 0 (solo options first)) quiet
  refine ⟨?_, ?_, quiet, ?_, ?_, ?_⟩
  · rw [letters_solo, letters_solo, split, letters]
  · have before : Attached 0 (solo options first) := fun early move here =>
      attached early move (here.trans (List.prefix_append ..))
    rw [(own_solo options (first ++ last) attached).told, (own_solo options first before).told, split,
      told]
  · rcases carrier_solo options (first ++ last) built with carrier | ⟨carrier, -⟩
    · have idle : t.start = (t, []) := by simp [LongPoll.start, past]
      simp only [start, carrier, idle]
      exact setCarrier_self carrier
    · simp only [start, carrier]
  · have mails := built.conduct.mails
    simp only [LongPoll.Mails, past] at mails
    rcases mails.2 with released | empty
    · exact .inl (by simpa [docket, view] using released)
    · refine .inr fun job => List.eq_nil_of_length_eq_zero (Nat.le_zero.1 ?_)
      exact Nat.le_trans (length_waiting_le _ 0 job) (Nat.le_of_eq (empty job))
  · intro frame
    rw [send_solo, if_pos still]

/-- **The life of a transport**: it reports Open, frames, and at most one failure, or nothing but
the failure; it fails at the first request that errs, is answered outside 2xx, lacks the delimiter
or runs out of time, unless it was reset or dropped before; after the end it does nothing more; and
it takes frames exactly while it is open. -/
theorem lifecycle (attached : Attached 0 (solo options moves)) :
    (∃ stem tail, delivered 0 (solo options moves) = stem ++ tail ∧
      (stem = [] ∨ ∃ frames : List String, stem = .opened :: frames.map .message) ∧
      (tail = [] ∨ tail = [.failed])) ∧
      (.opened ∈ delivered 0 (solo options moves) ↔ Opened (history 0 (solo options moves))) ∧
      (.failed ∈ delivered 0 (solo options moves) ↔
        ∃ beat ∈ history 0 (solo options moves), .emit .failed ∈ beat.acts) ∧
      LongPoll.Throughout LongPoll.FailsFirst (history 0 (solo options moves)) ∧
      (∀ first last, moves = first ++ last → Ended (history 0 (solo options first)) →
        Over options first last) ∧
      (∀ frame, ((after (solo options moves)).send 0 frame).1 =
        if Ended (history 0 (solo options moves)) then some .closed
        else if Opened (history 0 (solo options moves)) then none else some .notOpen) ∧
      (Timely (solo options moves) → Punctual 0 options (solo options moves)) := by
  obtain ⟨t, built⟩ := conduct_solo options moves
  obtain ⟨stem, tail, whole, said, last⟩ := shape_solo options moves attached
  have told := (own_solo options moves attached).told
  refine ⟨⟨stem, tail, whole, ?_, last⟩, ?_, ?_, built.conduct.fails, ?_, send_solo options moves,
    punctual_solo options moves⟩
  · rcases said with ⟨none, -⟩ | story
    · exact .inl none
    · exact .inr ⟨_, story⟩
  · rw [told]
    exact LongPoll.mem_events
  · rw [told]
    exact LongPoll.mem_events
  · rintro first last rfl ended
    exact over_solo options first last attached ended

/-- After the reset no frame is taken. -/
theorem reset_refuses :
    Attached 0 (solo plain oneFrame) ∧ Ended (history 0 (solo plain oneFrame)) ∧
      ((after (solo plain oneFrame)).send 0 "late").1 = some .closed := by
  have attached : Attached 0 (solo plain oneFrame) := by decide +kernel
  have ended : Ended (history 0 (solo plain oneFrame)) := by decide +kernel
  obtain ⟨-, -, -, -, -, sends, -⟩ := lifecycle plain oneFrame attached
  exact ⟨attached, ended, (sends "late").trans (if_pos ended)⟩

end Solo

end Tether.Network
