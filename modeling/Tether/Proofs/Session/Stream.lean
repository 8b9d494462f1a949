/-
# Tether.Proofs.Session.Stream -- the stream of events

The application reads a stream of events.  An opening says that a handshake succeeded:
`ready` the first time, `reconnected` later on.  An ending says that something is over: a
fault, or the order to reload.

    ready  message*  ending+  reconnected  message*  ending+  reconnected  ...

Endings can come before the first opening too, but only faulty handshakes and an exhausted
budget; and openings can follow each other without an ending, for not every failure is
reported.  Within a ready period the messages are the payloads of its frames, one for one
and in order.

A beat reports one of three things (`Report`): an opening, a payload, or endings, of which
there may be none.  That is all of a telling that bears on the stream.

* `Telling.report` -- what a telling reports.
* `Period.link` -- through a ready period the session keeps to one transport.
* `events_delivered` -- the grammar of the stream, and what its events stand for.
-/
import Mathlib.Data.List.Induction
import Tether.Proofs.Session.Tenure
import Tether.Proofs.Session.Tidings

set_option autoImplicit false

namespace Tether

/-! ## Events -/

namespace SessionEvent

def opens : SessionEvent → Bool
  | .ready | .reconnected => true
  | _ => false

def ends : SessionEvent → Bool
  | .fault _ | .reloadRequested => true
  | _ => false

/-- There must have been a first handshake for this. -/
def late : SessionEvent → Bool
  | .reconnected | .message _ | .reloadRequested | .fault (.framing _) => true
  | _ => false

def payload : SessionEvent → Option String
  | .message payload => some payload
  | _ => none

end SessionEvent

def Effect.reported : Effect → Option SessionEvent
  | .event reported => some reported
  | _ => none

/-- The payload in what the server says.  A ping is none, and neither is an empty text. -/
def Word.payload : Word → Option String
  | .frame remainder => if remainder = Frame.ping ∨ remainder.isEmpty = true then none else remainder
  | .welcome => none

/-- Since the last ending there was an opening. -/
def Open (stream : List SessionEvent) : Prop :=
  ∀ first ending rest, stream = first ++ ending :: rest → ending.ends = true →
    ∃ opening ∈ rest, opening.opens = true

structure Grammatical (stream : List SessionEvent) : Prop where
  /-- There is one `ready` at most. -/
  once : stream.count .ready ≤ 1
  /-- It comes before all that needs a first handshake. -/
  after : ∀ first event rest, stream = first ++ event :: rest → event.late = true →
    .ready ∈ first
  /-- After an ending no message comes before the next opening. -/
  silent : ∀ first ending middle payload rest,
    stream = first ++ ending :: (middle ++ .message payload :: rest) → ending.ends = true →
      ∃ opening ∈ middle, opening.opens = true

section Grammar

variable {stream : List SessionEvent} {event : SessionEvent}

/-- A stream with one event more. -/
theorem split_concat {first rest : List SessionEvent} {entry : SessionEvent}
    (split : stream ++ [event] = first ++ entry :: rest) :
    (first = stream ∧ entry = event ∧ rest = []) ∨
      ∃ middle, stream = first ++ entry :: middle ∧ rest = middle ++ [event] := by
  rcases Session.split_append split with ⟨middle, rfl, new⟩ | old
  · cases middle with
    | nil =>
        obtain ⟨rfl, rfl⟩ := List.cons.inj new
        exact .inl ⟨List.append_nil _, rfl, rfl⟩
    | cons head tail => simp at new
  · exact .inr old

theorem Grammatical.nil : Grammatical [] := by
  refine ⟨Nat.zero_le _, ?_, ?_⟩
  · intro first event rest split
    simp at split
  · intro first ending middle payload rest split
    simp at split

theorem Grammatical.concat (grammar : Grammatical stream)
    (once : event = .ready → .ready ∉ stream) (after : event.late = true → .ready ∈ stream)
    (silent : event.payload.isSome = true → Open stream) : Grammatical (stream ++ [event]) := by
  refine ⟨?_, ?_, ?_⟩
  · rw [List.count_append, List.count_singleton]
    split
    · rename_i same
      have absent := List.count_eq_zero.2 (once (beq_iff_eq.1 same))
      omega
    · exact grammar.once
  · intro first entry rest split late
    rcases split_concat split with ⟨rfl, rfl, -⟩ | ⟨middle, old, -⟩
    · exact after late
    · exact grammar.after first entry middle old late
  · intro first ending middle payload rest split ends
    rw [← List.cons_append, ← List.append_assoc] at split
    rcases split_concat split with ⟨same, rfl, -⟩ | ⟨others, old, -⟩
    · exact silent rfl first ending middle same.symm ends
    · rw [List.append_assoc, List.cons_append] at old
      exact grammar.silent first ending middle payload others old ends

theorem Open.concat (opened : Open stream) (spares : event.ends = false) :
    Open (stream ++ [event]) := by
  intro first ending rest split ends
  rcases split_concat split with ⟨-, rfl, -⟩ | ⟨middle, old, rfl⟩
  · cases spares.symm.trans ends
  · obtain ⟨opening, member, opens⟩ := opened first ending middle old ends
    exact ⟨opening, List.mem_append_left _ member, opens⟩

theorem Open.opening (opens : event.opens = true) : Open (stream ++ [event]) := by
  intro first ending rest split ends
  rcases split_concat split with ⟨-, rfl, -⟩ | ⟨middle, -, rfl⟩
  · cases ending <;> cases opens <;> cases ends
  · exact ⟨event, List.mem_append_right _ (List.mem_singleton_self _), opens⟩

/-- Endings can come at any time, if `ready` came before those that need it. -/
theorem Grammatical.endings (grammar : Grammatical stream) (more : List SessionEvent)
    (ends : ∀ event ∈ more, event.ends = true)
    (after : ∀ event ∈ more, event.late = true → .ready ∈ stream) :
    Grammatical (stream ++ more) := by
  induction more generalizing stream with
  | nil =>
      rw [List.append_nil]
      exact grammar
  | cons event more ih =>
      have ending := ends event (List.mem_cons_self ..)
      rw [List.append_cons]
      refine ih (grammar.concat ?_ (after event (List.mem_cons_self ..)) ?_) ?_ ?_
      · rintro rfl
        cases ending
      · intro payload
        cases event <;> cases ending <;> cases payload
      · exact fun other member => ends other (List.mem_cons_of_mem _ member)
      · intro other member late
        exact List.mem_append_left _ (after other (List.mem_cons_of_mem _ member) late)

/-- Endings are no openings. -/
theorem ready_notMem_endings {more : List SessionEvent}
    (ends : ∀ event ∈ more, event.ends = true) : .ready ∉ more := by
  intro member
  cases ends _ member

end Grammar

namespace Session

/-! ## Reports -/

def Beat.events (beat : Beat) : List SessionEvent := beat.effects.filterMap Effect.reported

def stream (past : List Beat) : List SessionEvent := past.flatMap Beat.events

def Beat.welcomed (beat : Beat) : Bool := beat.word = some .welcome

/-- The payload that a beat brings from transport `number`: the text after the token of the frame
that the session heard on it.  A ping is no payload, and neither is an empty text. -/
def Beat.delivers (number : Nat) (beat : Beat) : Option String :=
  match beat.heard with
  | some (.frame origin _ remainder) =>
      if origin = number ∧ remainder ≠ Frame.ping ∧ remainder ≠ "" then some remainder else none
  | _ => none

theorem stream_append (first second : List Beat) :
    stream (first ++ second) = stream first ++ stream second := List.flatMap_append ..

theorem stream_singleton (beat : Beat) : stream [beat] = beat.events := by
  simp [stream]

/-- What a session with outlook `v` reports when the server said `word`. -/
inductive Report (v : Outlook) : Option Word → Outlook → List SessionEvent → Prop
  | opening {w : Outlook} (reported : w.reported = true) :
      Report v (some .welcome) w [if v.reported then .reconnected else .ready]
  | payload {w : Outlook} {remainder : String} (phase : v.phase = .ready)
      (payload : (Word.frame remainder).payload = some remainder)
      (reported : w.reported = v.reported) (known : w.known = v.known) :
      Report v (some (.frame remainder)) w [.message remainder]
  | endings {word : Option Word} {w : Outlook} {events : List SessionEvent}
      (unwelcome : word ≠ some .welcome) (bare : word.bind Word.payload = none)
      (ends : ∀ event ∈ events, event.ends = true)
      (late : ∀ event ∈ events, event.late = true → v.phase = .ready ∨ v.known = true)
      (phase : w.phase = .ready → v.phase = .ready ∧ events = [])
      (reported : w.reported = v.reported) (known : w.known = v.known) : Report v word w events

/-- A text that is a payload is reported as it is, and no other one is. -/
theorem delivery_cases (remainder : String) :
    ((Word.frame remainder).payload = none ∧ delivery remainder = []) ∨
      (Word.frame remainder).payload = some remainder ∧
        delivery remainder = [.event (.message remainder)] := by
  by_cases idle : remainder = Frame.ping ∨ remainder.isEmpty = true
  · exact .inl ⟨if_pos idle, if_pos idle⟩
  · exact .inr ⟨if_neg idle, if_neg idle⟩

/-- What is displayed is not reported. -/
theorem verdict_reported (feedback : Feedback) (v : Outlook) :
    (v.verdict feedback).filterMap Effect.reported = [] := by
  unfold Outlook.verdict
  split <;> rfl

theorem relief_reported (v : Outlook) : v.relief.filterMap Effect.reported = [] := by
  unfold Outlook.relief
  split <;> rfl

section Tellings

variable {setup : Setup} {accepting : Bool} {v w : Outlook} {input : Input} {word : Option Word}
  {given : List Effect}

/-- A failure reports nothing, or an exhausted budget. -/
theorem Setback.reports (setback : Setback v w given) :
    (∀ event ∈ given.filterMap Effect.reported, event.ends = true ∧ event.late = false) ∧
      w.phase ≠ .ready ∧ w.reported = v.reported ∧ w.known = v.known := by
  cases setback with
  | again =>
      rw [List.filterMap_append, verdict_reported]
      exact ⟨fun _ member => (List.not_mem_nil member).elim, nofun, rfl, rfl⟩
  | beaten failures =>
      rw [List.filterMap_append, verdict_reported]
      refine ⟨fun event member => ?_, nofun, rfl, rfl⟩
      obtain rfl := List.mem_singleton.1 member
      exact ⟨rfl, rfl⟩

/-- A failure that reports a useless handshake, or nothing, first. -/
theorem Setback.report {manual : Bool} (setback : Setback { v with manual := manual } w given)
    {first : List SessionEvent}
    (ends : ∀ event ∈ first, event.ends = true ∧ event.late = false)
    (unwelcome : word ≠ some .welcome) (bare : word.bind Word.payload = none) :
    Report v word w (first ++ given.filterMap Effect.reported) := by
  obtain ⟨more, down, reported, known⟩ := setback.reports
  have all : ∀ event ∈ first ++ given.filterMap Effect.reported,
      event.ends = true ∧ event.late = false := by
    intro event member
    rcases List.mem_append.1 member with before | after
    · exact ends event before
    · exact more event after
  refine .endings unwelcome bare (fun event member => (all event member).1) ?_
    (fun ready => absurd ready down) reported known
  intro event member late
  cases (all event member).2.symm.trans late

/-- What reports nothing. -/
theorem Report.nothing (unwelcome : word ≠ some .welcome) (bare : word.bind Word.payload = none)
    (phase : w.phase = .ready → v.phase = .ready) (reported : w.reported = v.reported)
    (known : w.known = v.known) : Report v word w [] :=
  .endings unwelcome bare nofun nofun (fun ready => ⟨phase ready, rfl⟩) reported known

/-- What ends the session reports why. -/
theorem Report.ending {event : SessionEvent} (ends : event.ends = true)
    (late : event.late = true → v.phase = .ready ∨ v.known = true) (down : w.phase ≠ .ready)
    (reported : w.reported = v.reported) (known : w.known = v.known) :
    Report v none w [event] := by
  refine .endings nofun rfl ?_ ?_ (fun ready => absurd ready down) reported known
  · intro other member
    obtain rfl := List.mem_singleton.1 member
    exact ends
  · intro other member
    obtain rfl := List.mem_singleton.1 member
    exact late

/-- **Every telling reports an opening, a payload, or endings.** -/
theorem Telling.report (telling : Telling setup accepting v input word w given) :
    Report v word w (given.filterMap Effect.reported) := by
  have none_ends : ∀ event ∈ ([] : List SessionEvent), event.ends = true ∧ event.late = false :=
    fun _ member => (List.not_mem_nil member).elim
  cases telling with
  | still => exact .nothing nofun rfl id rfl rfl
  | denied => exact .nothing nofun rfl id rfl rfl
  | unable => exact .nothing nofun rfl id rfl rfl
  | silence => exact .nothing nofun rfl id rfl rfl
  | greet | renew | granted | reconnect | close => exact .nothing nofun rfl nofun rfl rfl
  | welcome =>
      rw [List.filterMap_append, List.filterMap_append, List.filterMap_cons, verdict_reported]
      exact .opening rfl
  | frame phase remainder =>
      rw [List.filterMap_append, List.filterMap_append, relief_reported]
      rcases delivery_cases remainder with ⟨idle, nothing⟩ | ⟨payload, message⟩
      · rw [nothing]
        exact .nothing nofun idle (fun _ => phase) rfl rfl
      · rw [message]
        exact .payload phase payload rfl rfl
  | choke phase refused setback =>
      have bare : (Word.frame Frame.ping).payload = none := rfl
      exact Setback.report setback none_ends nofun bare
  | setback setback => exact Setback.report setback none_ends nofun rfl
  | rebuff phase fault setback =>
      have ends : ∀ event ∈ [SessionEvent.fault (.handshake fault)],
          event.ends = true ∧ event.late = false := by
        intro event member
        obtain rfl := List.mem_singleton.1 member
        exact ⟨rfl, rfl⟩
      exact Setback.report setback ends nofun rfl
  | unanswered answer phase setback => exact Setback.report setback none_ends nofun rfl
  | breach phase data => exact .ending rfl (fun _ => .inl phase) nofun rfl rfl
  | refresh phase known => exact .ending rfl (fun _ => .inr known) nofun rfl rfl
  | giveUp phase unknown failures => exact .ending rfl nofun nofun rfl rfl

end Tellings

/-! ## What the stream tells of a session -/

structure Told (stream : List SessionEvent) (v : Outlook) : Prop where
  grammar : Grammatical stream
  reported : v.reported = true → .ready ∈ stream
  unreported : v.reported = false → .ready ∉ stream
  known : v.known = true → v.reported = true
  ready : v.phase = .ready → v.reported = true ∧ Open stream

section Told

variable {stream : List SessionEvent} {v w : Outlook} {word : Option Word}
  {events : List SessionEvent}

theorem Told.opening (told : Told stream v) (reported : w.reported = true) :
    Told (stream ++ [if v.reported then .reconnected else .ready]) w := by
  cases before : v.reported with
  | true =>
      have first := told.reported before
      refine ⟨told.grammar.concat nofun (fun _ => first) nofun, ?_, ?_, fun _ => reported, ?_⟩
      · exact fun _ => List.mem_append_left _ first
      · intro unreported
        cases reported.symm.trans unreported
      · exact fun _ => ⟨reported, .opening rfl⟩
  | false =>
      have absent := told.unreported before
      refine ⟨told.grammar.concat (fun _ => absent) nofun nofun, ?_, ?_, fun _ => reported, ?_⟩
      · exact fun _ => List.mem_append_right _ (List.mem_singleton_self _)
      · intro unreported
        cases reported.symm.trans unreported
      · exact fun _ => ⟨reported, .opening rfl⟩

theorem Told.payload (told : Told stream v) (phase : v.phase = .ready) (remainder : String)
    (reported : w.reported = v.reported) : Told (stream ++ [.message remainder]) w := by
  obtain ⟨before, opened⟩ := told.ready phase
  have first := told.reported before
  have now : w.reported = true := reported.trans before
  refine ⟨told.grammar.concat nofun (fun _ => first) (fun _ => opened), ?_, ?_, fun _ => now, ?_⟩
  · exact fun _ => List.mem_append_left _ first
  · intro unreported
    cases now.symm.trans unreported
  · exact fun _ => ⟨now, opened.concat rfl⟩

theorem Told.endings (told : Told stream v) (ends : ∀ event ∈ events, event.ends = true)
    (late : ∀ event ∈ events, event.late = true → v.phase = .ready ∨ v.known = true)
    (phase : w.phase = .ready → v.phase = .ready ∧ events = [])
    (reported : w.reported = v.reported) (known : w.known = v.known) :
    Told (stream ++ events) w := by
  refine ⟨told.grammar.endings events ends ?_, ?_, ?_, ?_, ?_⟩
  · intro event member needs
    rcases late event member needs with ready | known
    · exact told.reported (told.ready ready).1
    · exact told.reported (told.known known)
  · intro now
    exact List.mem_append_left _ (told.reported (reported.symm.trans now))
  · intro unreported member
    rcases List.mem_append.1 member with old | new
    · exact told.unreported (reported.symm.trans unreported) old
    · exact ready_notMem_endings ends new
  · intro now
    exact reported.trans (told.known (known.symm.trans now))
  · intro ready
    obtain ⟨before, rfl⟩ := phase ready
    obtain ⟨was, opened⟩ := told.ready before
    rw [List.append_nil]
    exact ⟨reported.trans was, opened⟩

/-- What a session reports continues its stream. -/
theorem Told.report (told : Told stream v) (report : Report v word w events) :
    Told (stream ++ events) w := by
  cases report with
  | opening reported => exact told.opening reported
  | payload phase _ reported _ => exact told.payload phase _ reported
  | endings _ _ ends late phase reported known => exact told.endings ends late phase reported known

/-- Openings are the welcomes, and messages the payloads. -/
theorem Report.stands (report : Report v word w events) :
    events.countP SessionEvent.opens = (if word = some .welcome then 1 else 0) ∧
      events.filterMap SessionEvent.payload = (word.bind Word.payload).toList := by
  cases report with
  | opening reported =>
      rw [if_pos rfl]
      split <;> exact ⟨rfl, rfl⟩
  | payload phase payload reported known =>
      rw [if_neg nofun]
      refine ⟨rfl, ?_⟩
      show _ = (Word.frame _).payload.toList
      rw [payload]
      rfl
  | endings unwelcome bare ends late phase reported known =>
      rw [if_neg unwelcome, bare]
      constructor
      · refine List.countP_eq_zero.2 fun event member opens => ?_
        have ending := ends event member
        cases event <;> cases opens <;> cases ending
      · refine List.filterMap_eq_nil_iff.2 fun event member => ?_
        have ending := ends event member
        cases event with
        | message payload => cases ending
        | _ => rfl

end Told

section Lives

variable {config : SessionConfig} {past : List Beat} {s : Session}

theorem beat_reports (life : Life config past s) (turn : Turn) :
    Report s.outlook (s.beat config turn).word (s.beat config turn).after.outlook
      (s.beat config turn).events := by
  have silent : ∀ effect, voiced effect = false → Effect.reported effect = none := by
    intro effect silent
    cases effect with
    | event => cases silent
    | _ => rfl
  rw [Beat.events, filterMap_tidings silent]
  exact (beat_tells life turn).report

theorem life_told (life : Life config past s) : Told (stream past) s.outlook := by
  induction life with
  | fresh =>
      exact ⟨.nil, nofun, fun _ => List.not_mem_nil, nofun, nofun⟩
  | beat life turn ih =>
      rw [stream_append, stream_singleton]
      exact ih.report (beat_reports life turn)

/-- Openings are the beats in which a handshake succeeded. -/
theorem Life.openings (life : Life config past s) :
    (stream past).countP SessionEvent.opens = past.countP Beat.welcomed := by
  induction life with
  | fresh => rfl
  | beat life turn ih =>
      rw [stream_append, stream_singleton, List.countP_append, List.countP_append, ih,
        (beat_reports life turn).stands.1, List.countP_singleton, Beat.welcomed]
      simp only [decide_eq_true_eq]

/-- A beat of a life reports what the server said. -/
theorem Life.reports {first rest : List Beat} {beat : Beat}
    (life : Life config (first ++ beat :: rest) s) :
    Report beat.before.outlook beat.word beat.after.outlook beat.events := by
  obtain ⟨before, same⟩ := life.split
  have report := beat_reports before beat.turn
  rw [← same] at report
  exact report

/-! ### One transport for a ready period -/

/-- While a session stays ready it stays with its transport. -/
theorem Deed.stays {accepting : Bool} {v w : Stance} {heard : Option Hearing}
    {given : List Effect} (deed : Deed accepting v heard w given) (before : v.phase = .ready)
    (after : w.phase = .ready) : w.active = v.active := by
  have offered : ∀ {number : Nat} {frame : String} {accepting : Bool} {v w : Stance}
      {given : List Effect}, Offer number frame v accepting w given → w.phase = .ready →
        w.active = v.active := by
    intro number frame accepting v w given offer after
    cases offer with
    | sent => rfl
    | refused phase down => exact absurd after down.other.2.2
  have fresh : ∀ {v w : Stance} {given : List Effect}, Fresh v w given → w.phase = v.phase := by
    intro v w given fresh
    cases fresh <;> rfl
  cases deed with
  | still | reopened | frame | unready | request => rfl
  | drop phase down => exact absurd after down.other.2.2
  | lost phase down => exact absurd after down.other.2.2
  | reconnect => cases after
  | install _ _ start => cases (fresh start).symm.trans after
  | reinstall _ _ _ start => cases (fresh start).symm.trans after
  | settled phase => cases phase.symm.trans before
  | greet phase => cases phase.symm.trans before
  | welcome phase => cases phase.symm.trans before
  | pong _ _ _ offer =>
      have same := offered offer after
      exact same
  | send _ _ _ _ offer => exact offered offer after

/-- A frame is heard on the transport in use. -/
theorem Deed.frame_used {accepting : Bool} {v w : Stance} {number : Nat}
    {token : ContinuationToken} {remainder : String} {given : List Effect}
    (deed : Deed accepting v (some (.frame number token remainder)) w given) :
    v.active = some number := by
  cases deed with
  | frame _ used => exact used
  | pong _ _ used => exact used

/-- The transport that brings the welcome is in use, and stays so. -/
theorem Deed.welcome_used {accepting : Bool} {v w : Stance} {number : Nat}
    {instanceId : InstanceId} {token : ContinuationToken} {given : List Effect}
    (deed : Deed accepting v (some (.welcome number instanceId token)) w given) :
    w.active = some number := by
  cases deed with
  | welcome _ used => exact used

/-- Through a ready period the session keeps to the transport that brought the welcome. -/
theorem Period.link {first period : List Beat} {start : Beat} {number : Nat}
    {instanceId : InstanceId} {token : ContinuationToken}
    (life : Life config (first ++ start :: period) s)
    (welcome : start.heard = some (.welcome number instanceId token))
    (ready : ∀ beat ∈ period, beat.before.phase = .ready) (now : s.phase = .ready) :
    s.stance.active = some number := by
  induction period using List.reverseRecOn generalizing s with
  | nil =>
      obtain ⟨before, same, rfl⟩ := life.last
      have deed := beat_deed before start.turn
      rw [← same, welcome] at deed
      exact deed.welcome_used
  | append_singleton period beat ih =>
      rw [← List.cons_append, ← List.append_assoc] at life
      obtain ⟨before, same, rfl⟩ := life.last
      have phase := ready beat (List.mem_append_right _ (List.mem_singleton_self _))
      have deed := beat_deed before beat.turn
      rw [← same] at deed
      refine (deed.stays phase now).trans (ih before ?_ phase)
      exact fun other member => ready other (List.mem_append_left _ member)

/-- In a ready period the payloads are those of its transport. -/
theorem Period.delivers {first earlier later : List Beat} {start beat : Beat} {number : Nat}
    {instanceId : InstanceId} {token : ContinuationToken}
    (life : Life config (first ++ start :: (earlier ++ beat :: later)) s)
    (welcome : start.heard = some (.welcome number instanceId token))
    (ready : ∀ other ∈ earlier, other.before.phase = .ready) (now : beat.before.phase = .ready) :
    beat.word.bind Word.payload = beat.delivers number := by
  rw [← List.cons_append, ← List.append_assoc] at life
  obtain ⟨before, same⟩ := life.split
  have used := Period.link before welcome ready now
  have deed := beat_deed before beat.turn
  rw [← same] at deed
  unfold Beat.word Beat.delivers
  generalize beat.heard = heard at deed
  match heard with
  | some (.frame origin rotated remainder) =>
      have own : origin = number := Option.some.inj (deed.frame_used.symm.trans used)
      show (if _ then none else some remainder) = if _ then some remainder else none
      by_cases idle : remainder = Frame.ping ∨ remainder.isEmpty = true
      · rw [if_pos idle, if_neg]
        rintro ⟨-, payload, text⟩
        exact idle.elim payload (text ∘ String.isEmpty_iff.1)
      · rw [if_neg idle, if_pos]
        obtain ⟨payload, text⟩ := not_or.1 idle
        exact ⟨own, payload, text ∘ String.isEmpty_iff.2⟩
  | none | some (.credentials ..) | some (.task ..) | some (.opened _) | some (.welcome ..) => rfl

theorem Period.messages {first period rest : List Beat} {start : Beat} {number : Nat}
    {instanceId : InstanceId} {token : ContinuationToken}
    (life : Life config (first ++ start :: (period ++ rest)) s)
    (welcome : start.heard = some (.welcome number instanceId token))
    (ready : ∀ beat ∈ period, beat.before.phase = .ready) :
    (stream period).filterMap SessionEvent.payload = period.filterMap (Beat.delivers number) := by
  induction period using List.reverseRecOn generalizing rest with
  | nil => rfl
  | append_singleton period beat ih =>
      have shape : period ++ [beat] ++ rest = period ++ beat :: rest := by simp
      rw [shape] at life
      have before : ∀ other ∈ period, other.before.phase = .ready :=
        fun other member => ready other (List.mem_append_left _ member)
      have now := ready beat (List.mem_append_right _ (List.mem_singleton_self _))
      have heard := Period.delivers life welcome before now
      have earlier := ih life before
      rw [← List.cons_append, ← List.append_assoc] at life
      rw [stream_append, stream_singleton, List.filterMap_append, List.filterMap_append, earlier,
        life.reports.stands.2, heard, List.filterMap_cons]
      cases beat.delivers number <;> rfl

end Lives

/-- **The stream of events.**  It is grammatical, and it has one opening for each handshake that
succeeded.  The beat of such a handshake reports nothing but the opening; and in the ready period
that follows, up to its end or any point of it, the messages are the payloads of the frames heard
on its transport, in order and one for one.  Every message belongs to such a period. -/
theorem events_delivered (config : SessionConfig) (turns : List Turn) :
    Grammatical (stream (history config turns)) ∧
    (stream (history config turns)).countP SessionEvent.opens =
      (history config turns).countP Beat.welcomed ∧
    (∀ first start period rest number instanceId token,
      history config turns = first ++ start :: (period ++ rest) →
      start.heard = some (.welcome number instanceId token) →
      (∀ beat ∈ period, beat.before.phase = .ready) →
        start.events = [if .ready ∈ stream first then .reconnected else .ready] ∧
        (stream period).filterMap SessionEvent.payload =
          period.filterMap (Beat.delivers number)) ∧
    (∀ first beat rest payload, history config turns = first ++ beat :: rest →
      .message payload ∈ beat.events → beat.before.phase = .ready ∧
        ∃ earlier start period, first = earlier ++ start :: period ∧ Period start period) := by
  have life := life_of config turns
  refine ⟨(life_told life).grammar, life.openings, ?_, ?_⟩
  · intro first start period rest number instanceId token split welcome ready
    rw [split] at life
    refine ⟨?_, Period.messages life welcome ready⟩
    obtain ⟨before, -⟩ := life.split
    have told := life_told before
    have report := life.reports
    have word : start.word = some .welcome := congrArg (Option.bind · Hearing.word) welcome
    rw [word] at report
    generalize start.events = events at report
    cases report with
    | opening reported =>
        cases was : start.before.outlook.reported with
        | true => rw [if_pos rfl, if_pos (told.reported was)]
        | false => rw [if_neg Bool.false_ne_true, if_neg (told.unreported was)]
    | endings unwelcome => exact absurd rfl unwelcome
  · intro first beat rest payload split member
    rw [split] at life
    obtain ⟨before, -⟩ := life.split
    have ready : beat.before.phase = .ready := by
      have report := life.reports
      generalize beat.events = events at report member
      generalize beat.word = word, beat.after.outlook = w at report
      cases report with
      | opening =>
          have same := List.mem_singleton.1 member
          split at same <;> cases same
      | payload phase => exact phase
      | endings _ _ ends => cases ends _ member
    exact ⟨ready, before.period ready⟩

/-- Two payloads with a ping between them, and then the transport closes. -/
example :
    stream (history {}
      [{ input := .init ⟨"S"⟩ ⟨"T"⟩ false }, { input := .transport 0 .opened },
        { input := .transport 0 (.message "I&K0") }, { input := .transport 0 (.message "K1&a") },
        { input := .transport 0 (.message "K2&ping") }, { input := .transport 0 (.message "K3&b&c") },
        { input := .transport 0 .closed }]) = [.ready, .message "a", .message "b&c"] := by
  decide +kernel

end Session

end Tether
