/-
# Tether.Proofs.WebSocket.Beats -- the beats of a dialogue

A beat is one move with the dialogue before it.  What goes in and out is read off a beat by
what the parties do: which frame is taken, what the peer says, what the reader meets, whether
the connection is made, fails or breaks.  None of the readings looks at what the transport
makes of it.

* `receive_live` -- what becomes of what is read, by what it comes to (`Incoming.outcome`).
* `report?_opened`, `report?_message`, `report?_closed`, `report?_failed` -- what a beat is
  reported as, by what happens.
* `turn` -- all that a move can do.
-/
import Tether.WebSocket.Dialogue

set_option autoImplicit false

namespace Tether.WebSocket

/-- What reading this on a connection with these options comes to, if anything is reported. -/
def Incoming.outcome (options : Options) (incoming : Incoming) : Option TransportEvent :=
  if options.maxMessageSize < incoming.size then some .failed
  else
    match incoming with
    | .text data => some (.message data)
    | .binary _ | .ping _ | .pong _ => none
    | .close | .over => some .closed
    | .broken => some .failed

def Incoming.text? : Incoming → Option String
  | .text data => some data
  | .binary _ | .ping _ | .pong _ | .close | .over | .broken => none

def Incoming.admitted? (options : Options) (incoming : Incoming) : Option String :=
  if options.maxMessageSize < incoming.size then none else incoming.text?

def Heard.text? : Heard → Option String
  | .text frame => some frame
  | .close => none

section Outcome

variable {options : Options} {incoming : Incoming}

theorem outcome_opened : incoming.outcome options ≠ some .opened := by
  unfold Incoming.outcome
  split
  · simp
  · cases incoming <;> simp

theorem outcome_message {data : String} :
    incoming.outcome options = some (.message data) ↔ incoming.admitted? options = some data := by
  unfold Incoming.outcome Incoming.admitted?
  split
  · simp
  · cases incoming <;> simp [Incoming.text?]

theorem admitted_text {data : String} (admitted : incoming.admitted? options = some data) :
    incoming.text? = some data := by
  unfold Incoming.admitted? at admitted
  split at admitted
  · cases admitted
  · exact admitted

theorem outcome_none (mute : incoming.outcome options = none) : incoming.text? = none := by
  unfold Incoming.outcome at mute
  split at mute
  · cases mute
  · cases incoming <;> simp [Incoming.text?] at mute ⊢

theorem outcome_closed :
    incoming.outcome options = some .closed ↔ incoming = .close ∨ incoming = .over := by
  unfold Incoming.outcome
  split
  · rename_i large
    cases incoming <;> simp [Incoming.size] at large ⊢
  · cases incoming <;> simp

theorem outcome_failed :
    incoming.outcome options = some .failed ↔
      incoming = .broken ∨ options.maxMessageSize < incoming.size := by
  unfold Incoming.outcome
  split
  · rename_i large
    simp [large]
  · rename_i small
    cases incoming <;> simp [small]

/-- Only a message leaves the connection as it is. -/
theorem receive_live {t : WebSocket} (live : t.phase = .live) (incoming : Incoming) :
    t.receive incoming =
      match incoming.outcome t.options with
      | none => (t, [])
      | some (.message data) => (t, [.emit (.message data)])
      | some event => ({ t with phase := .ended }, [.abandon, .emit event]) := by
  unfold receive Incoming.outcome
  rw [if_pos live]
  split
  · rfl
  · cases incoming <;> rfl

theorem receive_idle {t : WebSocket} (idle : t.phase ≠ .live) (incoming : Incoming) :
    t.receive incoming = (t, []) := if_neg idle

end Outcome

namespace Dialogue

/-! ## Beats -/

structure Beat where
  before : Dialogue
  move : Move

namespace Beat

variable (beat : Beat)

def Dismisses : Prop := beat.move = .reset ∨ beat.move = .drop

def taken? : Option String :=
  match beat.move with
  | .send frame => if beat.before.refusal frame = none then some frame else none
  | _ => none

def said? : Option Incoming :=
  match beat.move with
  | .say incoming => if beat.before.transport.phase = .live then some incoming else none
  | _ => none

/-- What the reader meets. -/
def met? : Option Incoming :=
  match beat.move with
  | .read => if beat.before.transport.phase = .live then beat.before.wire.head? else none
  | .sever => if beat.before.transport.phase = .live then some .broken else none
  | _ => none

def text? : Option String :=
  beat.met?.bind fun incoming => incoming.admitted? beat.before.transport.options

def time : Nat := beat.before.clock.now

/-- When an attempt to connect begins. -/
def begun? : Option Nat :=
  match beat.move with
  | .start =>
      if beat.before.transport.phase = .fresh ∧ beat.before.transport.dismissed = false then
        some beat.time
      else none
  | _ => none

def Connects : Prop := beat.move = .connect ∧ beat.before.transport.phase = .connecting

def RunsOut : Prop :=
  beat.move = .expire ∧ beat.before.transport.phase = .connecting ∧
    (beat.before.clock.next? beat.before.clock.now).isSome = true

def Refused : Prop :=
  (∃ text, beat.move = .refuse text) ∧ beat.before.transport.phase = .connecting

/-- The reader meets the peer's close or the end of the stream. -/
def Closes : Prop := beat.met? = some .close ∨ beat.met? = some .over

def Chokes : Prop :=
  beat.move = .choke ∧ beat.before.transport.phase = .live ∧ beat.before.transport.queue ≠ []

/-- Reading fails, because the stream breaks or a message is too large, or writing does. -/
def Breaks : Prop :=
  (∃ incoming, beat.met? = some incoming ∧
    (incoming = .broken ∨ beat.before.transport.options.maxMessageSize < incoming.size)) ∨
  beat.Chokes

instance : Decidable beat.Dismisses := inferInstanceAs (Decidable (_ ∨ _))

/-- What the beat comes to, for who has not been cut off. -/
def report? : Option TransportEvent :=
  match beat.move with
  | .connect => if beat.before.transport.phase = .connecting then some .opened else none
  | .refuse _ => if beat.before.transport.phase = .connecting then some .failed else none
  | .expire =>
      if beat.before.transport.phase = .connecting ∧
        (beat.before.clock.next? beat.before.clock.now).isSome = true then some .failed else none
  | .choke =>
      if beat.before.transport.phase = .live ∧ beat.before.transport.queue ≠ [] then some .failed
      else none
  | .read | .sever => beat.met?.bind fun incoming => incoming.outcome beat.before.transport.options
  | .start | .send _ | .reset | .drop | .flush | .leave | .say _ | .wait _ => none

def after : Dialogue := beat.before.make beat.move

variable {beat}

theorem report?_opened : beat.report? = some .opened ↔ beat.Connects := by
  obtain ⟨d, move⟩ := beat
  cases move with
  | read | sever => simp [report?, Connects, Option.bind_eq_some_iff, outcome_opened]
  | _ => simp [report?, Connects]

theorem report?_message {data : String} :
    beat.report? = some (.message data) ↔ beat.text? = some data := by
  obtain ⟨d, move⟩ := beat
  cases move with
  | read | sever => simp [report?, text?, Option.bind_eq_some_iff, outcome_message]
  | _ => simp [report?, text?, met?]

theorem report?_closed : beat.report? = some .closed ↔ beat.Closes := by
  obtain ⟨d, move⟩ := beat
  cases move with
  | read | sever =>
      simp [report?, Closes, Option.bind_eq_some_iff, outcome_closed, and_or_left, exists_or]
  | _ => simp [report?, Closes, met?]

theorem report?_failed :
    beat.report? = some .failed ↔ beat.Refused ∨ beat.RunsOut ∨ beat.Breaks := by
  obtain ⟨d, move⟩ := beat
  cases move with
  | read | sever =>
      simp [report?, Refused, RunsOut, Breaks, Chokes, Option.bind_eq_some_iff, outcome_failed]
  | _ => simp [report?, Refused, RunsOut, Breaks, Chokes, met?, Option.isSome_iff_ne_none]

theorem met?_live {incoming : Incoming} (met : beat.met? = some incoming) :
    beat.before.transport.phase = .live := by
  obtain ⟨d, move⟩ := beat
  cases move with
  | read | sever =>
      simp only [met?] at met
      split at met
      · assumption
      · cases met
  | _ => cases met

theorem met?_read {d : Dialogue} {incoming : Incoming} {rest : List Incoming}
    (live : d.transport.phase = .live) (next : d.wire = incoming :: rest) :
    (Beat.mk d .read).met? = some incoming := by
  simp [met?, live, next]

theorem Breaks.live (breaks : beat.Breaks) : beat.before.transport.phase = .live := by
  rcases breaks with ⟨_, met, -⟩ | ⟨-, live, -⟩
  · exact met?_live met
  · exact live

/-- Nothing happens on a transport that has come to its end. -/
theorem report?_ended (ended : beat.before.transport.phase = .ended) : beat.report? = none := by
  obtain ⟨d, move⟩ := beat
  have past : d.transport.phase = .ended := ended
  cases move <;> simp [report?, met?, past]

end Beat

/-! ## What a beat changes -/

/-- Nothing is taken, said, read or reported, and no attempt begins. -/
structure Beat.Quiet (beat : Beat) : Prop where
  untaken : beat.taken? = none
  unsaid : beat.said? = none
  unmet : beat.met? = none
  unreported : beat.report? = none
  unbegun : beat.begun? = none

theorem Beat.Dismisses.quiet {beat : Beat} (dismisses : beat.Dismisses) : beat.Quiet := by
  obtain ⟨d, move⟩ := beat
  rcases dismisses with same | same <;> cases same <;> exact ⟨rfl, rfl, rfl, rfl, rfl⟩

theorem Beat.Quiet.unread {beat : Beat} (quiet : beat.Quiet) : beat.text? = none := by
  rw [Beat.text?, quiet.unmet]
  rfl

structure Beat.Idle (beat : Beat) : Prop extends beat.Quiet where
  kept : ¬beat.Dismisses

def tell (d : Dialogue) (event : TransportEvent) : Dialogue := d.absorb (.emit event)

def enter (d : Dialogue) (phase : Phase) : Dialogue :=
  { d with transport := { d.transport with phase } }

/-- The connection, or the attempt to connect, is given up. -/
def giveUp (d : Dialogue) : Dialogue := (d.enter .ended).absorb .abandon

@[simp] theorem tell_transport (d : Dialogue) (event : TransportEvent) :
    (d.tell event).transport = d.transport := rfl

@[simp] theorem tell_events (d : Dialogue) (event : TransportEvent) :
    (d.tell event).events = d.events ++ if d.sink.detached then [] else [event] := by
  cases off : d.sink.detached <;> simp [tell, absorb, Sink.emit, off]

@[simp] theorem tell_detached (d : Dialogue) (event : TransportEvent) :
    (d.tell event).sink.detached = (d.sink.detached || event.isTerminal) := by
  cases terminal : event.isTerminal <;> simp [tell, absorb, Sink.emit, terminal]

/-- All that a move can do. -/
inductive Turn (d : Dialogue) : Move → Dialogue → Prop
  | idle {move : Move} (idle : Beat.Idle ⟨d, move⟩) : Turn d move d
  | pass {time : Nat} (free : d.isOverdue time = false) :
      Turn d (.wait time) { d with clock := d.clock.moveTo time }
  | ring {clock : Clock Unit} (fires : d.clock.next? d.clock.now = some ((), clock))
      (other : d.transport.phase ≠ .connecting) : Turn d .expire { d with clock }
  | begin (fresh : d.transport.phase = .fresh) (kept : d.transport.dismissed = false) :
      Turn d .start
        { d.enter .connecting with
          clock := d.clock.set d.transport.options.connectTimeout () }
  | take {frame : String} (live : d.transport.phase = .live)
      (kept : d.transport.dismissed = false) :
      Turn d (.send frame)
        { d with transport := { d.transport with queue := d.transport.queue ++ [frame] } }
  | dismiss {move : Move} (dismisses : Beat.Dismisses ⟨d, move⟩) :
      Turn d move
        { d with transport := { d.transport with dismissed := true }, sink := d.sink.detach }
  | connect (connecting : d.transport.phase = .connecting) :
      Turn d .connect ((d.enter .live).tell .opened)
  | refuse {text : String} (connecting : d.transport.phase = .connecting) :
      Turn d (.refuse text) ((d.enter .ended).tell .failed)
  | expire {clock : Clock Unit} (connecting : d.transport.phase = .connecting)
      (fires : d.clock.next? d.clock.now = some ((), clock)) :
      Turn d .expire (({ d with clock }.enter .ended).tell .failed)
  | flush {frame : String} {rest : List String} (live : d.transport.phase = .live)
      (waits : d.transport.queue = frame :: rest) :
      Turn d .flush
        { d with
          transport := { d.transport with queue := rest }
          heard := d.heard ++ [.text frame] }
  | choke {frame : String} {rest : List String} (live : d.transport.phase = .live)
      (waits : d.transport.queue = frame :: rest) :
      Turn d .choke
        (({ d with transport := { d.transport with queue := rest } } :
          Dialogue).giveUp.tell .failed)
  | skip {incoming : Incoming} {rest : List Incoming} (live : d.transport.phase = .live)
      (next : d.wire = incoming :: rest) (mute : incoming.outcome d.transport.options = none) :
      Turn d .read { d with wire := rest }
  | hear {incoming : Incoming} {rest : List Incoming} {data : String}
      (live : d.transport.phase = .live) (next : d.wire = incoming :: rest)
      (speaks : incoming.outcome d.transport.options = some (.message data)) :
      Turn d .read (({ d with wire := rest } : Dialogue).tell (.message data))
  | hangUp {incoming : Incoming} {rest : List Incoming} {event : TransportEvent}
      (live : d.transport.phase = .live) (next : d.wire = incoming :: rest)
      (ends : incoming.outcome d.transport.options = some event)
      (terminal : event.isTerminal = true) :
      Turn d .read (({ d with wire := rest } : Dialogue).giveUp.tell event)
  | sever (live : d.transport.phase = .live) : Turn d .sever (d.giveUp.tell .failed)
  | part (dismissed : d.transport.dismissed = true) (live : d.transport.phase = .live) :
      Turn d .leave { d.enter .ended with heard := d.heard ++ [.close] }
  | withdraw (dismissed : d.transport.dismissed = true)
      (connecting : d.transport.phase = .connecting) : Turn d .leave d.giveUp
  | say {incoming : Incoming} (live : d.transport.phase = .live) :
      Turn d (.say incoming) { d with wire := d.wire ++ [incoming] }

theorem Beat.idle {beat : Beat} (untaken : beat.taken? = none) (unsaid : beat.said? = none)
    (unmet : beat.met? = none) (unreported : beat.report? = none)
    (others : beat.move ≠ .start ∧ beat.move ≠ .reset ∧ beat.move ≠ .drop) : beat.Idle := by
  have unbegun : beat.begun? = none := by
    unfold Beat.begun?
    split
    · rename_i same
      exact absurd same others.1
    · rfl
  exact ⟨⟨untaken, unsaid, unmet, unreported, unbegun⟩, not_or.2 others.2⟩

section Turns

variable (d : Dialogue)

theorem turn_start : Turn d .start (d.make .start) := by
  simp only [make, start]
  split
  · rename_i begins
    exact .begin begins.1 begins.2
  · rename_i other
    exact .idle ⟨⟨rfl, rfl, rfl, rfl, if_neg other⟩, by simp [Beat.Dismisses]⟩

theorem turn_send (frame : String) : Turn d (.send frame) (d.make (.send frame)) := by
  simp only [make]
  split
  · rename_i after taken
    unfold send at taken
    split at taken
    · cases taken
    · rename_i kept
      split at taken
      case h_4 live =>
        cases taken
        exact .take live (Bool.eq_false_iff.2 kept)
      all_goals cases taken
  · rename_i fault refused
    have untaken : Beat.taken? ⟨d, .send frame⟩ = none := by
      simp [Beat.taken?, refusal, refused]
    exact .idle (Beat.idle untaken rfl rfl rfl (by simp))

theorem turn_connect : Turn d .connect (d.make .connect) := by
  simp only [make, connected]
  split
  · rename_i connecting
    exact .connect connecting
  · rename_i other
    exact .idle (Beat.idle rfl rfl rfl (if_neg other) (by simp))

theorem turn_refuse (text : String) : Turn d (.refuse text) (d.make (.refuse text)) := by
  simp only [make, refused]
  split
  · rename_i connecting
    exact .refuse connecting
  · rename_i other
    exact .idle (Beat.idle rfl rfl rfl (if_neg other) (by simp))

theorem turn_expire : Turn d .expire (d.make .expire) := by
  simp only [make]
  split
  · rename_i clock fires
    by_cases connecting : d.transport.phase = .connecting
    · simp only [refused, if_pos connecting]
      exact .expire connecting fires
    · simp only [refused, if_neg connecting]
      exact .ring fires connecting
  · rename_i none_
    have unreported : Beat.report? ⟨d, .expire⟩ = none := by
      simp [Beat.report?, none_]
    exact .idle (Beat.idle rfl rfl rfl unreported (by simp))

theorem turn_flush : Turn d .flush (d.make .flush) := by
  simp only [make, flush]
  split
  · rename_i frame rest live waits
    exact .flush live waits
  · exact .idle (Beat.idle rfl rfl rfl rfl (by simp))

theorem turn_choke : Turn d .choke (d.make .choke) := by
  simp only [make, choke]
  split
  · rename_i frame rest live waits
    exact .choke live waits
  · rename_i other
    refine .idle (Beat.idle rfl rfl rfl (if_neg ?_) (by simp))
    rintro ⟨live, some_⟩
    obtain ⟨frame, rest, waits⟩ := List.exists_cons_of_ne_nil some_
    exact other frame rest live waits

/-- A beat that may read does nothing where nothing is met. -/
theorem idle_of_unmet {move : Move} (reads : move = .read ∨ move = .sever)
    (unmet : Beat.met? ⟨d, move⟩ = none) : Beat.Idle ⟨d, move⟩ := by
  have unreported : Beat.report? ⟨d, move⟩ = none := by
    rcases reads with rfl | rfl <;> simp [Beat.report?, unmet]
  rcases reads with rfl | rfl <;> exact Beat.idle rfl rfl unmet unreported (by simp)

theorem turn_read : Turn d .read (d.make .read) := by
  simp only [make]
  split
  · rename_i incoming rest live next
    rw [receive_live live]
    cases comes : incoming.outcome d.transport.options with
    | none => exact .skip live next comes
    | some event =>
        cases event with
        | opened => exact absurd comes outcome_opened
        | message data => exact .hear live next comes
        | closed | failed => exact .hangUp live next comes rfl
  · rename_i other
    refine .idle (idle_of_unmet d (.inl rfl) ?_)
    simp only [Beat.met?]
    split
    · rename_i live
      cases next : d.wire with
      | nil => rfl
      | cons incoming rest => exact absurd next (other incoming rest live)
    · rfl

theorem turn_sever : Turn d .sever (d.make .sever) := by
  simp only [make]
  by_cases live : d.transport.phase = .live
  · rw [receive_live live]
    exact .sever live
  · rw [receive_idle live]
    exact .idle (idle_of_unmet d (.inr rfl) (if_neg live))

theorem turn_leave : Turn d .leave (d.make .leave) := by
  simp only [make, leave]
  split
  · rename_i dismissed
    split
    · rename_i live
      exact .part dismissed live
    · rename_i connecting
      exact .withdraw dismissed connecting
    all_goals exact .idle (Beat.idle rfl rfl rfl rfl (by simp))
  · exact .idle (Beat.idle rfl rfl rfl rfl (by simp))

theorem turn_say (incoming : Incoming) : Turn d (.say incoming) (d.make (.say incoming)) := by
  simp only [make]
  split
  · rename_i live
    exact .say live
  · rename_i other
    exact .idle (Beat.idle rfl (if_neg other) rfl rfl (by simp))

theorem turn_wait (time : Nat) : Turn d (.wait time) (d.make (.wait time)) := by
  simp only [make]
  split
  · exact .idle (Beat.idle rfl rfl rfl rfl (by simp))
  · rename_i free
    exact .pass (Bool.eq_false_iff.2 free)

theorem turn (move : Move) : Turn d move (d.make move) := by
  cases move with
  | start => exact turn_start d
  | send frame => exact turn_send d frame
  | reset => exact .dismiss (.inl rfl)
  | drop => exact .dismiss (.inr rfl)
  | connect => exact turn_connect d
  | refuse text => exact turn_refuse d text
  | expire => exact turn_expire d
  | flush => exact turn_flush d
  | choke => exact turn_choke d
  | read => exact turn_read d
  | sever => exact turn_sever d
  | leave => exact turn_leave d
  | say incoming => exact turn_say d incoming
  | wait time => exact turn_wait d time

end Turns

end Dialogue

end Tether.WebSocket
