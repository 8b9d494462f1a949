/-
# Tether.Proofs.Session.Run -- the life of a session, turn by turn

A turn is one input together with what the surroundings decide while it is handled:
whether the transport in use takes frames, and whether persistent transports can be
built.  A run is any list of turns.  Nothing ties
the inputs to a clock, a factory or a set of transports, so whatever is proved of all
runs holds of a session in any surroundings: timers may run out at any moment, any
transport may report anything at any time, past its sink or not, and requests may be
answered in any order.

Each turn leaves a `Beat`: the session before, the turn, the session after and the
effects asked for.  `history` is the list of beats of a run.

* `life_of` -- a run is a life, which grows by one beat at a time; inductions go over it.
* `beat_stopped`, `beat_running` -- what one beat is.
* `Life.at` -- every beat of a life continues the life before it.
* `history_append` -- the history of a longer run continues that of a shorter one.
* `retell_concat` -- what is told of a beat depends on the beats before it, and on no later one.
* `mem_retell` -- what is retold was told of some beat.
-/
import Tether.Proofs.Session.Forms

set_option autoImplicit false

namespace Tether.Session

/-- One input, and what the surroundings decide while it is handled. -/
structure Turn where
  input : Input
  /-- Whether the transport in use takes frames. -/
  accepting : Bool := true
  /-- Whether persistent transports can be built. -/
  persistent : Bool := true
deriving DecidableEq

def Turn.setup (config : SessionConfig) (turn : Turn) : Setup where
  config := config
  persistent := turn.persistent

structure Beat where
  before : Session
  turn : Turn
  after : Session
  effects : List Effect
deriving DecidableEq

def beat (config : SessionConfig) (s : Session) (turn : Turn) : Beat where
  before := s
  turn := turn
  after := (s.step (turn.setup config) turn.accepting turn.input).1
  effects := (s.step (turn.setup config) turn.accepting turn.input).2

def historyFrom (config : SessionConfig) (s : Session) : List Turn → List Beat
  | [] => []
  | turn :: turns => s.beat config turn :: historyFrom config (s.beat config turn).after turns

def reachedFrom (config : SessionConfig) (s : Session) : List Turn → Session
  | [] => s
  | turn :: turns => reachedFrom config (s.beat config turn).after turns

/-- The beats of a run of a new session. -/
def history (config : SessionConfig) (turns : List Turn) : List Beat := historyFrom config {} turns

/-- The session at the end of a run of a new session. -/
def reached (config : SessionConfig) (turns : List Turn) : Session := reachedFrom config {} turns

variable {config : SessionConfig}

theorem historyFrom_append (s : Session) (first second : List Turn) :
    historyFrom config s (first ++ second) =
      historyFrom config s first ++ historyFrom config (reachedFrom config s first) second := by
  induction first generalizing s with
  | nil => rfl
  | cons turn first ih =>
      simp only [List.cons_append, historyFrom, reachedFrom]
      rw [ih]

theorem reachedFrom_append (s : Session) (first second : List Turn) :
    reachedFrom config s (first ++ second) =
      reachedFrom config (reachedFrom config s first) second := by
  induction first generalizing s with
  | nil => rfl
  | cons turn first ih => exact ih _

theorem history_append (first second : List Turn) :
    history config (first ++ second) =
      history config first ++ historyFrom config (reached config first) second :=
  historyFrom_append {} first second

theorem history_concat (turns : List Turn) (turn : Turn) :
    history config (turns ++ [turn]) =
      history config turns ++ [(reached config turns).beat config turn] :=
  history_append turns [turn]

theorem reached_concat (turns : List Turn) (turn : Turn) :
    reached config (turns ++ [turn]) = ((reached config turns).beat config turn).after :=
  reachedFrom_append {} turns [turn]

theorem map_turn_history (config : SessionConfig) (turns : List Turn) :
    (history config turns).map Beat.turn = turns := by
  suffices all : ∀ s : Session, (historyFrom config s turns).map Beat.turn = turns from all {}
  intro s
  induction turns generalizing s with
  | nil => rfl
  | cons turn turns ih =>
      simp only [historyFrom, List.map_cons]
      rw [ih]
      rfl

@[simp] theorem length_history (turns : List Turn) :
    (history config turns).length = turns.length := by
  suffices all : ∀ s : Session, (historyFrom config s turns).length = turns.length from all {}
  intro s
  induction turns generalizing s with
  | nil => rfl
  | cons turn turns ih => simp [historyFrom, ih]

/-- Turns of which none changes the session or makes it ask for anything lead nowhere. -/
theorem run_unmoved {s : Session} {turns : List Turn}
    (unmoved : ∀ turn ∈ turns,
      (s.beat config turn).after = s ∧ (s.beat config turn).effects = []) :
    reachedFrom config s turns = s ∧
      ∀ beat ∈ historyFrom config s turns, beat.effects = [] ∧ beat.after = s := by
  induction turns with
  | nil => exact ⟨rfl, fun _ member => (List.not_mem_nil member).elim⟩
  | cons turn turns ih =>
      obtain ⟨after, effects⟩ := unmoved turn (List.mem_cons_self ..)
      obtain ⟨reached, quiet⟩ := ih fun other member => unmoved other (List.mem_cons_of_mem _ member)
      rw [reachedFrom, historyFrom, after]
      refine ⟨reached, fun beat member => ?_⟩
      rcases List.mem_cons.1 member with rfl | later
      · exact ⟨effects, after⟩
      · exact quiet beat later

/-! ## Lives -/

/-- The histories of a session with the sessions they lead to. -/
inductive Life (config : SessionConfig) : List Beat → Session → Prop
  | fresh : Life config [] {}
  | beat {past : List Beat} {s : Session} (life : Life config past s) (turn : Turn) :
      Life config (past ++ [s.beat config turn]) (s.beat config turn).after

theorem Life.run {past : List Beat} {s : Session} (life : Life config past s) (turns : List Turn) :
    Life config (past ++ historyFrom config s turns) (reachedFrom config s turns) := by
  induction turns generalizing past s with
  | nil =>
      rw [historyFrom, List.append_nil]
      exact life
  | cons turn turns ih =>
      have next := ih (life.beat turn)
      rw [List.append_assoc] at next
      exact next

theorem life_of (config : SessionConfig) (turns : List Turn) :
    Life config (history config turns) (reached config turns) :=
  Life.fresh.run turns

/-- Every beat of a life continues the life before it. -/
theorem Life.at {past : List Beat} {s : Session} (life : Life config past s) {k : Nat} {beat : Beat}
    (here : past[k]? = some beat) :
    Life config (past.take k) beat.before ∧ beat = beat.before.beat config beat.turn := by
  induction life with
  | fresh => cases here
  | @beat past s life turn ih =>
      by_cases earlier : k < past.length
      · rw [List.getElem?_append_left earlier] at here
        rw [List.take_append_of_le_length (Nat.le_of_lt earlier)]
        exact ih here
      · rw [List.getElem?_append_right (Nat.le_of_not_lt earlier)] at here
        obtain ⟨last, rfl⟩ : k - past.length = 0 ∧ s.beat config turn = beat := by
          simpa [List.getElem?_singleton] using here
        obtain rfl : k = past.length := by omega
        rw [List.take_left]
        exact ⟨life, rfl⟩

theorem Life.through {past : List Beat} {s : Session} (life : Life config past s) {k : Nat}
    {beat : Beat} (here : past[k]? = some beat) : Life config (past.take (k + 1)) beat.after := by
  obtain ⟨before, same⟩ := life.at here
  rw [List.take_add_one, here, same]
  exact before.beat beat.turn

/-- What comes before a beat of a life leads to the session that it begins with. -/
theorem Life.split {first rest : List Beat} {beat : Beat} {s : Session}
    (life : Life config (first ++ beat :: rest) s) :
    Life config first beat.before ∧ beat = beat.before.beat config beat.turn := by
  have here : (first ++ beat :: rest)[first.length]? = some beat := by simp
  obtain ⟨before, same⟩ := life.at here
  rw [List.take_left] at before
  exact ⟨before, same⟩

/-- The last beat of a life leads to the session at its end. -/
theorem Life.last {past : List Beat} {beat : Beat} {s : Session}
    (life : Life config (past ++ [beat]) s) :
    Life config past beat.before ∧ beat = beat.before.beat config beat.turn ∧ s = beat.after := by
  generalize whole : past ++ [beat] = line at life
  cases life with
  | fresh => simp at whole
  | beat life turn =>
      obtain ⟨rfl, same⟩ := List.append_inj' whole rfl
      cases same
      exact ⟨life, rfl, rfl⟩

/-- Between turns the outbox is empty. -/
theorem Life.outbox {past : List Beat} {s : Session} (life : Life config past s) :
    s.outbox = [] := by
  induction life with
  | fresh => rfl
  | beat life turn ih =>
      simp only [Session.beat, step]
      split
      · rfl
      · exact ih

theorem beat_stopped {s : Session} (stopped : s.running = false) (turn : Turn) :
    (s.beat config turn).after = s ∧ (s.beat config turn).effects = [] := by
  simp only [beat, step_stopped (turn.setup config) turn.accepting stopped turn.input, and_self]

/-- Only a session that runs asks for anything. -/
theorem running_of_effect {s : Session} {turn : Turn} {effect : Effect}
    (asked : effect ∈ (s.beat config turn).effects) : s.running = true := by
  cases running : s.running with
  | true => rfl
  | false =>
      rw [(beat_stopped running turn).2] at asked
      exact absurd asked List.not_mem_nil

theorem beat_running {s : Session} (running : s.running = true) (empty : s.outbox = [])
    (turn : Turn) :
    (s.beat config turn).after =
        (s.handle (turn.setup config) turn.accepting turn.input).withOutbox [] ∧
      (s.beat config turn).effects =
        (s.handle (turn.setup config) turn.accepting turn.input).outbox := by
  have same : ({ s with outbox := [] } : Session) = s := by
    rw [← empty]
  unfold beat step
  rw [if_pos running, same]
  exact ⟨rfl, rfl⟩

/-! ## Retelling -/

/-- An entry of a longer list is one of the new ones, or one of the old ones. -/
theorem split_append {α : Type} {old new first rest : List α} {entry : α}
    (split : old ++ new = first ++ entry :: rest) :
    (∃ middle, first = old ++ middle ∧ new = middle ++ entry :: rest) ∨
      ∃ middle, old = first ++ entry :: middle ∧ rest = middle ++ new := by
  rcases List.append_eq_append_iff.1 split with ⟨middle, head, tail⟩ | ⟨middle, head, tail⟩
  · exact .inl ⟨middle, head, tail⟩
  · cases middle with
    | nil => exact .inl ⟨[], by simpa using head.symm, by simpa using tail.symm⟩
    | cons next middle =>
        obtain ⟨rfl, rfl⟩ := List.cons.inj tail
        exact .inr ⟨middle, head, rfl⟩

/-- What `f` makes of each beat of `later`, in the light of those before it. -/
def retellFrom {β : Type} (f : List Beat → Beat → List β) (earlier : List Beat) :
    List Beat → List β
  | [] => []
  | beat :: later => f earlier beat ++ retellFrom f (earlier ++ [beat]) later

def retell {β : Type} (f : List Beat → Beat → List β) (past : List Beat) : List β :=
  retellFrom f [] past

theorem retell_concat {β : Type} (f : List Beat → Beat → List β) (past : List Beat) (beat : Beat) :
    retell f (past ++ [beat]) = retell f past ++ f past beat := by
  suffices all : ∀ earlier, retellFrom f earlier (past ++ [beat]) =
      retellFrom f earlier past ++ f (earlier ++ past) beat from all []
  intro earlier
  induction past generalizing earlier with
  | nil => simp [retellFrom]
  | cons first past ih =>
      simp only [List.cons_append, retellFrom]
      rw [ih, List.append_assoc, List.append_assoc]
      rfl

/-- What is retold was told of some beat, in the light of those before it. -/
theorem mem_retell {β : Type} {f : List Beat → Beat → List β} {past : List Beat} {entry : β} :
    entry ∈ retell f past ↔
      ∃ first beat rest, past = first ++ beat :: rest ∧ entry ∈ f first beat := by
  suffices all : ∀ earlier, entry ∈ retellFrom f earlier past ↔
      ∃ first beat rest, past = first ++ beat :: rest ∧ entry ∈ f (earlier ++ first) beat from
    all []
  induction past with
  | nil =>
      intro earlier
      simp [retellFrom]
  | cons next past ih =>
      intro earlier
      rw [retellFrom, List.mem_append, ih]
      constructor
      · rintro (told | ⟨first, beat, rest, rfl, told⟩)
        · exact ⟨[], next, past, rfl, by rwa [List.append_nil]⟩
        · exact ⟨next :: first, beat, rest, rfl, by rwa [List.append_cons]⟩
      · rintro ⟨first, beat, rest, whole, told⟩
        cases first with
        | nil =>
            obtain ⟨rfl, rfl⟩ := List.cons.inj whole
            rw [List.append_nil] at told
            exact .inl told
        | cons head first =>
            obtain ⟨rfl, rfl⟩ := List.cons.inj whole
            rw [List.append_cons] at told
            exact .inr ⟨first, beat, rest, rfl, told⟩

end Tether.Session
