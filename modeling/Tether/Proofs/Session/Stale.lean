/-
# Tether.Proofs.Session.Stale -- inputs that come too late

Messages cross.  When a session is called on, its inbox may already hold an event of a
transport that it has since given up, the expiry of a timer that it has since set anew,
the reply to a request that it has since replaced.  Such an input is stale (`Stale`),
and whether it is depends on the order of things alone: what was begun under its number
was ended later on, or its transport is not the one in use.

A session keeps no record of what it ended.  It compares numbers, which suffices because
none is ever given twice: a ledger is in order (`Ordered`) if no number that was begun
exceeds the latest one, and if the latest one is awaited only while nothing ended it.

* `life_ordered` -- the ledger of every life is in order.
* `life_linked` -- no transport that was given up is in use, nor will one like it be.
* `handle_stale` -- a stale input leaves the session as it is, and asks for nothing.
* `erase_stale` -- a run without its stale inputs is the same run.
-/
import Mathlib.Data.List.Basic
import Mathlib.Data.List.Induction
import Tether.Proofs.Session.Ledger

set_option autoImplicit false

namespace Tether

/-! ## Begun and ended -/

def Entry.Begins (errand : Errand) (number : Nat) : Entry → Prop
  | .asked (.start timer ticket _) => errand = .timer timer ∧ number = ticket.generation
  | .asked (.request attempt _ _) => errand = .request ∧ number = attempt
  | _ => False

/-- The entry ends what is under way: it calls it off, begins anew, or brings the answer. -/
def Entry.Ends (errand : Errand) (number : Nat) : Entry → Prop
  | .asked (.start timer _ _) => errand = .timer timer
  | .asked (.stop timer ticket) => errand = .timer timer ∧ number = ticket.generation
  | .asked (.request _ _ _) => errand = .request
  | .asked (.abandon attempt) => errand = .request ∧ number = attempt
  | .taken input => input.answers = some (errand, number)
  | _ => False

def Effect.errand : Effect → Option Errand
  | .start timer _ _ | .stop timer _ => some (.timer timer)
  | .request _ _ _ | .abandon _ => some .request
  | _ => none

theorem Entry.concerned_begins {errand : Errand} {number : Nat} {effect : Effect}
    (begins : (Entry.asked effect).Begins errand number) : effect.errand = some errand := by
  cases effect with
  | start timer ticket delay => exact congrArg some begins.1.symm
  | request attempt manual instanceId => exact congrArg some begins.1.symm
  | _ => exact begins.elim

theorem Entry.concerned_ends {errand : Errand} {number : Nat} {effect : Effect}
    (ends : (Entry.asked effect).Ends errand number) : effect.errand = some errand := by
  cases effect with
  | start timer ticket delay => exact congrArg some (Eq.symm ends)
  | stop timer ticket => exact congrArg some ends.1.symm
  | request attempt manual instanceId => exact congrArg some (Eq.symm ends)
  | abandon attempt => exact congrArg some ends.1.symm
  | _ => exact ends.elim

theorem Effect.Plain.errand {effect : Effect} (plain : effect.Plain) : effect.errand = none := by
  cases effect with
  | start timer ticket delay => exact plain.elim
  | stop timer ticket => exact plain.elim
  | request attempt manual instanceId => exact plain.elim
  | abandon attempt => exact plain.elim
  | _ => rfl

theorem revocation_errand {timer : SessionTimer} {slot : TimerSlot} {effect : Effect}
    (member : effect ∈ Session.revocation timer slot) : effect.errand = some (.timer timer) := by
  obtain ⟨ticket, -, rfl⟩ := List.mem_map.1 member
  rfl

theorem start_errand {timer : SessionTimer} {slot : TimerSlot} {ticket : Ticket} {delay : Nat}
    {effect : Effect}
    (member : effect ∈ Session.revocation timer slot ++ [.start timer ticket delay]) :
    effect.errand = some (.timer timer) := by
  rcases List.mem_append.1 member with called | started
  · exact revocation_errand called
  · obtain rfl := List.mem_singleton.1 started
    rfl

theorem retirement_errand {links : List Link} {effect : Effect}
    (member : effect ∈ Session.retirement links) : effect.errand = none := by
  obtain ⟨link, -, rfl⟩ := List.mem_map.1 member
  rfl

def Over (log : List Entry) (errand : Errand) (number : Nat) : Prop :=
  ∃ begun ended, begun.Begins errand number ∧ ended.Ends errand number ∧ [begun, ended].Sublist log

theorem Over.begun {log : List Entry} {errand : Errand} {number : Nat}
    (finished : Over log errand number) : ∃ entry ∈ log, entry.Begins errand number := by
  obtain ⟨begun, ended, begins, -, order⟩ := finished
  exact ⟨begun, order.subset (List.mem_cons_self ..), begins⟩

/-- What is over with one entry more was over before, or is ended by that entry. -/
theorem Over.of_concat {log : List Entry} {entry : Entry} {errand : Errand} {number : Nat}
    (finished : Over (log ++ [entry]) errand number) :
    Over log errand number ∨
      entry.Ends errand number ∧ ∃ begun ∈ log, begun.Begins errand number := by
  obtain ⟨begun, ended, begins, ends, order⟩ := finished
  obtain ⟨first, last, split, within, rest⟩ := List.sublist_append_iff.1 order
  rcases List.sublist_singleton.1 rest with rfl | rfl
  · rw [List.append_nil] at split
    subst split
    exact .inl ⟨begun, ended, begins, ends, within⟩
  · have parts : [begun] ++ [ended] = first ++ [entry] := split
    obtain ⟨rfl, same⟩ := List.append_inj' parts rfl
    cases same
    exact .inr ⟨ends, begun, List.singleton_sublist.1 within, begins⟩

/-! ## Ledgers in order -/

/-- The log says no more of an errand than its slot does. -/
structure Ordered (log : List Entry) (errand : Errand) (slot : TimerSlot) : Prop where
  latest : ∀ entry ∈ log, ∀ number, entry.Begins errand number → number ≤ slot.generation
  finished : ∀ number, Over log errand number → number = slot.generation → slot.pending = false

section Ordered

variable {log : List Entry} {errand : Errand} {slot : TimerSlot}

theorem Ordered.note (ordered : Ordered log errand slot) {entry : Entry}
    (begins : ∀ number, entry.Begins errand number → number ≤ slot.generation)
    (ends : ∀ number, entry.Ends errand number → number = slot.generation → slot.pending = false) :
    Ordered (log ++ [entry]) errand slot := by
  refine ⟨?_, ?_⟩
  · intro other member number begun
    rcases List.mem_append.1 member with old | new
    · exact ordered.latest other old number begun
    · obtain rfl := List.mem_singleton.1 new
      exact begins number begun
  · intro number finished latest
    rcases finished.of_concat with before | ⟨ended, -⟩
    · exact ordered.finished number before latest
    · exact ends number ended latest

/-- A slot that awaits nothing is in order, whatever its number, if that is no earlier one. -/
theorem Ordered.idle (ordered : Ordered log errand slot) {other : TimerSlot}
    (later : slot.generation ≤ other.generation) (idle : other.pending = false) :
    Ordered log errand other :=
  ⟨fun entry member number begun => Nat.le_trans (ordered.latest entry member number begun) later,
    fun _ _ _ => idle⟩

/-- Under a new number nothing is over yet. -/
theorem Ordered.begin (ordered : Ordered log errand slot) {other : TimerSlot}
    (newer : slot.generation < other.generation) {entry : Entry}
    (begins : ∀ number, entry.Begins errand number → number = other.generation) :
    Ordered (log ++ [entry]) errand other := by
  have older : ∀ number, (∃ begun ∈ log, begun.Begins errand number) →
      number < other.generation := by
    rintro number ⟨begun, member, begins⟩
    exact Nat.lt_of_le_of_lt (ordered.latest begun member number begins) newer
  refine ⟨?_, ?_⟩
  · intro begun member number starts
    rcases List.mem_append.1 member with old | new
    · exact Nat.le_of_lt (older number ⟨begun, old, starts⟩)
    · obtain rfl := List.mem_singleton.1 new
      exact Nat.le_of_eq (begins number starts)
  · intro number finished latest
    rcases finished.of_concat with before | ⟨-, before⟩
    · exact absurd latest (Nat.ne_of_lt (older number before.begun))
    · exact absurd latest (Nat.ne_of_lt (older number before))

/-- Effects that concern another errand, or none, leave this one in order. -/
theorem Ordered.others (ordered : Ordered log errand slot) (effects : List Effect)
    (others : ∀ effect ∈ effects, effect.errand ≠ some errand) :
    Ordered (log ++ effects.map .asked) errand slot := by
  induction effects generalizing log with
  | nil =>
      rw [List.map_nil, List.append_nil]
      exact ordered
  | cons effect effects ih =>
      have other := others effect (List.mem_cons_self ..)
      rw [List.map_cons, List.append_cons]
      refine ih (ordered.note ?_ ?_) fun effect member =>
        others effect (List.mem_cons_of_mem _ member)
      · intro number begun
        exact absurd (Entry.concerned_begins begun) other
      · intro number ended
        exact absurd (Entry.concerned_ends ended) other

/-- A timer that was called off awaits nothing. -/
theorem Ordered.revoke {timer : SessionTimer} (ordered : Ordered log (.timer timer) slot) :
    Ordered (log ++ (Session.revocation timer slot).map .asked) (.timer timer)
      { slot with pending := false } := by
  have idle : Ordered log (.timer timer) { slot with pending := false } :=
    ordered.idle (Nat.le_refl _) rfl
  unfold Session.revocation
  cases slot.revoked with
  | none =>
      rw [Option.toList_none, List.map_nil, List.map_nil, List.append_nil]
      exact idle
  | some ticket => exact idle.note (fun _ begun => begun.elim) fun _ _ _ => rfl

end Ordered

/-! ## Acts keep order -/

namespace Ledger

def Orderly (l : Ledger) : Prop := ∀ errand, Ordered l.log errand (l.errand errand)

theorem Orderly.hear {l : Ledger} (orderly : l.running = true → l.Orderly) (input : Input)
    (running : l.running = true) : (l.hear input).Orderly := by
  intro errand
  have held := orderly running errand
  show Ordered (l.log ++ [.taken input]) errand (if _ then _ else _)
  split
  · have idle : Ordered l.log errand { l.errand errand with pending := false } :=
      held.idle (Nat.le_refl _) rfl
    exact idle.note (fun _ begun => begun.elim) fun _ _ _ => rfl
  · rename_i unanswered
    refine held.note (fun _ begun => begun.elim) fun number ended latest => ?_
    subst latest
    exact absurd ⟨running, ended⟩ unanswered

/-- Effects that concern no errand leave all in order. -/
theorem Orderly.ask {l : Ledger} (orderly : l.Orderly) {effects : List Effect}
    (aloof : ∀ effect ∈ effects, effect.errand = none) : (l.ask effects).Orderly := by
  intro errand
  refine (orderly errand).others effects fun effect member same => ?_
  cases same.symm.trans (aloof effect member)

/-- Effects that concern one errand leave the others in order. -/
theorem Orderly.renumber {l : Ledger} (orderly : l.Orderly) {errand : Errand} {slot : TimerSlot}
    {effects : List Effect} (own : Ordered (l.log ++ effects.map .asked) errand slot)
    (alone : ∀ effect ∈ effects, effect.errand = some errand) :
    ((l.renumber errand slot).ask effects).Orderly := by
  intro other
  show Ordered (l.log ++ effects.map .asked) other (if other = errand then slot else l.errand other)
  split
  · rename_i same
    subst same
    exact own
  · rename_i different
    refine (orderly other).others effects fun effect member same => ?_
    exact different (Option.some.inj (same.symm.trans (alone effect member)))

/-- A session that stopped stays so. -/
theorem Act.running {l m : Ledger} (act : Act l m) (running : m.running = true) :
    l.running = true := by
  cases act with
  | stop => cases running
  | _ => exact running

theorem Orderly.act {l m : Ledger} (orderly : l.Orderly) (act : Act l m) : m.Orderly := by
  cases act with
  | say effect plain =>
      refine orderly.ask fun other member => ?_
      obtain rfl := List.mem_singleton.1 member
      exact plain.errand
  | cancel timer =>
      refine orderly.renumber ((orderly (.timer timer)).revoke.idle (Nat.le_succ _) rfl) ?_
      exact fun effect member => revocation_errand member
  | start timer delay =>
      refine orderly.renumber ?_ ?_
      · rw [List.map_append, ← List.append_assoc]
        exact (orderly (.timer timer)).revoke.begin (Nat.lt_succ_self _) fun _ begun => begun.2
      · exact fun effect member => start_errand member
  | abandon pending =>
      have idle : Ordered l.log .request { l.errand .request with pending := false } :=
        (orderly .request).idle (Nat.le_refl _) rfl
      refine orderly.renumber (idle.note (fun _ begun => begun.elim) fun _ _ _ => rfl) ?_
      intro effect member
      obtain rfl := List.mem_singleton.1 member
      rfl
  | request manual instanceId free =>
      refine orderly.renumber ?_ ?_
      · exact (orderly .request).begin (Nat.lt_succ_self _) fun _ begun => begun.2
      · intro effect member
        obtain rfl := List.mem_singleton.1 member
        rfl
  | setAside used => exact Orderly.ask orderly fun _ member => retirement_errand member
  | dropLinks => exact Orderly.ask orderly fun _ member => retirement_errand member
  | openLink kind =>
      refine Orderly.ask orderly fun effect member => ?_
      obtain rfl := List.mem_singleton.1 member
      rfl
  | stop => exact Orderly.ask orderly nofun

/-- No transport that was given up is in use, and the next one will be a new one. -/
structure Linked (l : Ledger) : Prop where
  used : ∀ link, l.active = some link ∨ l.retired = some link → link.number < l.nextLink
  gone : ∀ number, .asked (.retire number) ∈ l.log →
    number < l.nextLink ∧ l.active.map (·.number) ≠ some number

theorem Linked.hear {l : Ledger} (linked : l.Linked) (input : Input) : (l.hear input).Linked := by
  refine ⟨linked.used, fun number member => ?_⟩
  rcases List.mem_append.1 member with old | new
  · exact linked.gone number old
  · cases List.mem_singleton.1 new

/-- What is asked for besides giving transports up leaves the transports as they are. -/
theorem Linked.ask {l : Ledger} (linked : l.Linked) {effects : List Effect}
    (kept : ∀ number, .retire number ∉ effects) : (l.ask effects).Linked := by
  refine ⟨linked.used, fun number member => ?_⟩
  rcases List.mem_append.1 member with old | new
  · exact linked.gone number old
  · obtain ⟨effect, asked, same⟩ := List.mem_map.1 new
    cases same
    exact absurd asked (kept number)

/-- Effects that concern an errand leave the transports as they are. -/
theorem Linked.renumber {l : Ledger} (linked : l.Linked) {errand : Errand} {slot : TimerSlot}
    {effects : List Effect} (alone : ∀ effect ∈ effects, effect.errand = some errand) :
    ((l.renumber errand slot).ask effects).Linked := by
  have renumbered : (l.renumber errand slot).Linked := { linked with }
  refine renumbered.ask fun number member => ?_
  cases alone _ member

/-- Transports may be given up once none is in use. -/
theorem Linked.give {l : Ledger} (linked : l.Linked) (links : List Link)
    (unused : l.active = none) (known : ∀ link ∈ links, link.number < l.nextLink) :
    (l.ask (Session.retirement links)).Linked := by
  refine ⟨linked.used, fun number member => ?_⟩
  rcases List.mem_append.1 member with old | new
  · exact linked.gone number old
  · obtain ⟨effect, asked, same⟩ := List.mem_map.1 new
    cases same
    obtain ⟨link, given, same⟩ := List.mem_map.1 asked
    cases same
    refine ⟨known link given, ?_⟩
    show l.active.map _ ≠ _
    rw [unused]
    exact nofun

theorem Linked.act {l m : Ledger} (linked : l.Linked) (act : Act l m) : m.Linked := by
  cases act with
  | say effect plain =>
      refine linked.ask fun number member => ?_
      rw [List.mem_singleton] at member
      subst member
      exact plain
  | cancel timer => exact linked.renumber fun _ member => revocation_errand member
  | start timer delay => exact linked.renumber fun _ member => start_errand member
  | abandon pending =>
      refine linked.renumber fun effect member => ?_
      obtain rfl := List.mem_singleton.1 member
      rfl
  | request manual instanceId free =>
      refine linked.renumber fun effect member => ?_
      obtain rfl := List.mem_singleton.1 member
      rfl
  | @setAside link used =>
      have aside : ({ l with active := none, retired := some link } : Ledger).Linked := by
        refine ⟨?_, fun number member => ⟨(linked.gone number member).1, nofun⟩⟩
        rintro other (active | retired)
        · cases active
        · cases retired
          exact linked.used link (.inl used)
      refine aside.give _ rfl fun other member => ?_
      rcases List.mem_cons.1 member with rfl | older
      · exact linked.used _ (.inl used)
      · exact linked.used _ (.inr (Option.mem_toList.1 older))
  | dropLinks =>
      have dropped : ({ l with active := none, retired := none } : Ledger).Linked := by
        refine ⟨?_, fun number member => ⟨(linked.gone number member).1, nofun⟩⟩
        rintro other (active | retired)
        · cases active
        · cases retired
      refine dropped.give _ rfl fun link member => ?_
      rcases List.mem_append.1 member with active | retired
      · exact linked.used _ (.inl (Option.mem_toList.1 active))
      · exact linked.used _ (.inr (Option.mem_toList.1 retired))
  | openLink kind =>
      have opened : ({ l with active := some ⟨l.nextLink, kind⟩, nextLink := l.nextLink + 1 } :
          Ledger).Linked := by
        refine ⟨?_, fun number member => ?_⟩
        · rintro link (active | retired)
          · cases active
            exact Nat.lt_succ_self _
          · exact Nat.lt_succ_of_lt (linked.used link (.inr retired))
        · obtain ⟨known, -⟩ := linked.gone number member
          refine ⟨Nat.lt_succ_of_lt known, fun same => ?_⟩
          exact absurd (Option.some.inj same) (Nat.ne_of_gt known)
      refine opened.ask fun number member => ?_
      cases List.mem_singleton.1 member
  | stop =>
      have stopped : ({ l with running := false } : Ledger).Linked := { linked with }
      exact stopped.ask nofun

end Ledger

namespace Session

variable {config : SessionConfig} {past : List Beat} {s : Session}

/-- While a session runs, the log says no more of its errands than their slots do. -/
theorem life_ordered (life : Life config past s) (running : s.running = true) (errand : Errand) :
    Ordered (log past) errand (s.errand errand) := by
  have orderly : (s.ledger (log past)).Orderly := by
    refine life.keeps (P := fun l => l.running = true → l.Orderly) ?_ ?_ ?_ running
    · intro _ errand
      refine ⟨nofun, fun number finished => ?_⟩
      obtain ⟨entry, member, -⟩ := finished.begun
      cases member
    · intro l input orderly
      exact Ledger.Orderly.hear orderly input
    · intro l m act orderly running
      exact (orderly (act.running running)).act act
  have ordered := orderly errand
  rw [ledger, life.outbox, List.map_nil, List.append_nil] at ordered
  exact ordered

theorem life_linked (life : Life config past s) : (s.ledger (log past)).Linked := by
  refine life.keeps ⟨?_, nofun⟩ (fun _ input linked => linked.hear input)
    fun _ _ act linked => linked.act act
  rintro link (active | retired)
  · cases active
  · cases retired

def Retired (past : List Beat) (number : Nat) : Prop :=
  ∃ beat ∈ past, .retire number ∈ beat.effects

/-- No transport that was given up is in use. -/
theorem retired_unused (life : Life config past s) {number : Nat} (retired : Retired past number) :
    s.active.map (·.number) ≠ some number := by
  obtain ⟨beat, member, given⟩ := retired
  have logged : .asked (.retire number) ∈ log past ++ s.outbox.map .asked := by
    refine List.mem_append_left _ (List.mem_flatMap.2 ⟨beat, member, ?_⟩)
    exact List.mem_cons_of_mem _ (List.mem_map_of_mem given)
  exact ((life_linked life).gone number logged).2

/-! ## Stale inputs -/

/-- The input came too late: its transport is not the one in use, or what was begun under its
number was ended since. -/
def Stale (past : List Beat) (s : Session) : Input → Prop
  | .transport number _ => s.active.map (·.number) ≠ some number
  | .expired timer ticket => Over (log past) (.timer timer) ticket.generation
  | .resolved attempt _ _ => Over (log past) .request attempt
  | _ => False

/-- A stale input leaves the session as it is, and asks for nothing. -/
theorem handle_stale (life : Life config past s) (running : s.running = true) (setup : Setup)
    (accepting : Bool) {input : Input} (stale : Stale past s input) :
    s.handle setup accepting input = s := by
  cases input with
  | transport number event => exact onTransport_stale setup accepting stale event
  | expired timer ticket =>
      have idle := (life_ordered life running (.timer timer)).finished _ stale
      rw [handle_expired, if_neg]
      rintro ⟨rfl, pending⟩
      cases pending.symm.trans (idle rfl)
  | resolved attempt manual reply =>
      have idle := (life_ordered life running .request).finished _ stale
      rw [handle_resolved, if_neg]
      rintro ⟨rfl, pending⟩
      cases pending.symm.trans (idle rfl)
  | _ => exact stale.elim

theorem beat_stale (life : Life config past s) {turn : Turn} (stale : Stale past s turn.input) :
    (s.beat config turn).after = s ∧ (s.beat config turn).effects = [] := by
  cases running : s.running with
  | false => exact beat_stopped running turn
  | true =>
      obtain ⟨after, effects⟩ := beat_running running life.outbox turn
      rw [handle_stale life running (turn.setup config) turn.accepting stale] at after effects
      rw [after, effects, withOutbox, ← life.outbox]
      exact ⟨rfl, rfl⟩

/-! ## Runs without their stale inputs -/

/-- The elements at the positions that are not `doomed`. -/
def spared {α : Type} (doomed : Nat → Bool) (items : List α) : List α :=
  (items.zipIdx.filter fun item => !doomed item.2).map Prod.fst

theorem spared_concat {α : Type} (doomed : Nat → Bool) (items : List α) (item : α) :
    spared doomed (items ++ [item]) =
      spared doomed items ++ if doomed items.length then [] else [item] := by
  unfold spared
  rw [List.zipIdx_append, List.filter_append, List.map_append, Nat.zero_add]
  cases cut : doomed items.length <;> simp [cut]

def AllStale (past : List Beat) (doomed : Nat → Bool) : Prop :=
  ∀ k beat, past[k]? = some beat → doomed k = true → Stale (past.take k) beat.before beat.turn.input

theorem AllStale.of_concat {beat : Beat} {doomed : Nat → Bool}
    (stale : AllStale (past ++ [beat]) doomed) :
    AllStale past doomed ∧
      (doomed past.length = true → Stale past beat.before beat.turn.input) := by
  refine ⟨?_, ?_⟩
  · intro k other here cut
    have inside : k < past.length := (List.getElem?_eq_some_iff.1 here).1
    have held := stale k other
    rw [List.getElem?_append_left inside,
      List.take_append_of_le_length (Nat.le_of_lt inside)] at held
    exact held here cut
  · intro cut
    have held := stale past.length beat
    rw [List.getElem?_concat_length, List.take_left] at held
    exact held rfl cut

/-- **Stale inputs leave no trace.**  Handling one changes no field and asks for nothing, and
however many are taken out of a run, what is left of it goes as before: beat by beat the same
sessions, and the same effects in the same order.  A transport that was given up is never in
use again. -/
theorem erase_stale (config : SessionConfig) (turns : List Turn) (doomed : Nat → Bool)
    (stale : AllStale (history config turns) doomed) :
    (∀ k beat, (history config turns)[k]? = some beat → doomed k = true →
      beat.after = beat.before ∧ beat.effects = []) ∧
    history config (spared doomed turns) = spared doomed (history config turns) ∧
    reached config (spared doomed turns) = reached config turns ∧
    ∀ k beat, (history config turns)[k]? = some beat →
      ∀ number, Retired ((history config turns).take (k + 1)) number →
        beat.after.active.map (·.number) ≠ some number := by
  have life := life_of config turns
  refine ⟨?_, ?_⟩
  · intro k beat here cut
    obtain ⟨before, same⟩ := life.at here
    rw [same]
    exact beat_stale before (stale k beat here cut)
  refine and_assoc.1 ⟨?_, ?_⟩
  · clear life
    induction turns using List.reverseRecOn with
    | nil => exact ⟨rfl, rfl⟩
    | append_singleton turns turn ih =>
        rw [history_concat] at stale
        obtain ⟨earlier, last⟩ := stale.of_concat
        obtain ⟨same, final⟩ := ih earlier
        rw [length_history] at last
        rw [spared_concat, history_concat, spared_concat, length_history, reached_concat]
        -- The shorter run has come to the same session, where a stale beat changes nothing.
        cases cut : doomed turns.length with
        | true =>
            obtain ⟨after, -⟩ := beat_stale (life_of config turns) (last cut)
            rw [if_pos rfl, if_pos rfl, List.append_nil, List.append_nil]
            exact ⟨same, final.trans after.symm⟩
        | false =>
            rw [if_neg Bool.false_ne_true, if_neg Bool.false_ne_true, history_concat,
              reached_concat, same, final]
            exact ⟨rfl, rfl⟩
  · intro k beat here number retired
    exact retired_unused (life.through here) retired

/-- A transport fails while its opening is still queued, and the retry that follows runs out
twice. -/
def crossing : List Turn :=
  [{ input := .init ⟨"S"⟩ ⟨"T"⟩ false }, { input := .transport 0 .failed },
    { input := .transport 0 .opened }, { input := .expired .retry ⟨2⟩ },
    { input := .expired .retry ⟨2⟩ }, { input := .expired .settle ⟨3⟩ }]

def crossed (k : Nat) : Bool := k == 2 || k == 4

/-- Without the late opening and the second expiry the other four beats are the same. -/
theorem crossing_erased :
    AllStale (history {} crossing) crossed ∧
      history {} (spared crossed crossing) = spared crossed (history {} crossing) := by
  have stale : AllStale (history {} crossing) crossed := by
    intro k beat here cut
    unfold crossed at cut
    rw [Bool.or_eq_true, beq_iff_eq, beq_iff_eq] at cut
    rcases cut with rfl | rfl
    · obtain ⟨-, rfl⟩ := List.getElem?_eq_some_iff.1 here
      show (reached {} (crossing.take 2)).active.map (·.number) ≠ some 0
      decide
    · obtain ⟨-, rfl⟩ := List.getElem?_eq_some_iff.1 here
      refine ⟨.asked (.start .retry ⟨2⟩ 1500), .taken (.expired .retry ⟨2⟩), ⟨rfl, rfl⟩, rfl, ?_⟩
      decide
  exact ⟨stale, (erase_stale {} crossing crossed stale).2.1⟩

end Session

end Tether
