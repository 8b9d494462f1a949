/-
# Tether.Proofs.Transport.Families -- sinks that share a channel

A switchboard holds any number of sinks over one channel, each with its copies.  What one family
of copies sees of the board is little: who the members are, whether the family is shut, whether
the receiver is there, and what came through (`View`).  A command changes the view of a family in
a way that the view alone decides, and a command to another family does not change it at all.  So
each family lives as if it were alone.

* `see_apply` -- the view after a command is read off the view before it.
* `knows_after` -- what a family delivers, from what its members were told.
* `alike_of_thins` -- commands to other families can be left out.
* `families_apart` -- all that sinks promise that share a channel.
-/
import Tether.Transport.Sink

set_option autoImplicit false

namespace Tether.Switchboard

/-! ## Runs -/

def run (board : Switchboard) (commands : List Command) : Switchboard :=
  commands.foldl (fun board command => (board.apply command).1) board

def after (commands : List Command) : Switchboard := run {} commands

def receivedOf (board : Switchboard) (family : Nat) : List TransportEvent :=
  (board.received.filter fun entry => entry.1 == family).map (·.2)

def isShut (board : Switchboard) (family : Nat) : Bool :=
  (board.families[family]?.map Sink.detached).getD false

/-- What becomes known to a family. -/
inductive Deed
  /-- A member emits an event. -/
  | emit (event : TransportEvent)
  /-- A member is detached. -/
  | detach
  /-- The receiver goes away. -/
  | deafen
deriving DecidableEq

/-- What a command is to a family, where `members` belong to the families given. -/
def deed? (family : Nat) (members : List Nat) : Command → Option Deed
  | .emit member event => if members[member]? = some family then some (.emit event) else none
  | .detach member => if members[member]? = some family then some .detach else none
  | .dropReceiver => some .deafen
  | .create | .clone _ => none

def deedsFrom (family : Nat) (board : Switchboard) : List Command → List Deed
  | [] => []
  | command :: commands =>
      (deed? family board.members command).toList ++
        deedsFrom family (board.apply command).1 commands

def deeds (family : Nat) (commands : List Command) : List Deed := deedsFrom family {} commands

/-- The events that come through: those before the first detach and up to the first terminal
event, while the receiver is there. -/
def delivered : List Deed → List TransportEvent
  | .emit event :: rest => event :: if event.isTerminal then [] else delivered rest
  | .detach :: _ | .deafen :: _ | [] => []

theorem after_append (first second : List Command) :
    after (first ++ second) = (after first).run second := List.foldl_append

/-! ## Views -/

structure View where
  /-- The family of each member. -/
  members : List Nat
  /-- The number of families. -/
  count : Nat
  listening : Bool
  shut : Bool
  received : List TransportEvent

def see (board : Switchboard) (family : Nat) : View where
  members := board.members
  count := board.families.length
  listening := board.listening
  shut := board.isShut family
  received := board.receivedOf family

def View.take (v : View) : Deed → View
  | .emit event =>
      { v with
        shut := v.shut || event.isTerminal
        received := if !v.shut && v.listening then v.received ++ [event] else v.received }
  | .detach => { v with shut := true }
  | .deafen => { v with listening := false }

def View.enrol (v : View) : Command → View
  | .create => { v with members := v.members ++ [v.count], count := v.count + 1 }
  | .clone member => { v with members := v.members ++ v.members[member]?.toList }
  | .emit _ _ | .detach _ | .dropReceiver => v

def View.heed (family : Nat) (v : View) (command : Command) : View :=
  match deed? family v.members command with
  | some deed => v.take deed
  | none => v.enrol command

/-- Every member belongs to a family that is there. -/
def Manned (board : Switchboard) : Prop := ∀ number ∈ board.members, number < board.families.length

section Apply

variable {board : Switchboard} {family member number : Nat}

theorem family?_eq_none (absent : board.members[member]? = none) : board.family? member = none := by
  simp [family?, absent]

theorem Manned.family? (manned : board.Manned) (there : board.members[member]? = some number) :
    ∃ sink, board.families[number]? = some sink ∧ board.family? member = some (number, sink) := by
  obtain ⟨inside, rfl⟩ := List.getElem?_eq_some_iff.1 there
  have built := manned _ (List.getElem_mem inside)
  exact ⟨_, List.getElem?_eq_getElem built, by simp [Switchboard.family?, inside, built]⟩

theorem isShut_of_some {sink : Sink} (there : board.families[family]? = some sink) :
    board.isShut family = sink.detached := by
  simp [isShut, there]

/-- Another family's sink says nothing about this one. -/
theorem isShut_set (families : List Sink) {other : Nat} (apart : other ≠ family) (sink : Sink) :
    ((families.set other sink)[family]?.map Sink.detached).getD false =
      (families[family]?.map Sink.detached).getD false := by
  rw [List.getElem?_set_ne apart]

theorem isShut_set_self {families : List Sink} {sink : Sink} (there : family < families.length) :
    ((families.set family sink)[family]?.map Sink.detached).getD false = sink.detached := by
  rw [List.getElem?_set_self there]
  rfl

theorem isShut_create (families : List Sink) :
    ((families ++ [({} : Sink)])[family]?.map Sink.detached).getD false =
      (families[family]?.map Sink.detached).getD false := by
  rcases Nat.lt_trichotomy family families.length with old | new | beyond
  · rw [List.getElem?_append_left old]
  · subst new
    simp
  · have past : (families ++ [({} : Sink)]).length ≤ family := by
      rw [List.length_append, List.length_singleton]
      exact beyond
    rw [List.getElem?_eq_none past, List.getElem?_eq_none (Nat.le_of_lt beyond)]

theorem detached_emit_eq (sink : Sink) (event : TransportEvent) :
    (sink.emit event).2.detached = (sink.detached || event.isTerminal) := by
  cases terminal : event.isTerminal <;> simp [Sink.emit, terminal]

end Apply

/-- **What a family sees after a command is read off what it saw before.** -/
theorem see_apply {board : Switchboard} (manned : board.Manned) (family : Nat) (command : Command) :
    (board.apply command).1.see family = (board.see family).heed family command := by
  cases command with
  | create =>
      simp only [apply, see, View.heed, deed?, View.enrol, isShut, isShut_create, receivedOf,
        List.length_append, List.length_singleton]
  | clone member =>
      cases there : board.members[member]? with
      | none =>
          simp [apply, family?_eq_none there, see, View.heed, deed?, View.enrol, there]
      | some number =>
          obtain ⟨sink, -, found⟩ := manned.family? there
          simp [apply, found, see, View.heed, deed?, View.enrol, there, isShut, receivedOf]
  | dropReceiver => rfl
  | emit member event =>
      cases there : board.members[member]? with
      | none =>
          simp [apply, family?_eq_none there, see, View.heed, deed?, View.enrol, there]
      | some number =>
          obtain ⟨sink, built, found⟩ := manned.family? there
          by_cases own : number = family
          · subst own
            have inside := (List.getElem?_eq_some_iff.1 built).1
            simp only [apply, found, see, View.heed, deed?, there, if_true, View.take, isShut,
              isShut_set_self inside, detached_emit_eq, List.length_set, built, Option.map_some,
              Option.getD_some, View.mk.injEq, true_and]
            cases off : sink.detached <;> cases on : board.listening <;>
              simp [Sink.emit, off, receivedOf]
          · have foreign : ¬some number = some family := fun same => own (Option.some.inj same)
            simp only [apply, found, see, View.heed, deed?, there, if_neg foreign, View.enrol,
              isShut, isShut_set _ own, List.length_set, View.mk.injEq, true_and]
            split <;> simp [receivedOf, own]
  | detach member =>
      cases there : board.members[member]? with
      | none =>
          simp [apply, family?_eq_none there, see, View.heed, deed?, View.enrol, there]
      | some number =>
          obtain ⟨sink, built, found⟩ := manned.family? there
          by_cases own : number = family
          · subst own
            have inside := (List.getElem?_eq_some_iff.1 built).1
            simp only [apply, found, see, View.heed, deed?, there, if_true, View.take, isShut,
              isShut_set_self inside, List.length_set, Sink.detached_detach]
            rfl
          · have foreign : ¬some number = some family := fun same => own (Option.some.inj same)
            simp only [apply, found, see, View.heed, deed?, there, if_neg foreign, View.enrol,
              isShut, isShut_set _ own, List.length_set]
            rfl

theorem manned_apply {board : Switchboard} (manned : board.Manned) (command : Command) :
    (board.apply command).1.Manned := by
  have seen := see_apply manned 0 command
  have members := congrArg View.members seen
  have count := congrArg View.count seen
  simp only [see] at members count
  intro number there
  rw [members] at there
  rw [count]
  unfold View.heed at there ⊢
  split at there
  · rename_i deed _
    cases deed <;> exact manned number there
  · cases command with
    | create =>
        simp only [View.enrol, List.mem_append, List.mem_singleton] at there ⊢
        rcases there with old | rfl
        · exact Nat.lt_succ_of_lt (manned number old)
        · exact Nat.lt_succ_self _
    | clone member =>
        simp only [View.enrol, List.mem_append, Option.mem_toList] at there ⊢
        rcases there with old | copied
        · exact manned number old
        · exact manned number (List.mem_of_getElem? copied)
    | emit | detach | dropReceiver => exact manned number there

theorem manned_run {board : Switchboard} (manned : board.Manned) (commands : List Command) :
    (board.run commands).Manned := by
  induction commands generalizing board with
  | nil => exact manned
  | cons command commands ih => exact ih (manned_apply manned command)

theorem manned_new : ({} : Switchboard).Manned := fun _ none => absurd none List.not_mem_nil

theorem manned_after (commands : List Command) : (after commands).Manned :=
  manned_run manned_new commands

/-! ## What a family delivers -/

def Deed.shuts : Deed → Bool
  | .emit event => event.isTerminal
  | .detach => true
  | .deafen => false

def silenced (deeds : List Deed) : Bool := deeds.any Deed.shuts || deeds.contains .deafen

theorem delivered_concat (deeds : List Deed) (deed : Deed) :
    delivered (deeds ++ [deed]) =
      delivered deeds ++ if silenced deeds then [] else delivered [deed] := by
  induction deeds with
  | nil => rfl
  | cons first deeds ih =>
      cases first with
      | emit event =>
          have same : silenced (.emit event :: deeds) = (event.isTerminal || silenced deeds) := by
            simp [silenced, Deed.shuts, Bool.or_assoc]
          rw [List.cons_append, delivered, delivered, same]
          cases terminal : event.isTerminal with
          | true => simp
          | false => simp [ih]
      | detach => simp [delivered, silenced, Deed.shuts]
      | deafen => simp [delivered, silenced]

/-- Nothing follows a terminal event. -/
theorem delivered_terminal {deeds : List Deed} {early late : List TransportEvent}
    {event : TransportEvent} (split : delivered deeds = early ++ event :: late)
    (terminal : event.isTerminal = true) : late = [] := by
  induction deeds generalizing early with
  | nil => simp [delivered] at split
  | cons deed deeds ih =>
      cases deed with
      | detach | deafen => simp [delivered] at split
      | emit first =>
          rw [delivered] at split
          cases early with
          | nil =>
              obtain ⟨rfl, rest⟩ := List.cons.inj split
              rw [if_pos terminal] at rest
              exact rest.symm
          | cons head early =>
              have rest := (List.cons.inj split).2
              split at rest
              · simp at rest
              · exact ih rest

/-- A view tells no more than the deeds that led to it. -/
structure Knows (v : View) (deeds : List Deed) : Prop where
  shut : v.shut = deeds.any Deed.shuts
  listening : v.listening = !deeds.contains .deafen
  received : v.received = delivered deeds

section Knows

variable {v : View} {deeds : List Deed}

theorem Knows.take (knows : Knows v deeds) (deed : Deed) :
    Knows (v.take deed) (deeds ++ [deed]) := by
  obtain ⟨shut, listening, received⟩ := knows
  have open_ : (!v.shut && v.listening) = !silenced deeds := by
    rw [shut, listening, silenced, Bool.not_or]
  have told := delivered_concat deeds deed
  cases deed with
  | emit event =>
      refine ⟨by simp [View.take, shut, Deed.shuts], by simp [View.take, listening], ?_⟩
      rw [told, View.take, received, open_]
      cases silenced deeds <;> simp [delivered]
  | detach | deafen =>
      refine ⟨by simp [View.take, shut, Deed.shuts], by simp [View.take, listening], ?_⟩
      rw [told, View.take, received]
      simp [delivered]

theorem Knows.enrol (knows : Knows v deeds) (command : Command) :
    Knows (v.enrol command) deeds := by
  obtain ⟨shut, listening, received⟩ := knows
  cases command <;> exact ⟨shut, listening, received⟩

theorem Knows.heed (knows : Knows v deeds) (family : Nat) (command : Command) :
    Knows (v.heed family command) (deeds ++ (deed? family v.members command).toList) := by
  unfold View.heed
  split
  · rename_i deed told
    rw [told]
    exact knows.take deed
  · rename_i told
    rw [told, Option.toList_none, List.append_nil]
    exact knows.enrol command

end Knows

theorem knows_run {board : Switchboard} (manned : board.Manned) {family : Nat} {past : List Deed}
    (knows : Knows (board.see family) past) (commands : List Command) :
    Knows ((board.run commands).see family) (past ++ deedsFrom family board commands) := by
  induction commands generalizing board past with
  | nil => rwa [deedsFrom, List.append_nil]
  | cons command commands ih =>
      have next := knows.heed family command
      rw [← see_apply manned family command] at next
      rw [deedsFrom, ← List.append_assoc]
      exact ih (manned_apply manned command) next

theorem knows_after (family : Nat) (commands : List Command) :
    Knows ((after commands).see family) (deeds family commands) := by
  have start : Knows (({} : Switchboard).see family) [] := ⟨rfl, rfl, rfl⟩
  exact knows_run manned_new start commands

/-! ## Other families -/

def Elsewhere (family : Nat) (members : List Nat) : Command → Prop
  | .emit member _ | .detach member => ∃ other, members[member]? = some other ∧ other ≠ family
  | .create | .clone _ | .dropReceiver => False

/-- `fewer` are the commands that are left when operations on other families are left out. -/
inductive Thins (family : Nat) : Switchboard → List Command → List Command → Prop
  | nil {board : Switchboard} : Thins family board [] []
  | keep {board : Switchboard} (command : Command) {commands fewer : List Command}
      (rest : Thins family (board.apply command).1 commands fewer) :
      Thins family board (command :: commands) (command :: fewer)
  | skip {board : Switchboard} {command : Command} {commands fewer : List Command}
      (elsewhere : Elsewhere family board.members command)
      (rest : Thins family (board.apply command).1 commands fewer) :
      Thins family board (command :: commands) fewer

def reply? (family : Nat) (board : Switchboard) (command : Command) : Option Answer :=
  match deed? family board.members command with
  | some (.emit _) | some .detach => some (board.apply command).2
  | some .deafen | none => none

def repliesFrom (family : Nat) (board : Switchboard) : List Command → List Answer
  | [] => []
  | command :: commands =>
      (reply? family board command).toList ++ repliesFrom family (board.apply command).1 commands

def replies (family : Nat) (commands : List Command) : List Answer := repliesFrom family {} commands

section Elsewhere

variable {board : Switchboard} {family : Nat} {command : Command}

theorem deed?_elsewhere (elsewhere : Elsewhere family board.members command) :
    deed? family board.members command = none := by
  cases command with
  | emit | detach =>
      obtain ⟨other, there, apart⟩ := elsewhere
      simp [deed?, there, apart]
  | create | clone | dropReceiver => exact elsewhere.elim

theorem see_elsewhere (manned : board.Manned) (elsewhere : Elsewhere family board.members command) :
    (board.apply command).1.see family = board.see family := by
  have none := deed?_elsewhere elsewhere
  rw [see_apply manned]
  unfold View.heed
  simp only [see, none]
  cases command with
  | emit | detach => rfl
  | create | clone | dropReceiver => exact elsewhere.elim

theorem apply_emit (manned : board.Manned) {member : Nat}
    (there : board.members[member]? = some family) (event : TransportEvent) :
    (board.apply (.emit member event)).2 = .emitted (!board.isShut family && board.listening) ∧
      (board.apply (.emit member event)).1.received = board.received ++
        if !board.isShut family && board.listening then [(family, event)] else [] := by
  obtain ⟨sink, built, found⟩ := manned.family? there
  simp only [apply, found, isShut_of_some built]
  cases off : sink.detached <;> cases on : board.listening <;> simp [Sink.emit, off]

theorem apply_detach (manned : board.Manned) {member : Nat}
    (there : board.members[member]? = some family) :
    (board.apply (.detach member)).2 = .done ∧
      (board.apply (.detach member)).1.isShut family = true := by
  obtain ⟨sink, built, found⟩ := manned.family? there
  have inside := (List.getElem?_eq_some_iff.1 built).1
  simp only [apply, found, isShut, isShut_set_self inside, Sink.detached_detach, and_self]

/-- What a family is answered is read off what it sees. -/
theorem reply?_congr {other : Switchboard} (manned : board.Manned) (manned' : other.Manned)
    (same : other.see family = board.see family) (command : Command) :
    reply? family other command = reply? family board command := by
  have members : other.members = board.members := congrArg View.members same
  have shut : other.isShut family = board.isShut family := congrArg View.shut same
  have listening : other.listening = board.listening := congrArg View.listening same
  unfold reply?
  rw [members]
  cases command with
  | emit member event =>
      by_cases there : board.members[member]? = some family
      · simp only [deed?, if_pos there, (apply_emit manned there event).1,
          (apply_emit manned' (members ▸ there) event).1, shut, listening]
      · simp only [deed?, if_neg there]
  | detach member =>
      by_cases there : board.members[member]? = some family
      · simp only [deed?, if_pos there, (apply_detach manned there).1,
          (apply_detach manned' (members ▸ there)).1]
      · simp only [deed?, if_neg there]
  | create | clone | dropReceiver => rfl

end Elsewhere

/-- A family sees the same where operations on other families are left out. -/
theorem alike_of_thins {family : Nat} {board other : Switchboard} {commands fewer : List Command}
    (thins : Thins family board commands fewer) (manned : board.Manned) (manned' : other.Manned)
    (same : other.see family = board.see family) :
    (other.run fewer).see family = (board.run commands).see family ∧
      repliesFrom family other fewer = repliesFrom family board commands := by
  induction thins generalizing other with
  | nil => exact ⟨same, rfl⟩
  | @keep board command commands fewer _ ih =>
      have next : (other.apply command).1.see family = (board.apply command).1.see family := by
        rw [see_apply manned', see_apply manned, same]
      obtain ⟨seen, answered⟩ :=
        ih (manned_apply manned command) (manned_apply manned' command) next
      refine ⟨seen, ?_⟩
      rw [repliesFrom, repliesFrom, answered, reply?_congr manned manned' same]
  | skip elsewhere rest ih =>
      have still := see_elsewhere manned elsewhere
      obtain ⟨seen, answered⟩ := ih (manned_apply manned _) manned' (same.trans still.symm)
      refine ⟨seen, ?_⟩
      rw [repliesFrom, answered, reply?, deed?_elsewhere elsewhere]
      rfl

/-! ## Members -/

/-- A member stays in its family. -/
theorem members_apply {board : Switchboard} (manned : board.Manned) (command : Command) :
    board.members <+: (board.apply command).1.members := by
  have members := congrArg View.members (see_apply manned 0 command)
  simp only [see] at members
  rw [members]
  unfold View.heed
  split
  · rename_i deed _
    cases deed <;> exact List.prefix_refl _
  · cases command with
    | create | clone => exact List.prefix_append ..
    | emit | detach | dropReceiver => exact List.prefix_refl _

theorem members_run {board : Switchboard} (manned : board.Manned) (commands : List Command) :
    board.members <+: (board.run commands).members := by
  induction commands generalizing board with
  | nil => exact List.prefix_refl _
  | cons command commands ih =>
      exact (members_apply manned command).trans (ih (manned_apply manned command))

theorem member_stays {board : Switchboard} (manned : board.Manned) {member family : Nat}
    (there : board.members[member]? = some family) (commands : List Command) :
    (board.run commands).members[member]? = some family := by
  obtain ⟨inside, rfl⟩ := List.getElem?_eq_some_iff.1 there
  exact List.prefix_iff_getElem?.1 (members_run manned commands) member inside

/-- What a member reports is its family's. -/
theorem detachedFlags_member (board : Switchboard) {member family : Nat}
    (there : board.members[member]? = some family) :
    board.detachedFlags[member]? = some (board.isShut family) := by
  simp [detachedFlags, there, isShut]

/-- Every member can be copied. -/
theorem clone_member {board : Switchboard} (manned : board.Manned) {member family : Nat}
    (there : board.members[member]? = some family) :
    ∃ copy, (board.apply (.clone member)).2 = .cloned copy := by
  obtain ⟨sink, -, found⟩ := manned.family? there
  exact ⟨board.members.length, by simp only [apply, found]⟩

/-- A copy is of its original's family. -/
theorem apply_clone {board : Switchboard} (manned : board.Manned) {member copy : Nat}
    (cloned : (board.apply (.clone member)).2 = .cloned copy) :
    ∃ family, board.members[member]? = some family ∧
      (board.apply (.clone member)).1.members[copy]? = some family := by
  cases there : board.members[member]? with
  | none => simp [apply, family?_eq_none there] at cloned
  | some family =>
      obtain ⟨sink, -, found⟩ := manned.family? there
      simp only [apply, found, Answer.cloned.injEq] at cloned ⊢
      subst cloned
      exact ⟨family, rfl, by simp⟩

/-- A sink that is new has a family of its own. -/
theorem apply_create {board : Switchboard} (manned : board.Manned) {member : Nat}
    (created : (board.apply .create).2 = .created member) :
    ∃ family, family ∉ board.members ∧
      (board.apply .create).1.members[member]? = some family := by
  simp only [apply, Answer.created.injEq] at created ⊢
  subst created
  exact ⟨board.families.length, fun old => Nat.lt_irrefl _ (manned _ old), by simp⟩

/-- **Sinks on one channel do not meddle with each other.**  A copy reports for the same transport
as its original and says the same of being detached, and a new sink reports for a transport of its
own.  What comes through from a family are the events of its members before the first detach, up to
the first terminal event, and while the receiver is there; nothing follows a terminal event.  An
emit answers whether its event came through.  A sink can be created at any time, and any member can
be copied, or detached, which shuts its family.  And however many operations on other families are
left out, a family delivers and answers the same. -/
theorem families_apart (commands : List Command) :
    (∀ first member copy last, commands = first ++ .clone member :: last →
      ((after first).apply (.clone member)).2 = .cloned copy →
        ∃ family, (after commands).members[member]? = some family ∧
          (after commands).members[copy]? = some family ∧
          (after commands).detachedFlags[member]? = some ((after commands).isShut family) ∧
          (after commands).detachedFlags[copy]? = some ((after commands).isShut family)) ∧
      (∀ first member last, commands = first ++ .create :: last →
        ((after first).apply .create).2 = .created member →
          ∃ family, family ∉ (after first).members ∧
            (after commands).members[member]? = some family) ∧
      (∀ family, (after commands).receivedOf family = delivered (deeds family commands) ∧
        (after commands).isShut family = (deeds family commands).any Deed.shuts) ∧
      (∀ family early event late, (after commands).receivedOf family = early ++ event :: late →
        event.isTerminal = true → late = []) ∧
      (∀ family member event, (after commands).members[member]? = some family →
        ∃ passed, ((after commands).apply (.emit member event)).2 = .emitted passed ∧
          ((after commands).apply (.emit member event)).1.received =
            (after commands).received ++ if passed then [(family, event)] else []) ∧
      (∃ member, ((after commands).apply .create).2 = .created member) ∧
      (∀ family member, (after commands).members[member]? = some family →
        (∃ copy, ((after commands).apply (.clone member)).2 = .cloned copy) ∧
          ((after commands).apply (.detach member)).2 = .done ∧
          ((after commands).apply (.detach member)).1.isShut family = true) ∧
      ∀ family fewer, Thins family {} commands fewer →
        (after fewer).receivedOf family = (after commands).receivedOf family ∧
          (after fewer).isShut family = (after commands).isShut family ∧
          replies family fewer = replies family commands := by
  have manned := manned_after commands
  refine ⟨?_, ?_, ?_, ?_, ?_, ⟨_, rfl⟩, ?_, ?_⟩
  · rintro first member copy last rfl cloned
    obtain ⟨family, there, copied⟩ := apply_clone (manned_after first) cloned
    have original := member_stays (manned_after first) there (.clone member :: last)
    have twin := member_stays (manned_apply (manned_after first) _) copied last
    rw [after_append]
    exact ⟨family, original, twin, detachedFlags_member _ original, detachedFlags_member _ twin⟩
  · rintro first member last rfl created
    obtain ⟨family, unused, there⟩ := apply_create (manned_after first) created
    rw [after_append]
    exact ⟨family, unused, member_stays (manned_apply (manned_after first) _) there last⟩
  · intro family
    obtain ⟨shut, -, received⟩ := knows_after family commands
    exact ⟨received, shut⟩
  · intro family early event late split terminal
    have told : (after commands).receivedOf family = delivered (deeds family commands) :=
      (knows_after family commands).received
    exact delivered_terminal (told.symm.trans split) terminal
  · intro family member event there
    exact ⟨_, apply_emit manned there event⟩
  · intro family member there
    obtain ⟨answered, shut⟩ := apply_detach manned there
    exact ⟨clone_member manned there, answered, shut⟩
  · intro family fewer thins
    obtain ⟨seen, answered⟩ := alike_of_thins thins manned_new manned_new rfl
    exact ⟨congrArg View.received seen, congrArg View.shut seen, answered⟩

end Tether.Switchboard
