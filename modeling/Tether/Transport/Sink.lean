/-
# Tether.Transport.Sink -- where a transport reports its events

A sink lets events through until it is detached, by its owner or by a terminal
event that passes it; from then on it drops everything.  Copies of a sink are one
sink: they share the flag.  A `Switchboard` is a set of such families over one
channel whose receiver may go away.

* `emit_detached` -- a detached sink lets nothing through and stays detached.
* `emit_terminal` -- after a terminal event a sink is detached.
* `detached_emit` -- no event reattaches a sink.
-/
import Tether.Transport

set_option autoImplicit false

namespace Tether

structure Sink where
  detached : Bool := false
deriving DecidableEq, Inhabited

namespace Sink

def detach (_ : Sink) : Sink := ⟨true⟩

/-- Whether `event` passes, and the sink after it. -/
def emit (sink : Sink) (event : TransportEvent) : Bool × Sink :=
  (!sink.detached, if event.isTerminal then sink.detach else sink)

@[simp] theorem detached_detach (sink : Sink) : sink.detach.detached = true := rfl

theorem emit_detached {sink : Sink} (off : sink.detached = true) (event : TransportEvent) :
    (sink.emit event).1 = false ∧ (sink.emit event).2.detached = true := by
  simp only [emit, off, Bool.not_true, true_and]
  split <;> simp [off]

theorem emit_terminal (sink : Sink) {event : TransportEvent} (terminal : event.isTerminal = true) :
    (sink.emit event).2.detached = true := by
  simp [emit, terminal]

theorem detached_emit (sink : Sink) {event : TransportEvent} (going : event.isTerminal = false) :
    (sink.emit event).2 = sink := by
  simp [emit, going]

end Sink

/-- Sink families over one channel.  A member is known by its number, a family by the
number of the transport it reports for; both count from zero. -/
structure Switchboard where
  families : List Sink := []
  members : List Nat := []
  received : List (Nat × TransportEvent) := []
  listening : Bool := true

namespace Switchboard

inductive Command
  | create
  | clone (member : Nat)
  | emit (member : Nat) (event : TransportEvent)
  | detach (member : Nat)
  | dropReceiver

inductive Answer
  | created (member : Nat)
  | cloned (member : Nat)
  | emitted (passed : Bool)
  | done
  | noSuchMember
deriving DecidableEq

def family? (board : Switchboard) (member : Nat) : Option (Nat × Sink) := do
  let number ← board.members[member]?
  let sink ← board.families[number]?
  some (number, sink)

def apply (board : Switchboard) : Command → Switchboard × Answer
  | .create =>
      ({ board with
          families := board.families ++ [{}]
          members := board.members ++ [board.families.length] },
        .created board.members.length)
  | .clone member =>
      match board.family? member with
      | some (number, _) =>
          ({ board with members := board.members ++ [number] }, .cloned board.members.length)
      | none => (board, .noSuchMember)
  | .emit member event =>
      match board.family? member with
      | some (number, sink) =>
          let (passed, after) := sink.emit event
          let arrives := passed && board.listening
          ({ board with
              families := board.families.set number after
              received := if arrives then board.received ++ [(number, event)] else board.received },
            .emitted arrives)
      | none => (board, .noSuchMember)
  | .detach member =>
      match board.family? member with
      | some (number, sink) =>
          ({ board with families := board.families.set number sink.detach }, .done)
      | none => (board, .noSuchMember)
  | .dropReceiver => ({ board with listening := false }, .done)

def detachedFlags (board : Switchboard) : List Bool :=
  board.members.map fun number => (board.families[number]?.map Sink.detached).getD false

end Switchboard

end Tether
