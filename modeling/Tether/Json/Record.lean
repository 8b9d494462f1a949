/-
# Tether.Json.Record -- records of named members

A record is an object whose members set fields, in any order, or an array that sets them
in the order they are declared.  A member of an unknown name is passed over; a known one
may not be repeated.  Fields that are not set keep what they had at the start.
-/
import Tether.Json.Scalar

set_option autoImplicit false

namespace Tether.Json

structure Field (α : Type) where
  name : String
  /-- Reads the member's value and tells how it changes the record. -/
  read : Reader (α → α)

/-- The field `name`, whose value is read by `read` and put in place by `set`. -/
def Field.of {α β : Type} (name : String) (read : Reader β) (set : β → α → α) : Field α where
  name := name
  read := fun cs => (read cs).map fun found => (set found.1, found.2)

namespace Record

variable {α : Type}

/-- One member, where `seen` are the fields set before it. -/
def readMember (fields : List (Field α)) (seen : List String) (record : α) (cs : List Char) :
    Except Fault ((α × List String) × List Char) :=
  match cs with
  | '"' :: body => do
      let (key, rest) ← Text.readTail body
      let name := String.ofList key
      match fields.find? (·.name = name) with
      | some field =>
          if name ∈ seen then throw .mismatch
          let rest ← expect ':' rest
          let (change, rest) ← field.read rest
          pure ((change record, name :: seen), rest)
      | none =>
          let rest ← expect ':' rest
          let rest ← skip rest
          pure ((record, seen), rest)
  | other => .error (unexpected other)

/-- Members up to the closing brace, each but the first after a comma. -/
def readMembers (fields : List (Field α)) :
    Nat → (first : Bool) → (seen : List String) → α → Reader α
  | 0, _, _, _, _ => .error .endsEarly
  | fuel + 1, first, seen, record, cs =>
      match first, skipBlank cs with
      | _, [] => .error .endsEarly
      | _, '\x7d' :: rest => .ok (record, rest)
      | true, item => continued fuel seen record item
      | false, ',' :: rest => continued fuel seen record (skipBlank rest)
      | false, _ => .error .malformed
where
  continued (fuel : Nat) (seen : List String) (record : α) (item : List Char) :
      Except Fault (α × List Char) := do
    let ((record, seen), rest) ← readMember fields seen record item
    readMembers fields fuel false seen record rest

/-- Elements up to the closing bracket, at most one for each of `fields`. -/
def readElements : (fields : List (Field α)) → (first : Bool) → α → Reader α
  | [], _, record, cs => do
      let rest ← expect ']' cs
      pure (record, rest)
  | field :: fields, first, record, cs =>
      match first, skipBlank cs with
      | _, [] => .error .endsEarly
      | _, ']' :: rest => .ok (record, rest)
      | true, item => do
          let (change, rest) ← field.read item
          readElements fields false (change record) rest
      | false, ',' :: rest =>
          match skipBlank rest with
          | [] => .error .endsEarly
          | ']' :: _ => .error .malformed
          | item => do
              let (change, rest) ← field.read item
              readElements fields false (change record) rest
      | false, _ => .error .malformed

/-- A record that begins as `start`.  Every member takes at least one character, so the
length of the text is enough fuel. -/
def read (fields : List (Field α)) (start : α) : Reader α := fun cs =>
  match skipBlank cs with
  | '\x7b' :: rest => readMembers fields (rest.length + 1) true [] start rest
  | '[' :: rest => readElements fields true start rest
  | other => .error (wrongType other)

end Record

end Tether.Json
