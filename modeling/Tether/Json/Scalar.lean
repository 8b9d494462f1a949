/-
# Tether.Json.Scalar -- reading values of one type

A value of another type is a mismatch only once it has been read: a scalar that is
itself malformed or broken off says so instead.  An array or object is not read.

* `readText_write` -- a text that is written is read back, whatever follows it.
-/
import Tether.Json.Skip

set_option autoImplicit false

namespace Tether.Json

/-- The fault of a value that is not of the type asked for, which begins `cs`. -/
def wrongType (cs : List Char) : Fault :=
  let outcome : Except Fault Unit :=
    match cs with
    | [] => .error .endsEarly
    | 'n' :: rest => (expectWord ['u', 'l', 'l'] rest).map fun _ => ()
    | 't' :: rest => (expectWord ['r', 'u', 'e'] rest).map fun _ => ()
    | 'f' :: rest => (expectWord ['a', 'l', 's', 'e'] rest).map fun _ => ()
    | '"' :: rest => (Text.readTail rest).map fun _ => ()
    | '[' :: _ | '\x7b' :: _ => .ok ()
    | c :: rest =>
        if c == '-' || c.isDigit then (Number.read (c :: rest)).map fun _ => ()
        else .error .malformed
  match outcome with
  | .ok _ => .mismatch
  | .error fault => fault

def readText : Reader String := fun cs =>
  match skipBlank cs with
  | '"' :: rest => (Text.readTail rest).map fun read => (String.ofList read.1, read.2)
  | other => .error (wrongType other)

theorem readText_write (s : String) (rest : List Char) :
    readText (Text.write s.toList ++ rest) = .ok (s, rest) := by
  have quote : skipBlank (Text.write s.toList ++ rest) =
      '"' :: (Text.writeBody s.toList ++ '"' :: rest) := by
    rw [Text.write, List.append_assoc]
    exact skipBlank_of_ink (by decide) _
  unfold readText
  rw [quote]
  simp [Text.readTail_write, Except.map]

def readBool : Reader Bool := fun cs =>
  match skipBlank cs with
  | 't' :: rest => (expectWord ['r', 'u', 'e'] rest).map fun rest => (true, rest)
  | 'f' :: rest => (expectWord ['a', 'l', 's', 'e'] rest).map fun rest => (false, rest)
  | other => .error (wrongType other)

def readNull : Reader Unit := fun cs =>
  match skipBlank cs with
  | 'n' :: rest => (expectWord ['u', 'l', 'l'] rest).map fun rest => ((), rest)
  | other => .error (wrongType other)

/-- A natural number below `bound`, written without sign, fraction or exponent. -/
def readNatural (bound : Nat) : Reader Nat := fun cs =>
  match skipBlank cs with
  | c :: rest =>
      if c == '-' || c.isDigit then do
        let (n, rest) ← Number.read (c :: rest)
        match n.natural? with
        | some value => if value < bound then pure (value, rest) else throw .mismatch
        | none => throw .mismatch
      else .error (wrongType (c :: rest))
  | [] => .error .endsEarly

def readUInt32 : Reader UInt32 := fun cs =>
  (readNatural UInt32.size cs).map fun read => (UInt32.ofNat read.1, read.2)

def readUInt64 : Reader UInt64 := fun cs =>
  (readNatural UInt64.size cs).map fun read => (UInt64.ofNat read.1, read.2)

theorem find?_named {α β : Type} [DecidableEq β] {values : List α} {name : α → β}
    (apart : ∀ a ∈ values, ∀ b ∈ values, name a = name b → a = b) {a : α} (known : a ∈ values) :
    values.find? (fun value => name value = name a) = some a := by
  cases search : values.find? (fun value => name value = name a) with
  | none => simpa using List.find?_eq_none.1 search a known
  | some b =>
      have same : name b = name a := by simpa using List.find?_some search
      rw [apart b (List.mem_of_find?_eq_some search) a known same]

/-- The values of a closed set, each by its name.  A name may also be the only member of an
object, with null for its value. -/
def readNamed {α : Type} (values : List α) (name : α → String) : Reader α := fun cs =>
  match skipBlank cs with
  | [] => .error .endsEarly
  | '"' :: rest => readName ('"' :: rest)
  | '\x7b' :: rest => do
      let (value, rest) ← match skipBlank rest with
        | '"' :: name => readName ('"' :: name)
        | other => throw (unexpected other)
      let rest ← expect ':' rest
      let (_, rest) ← readNull rest
      let rest ← expect '\x7d' rest
      pure (value, rest)
  | _ => .error .malformed
where
  /-- The value whose name is the string at the front of `cs`. -/
  readName (cs : List Char) : Except Fault (α × List Char) := do
    let (found, rest) ← readText cs
    match values.find? fun value => name value = found with
    | some value => pure (value, rest)
    | none => throw .mismatch

end Tether.Json
