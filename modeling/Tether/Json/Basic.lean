/-
# Tether.Json.Basic -- faults and readers of JSON text

A reader takes what it reads from the front of a text and leaves the rest.  Reading
goes from left to right and the first fault ends it; the three faults tell a text that
stops too early from one that is no JSON and from one that says the wrong thing.
-/
set_option autoImplicit false

namespace Tether.Json

/-- Why a text does not hold the value asked for. -/
inductive Fault
  /-- The text ends inside a value. -/
  | endsEarly
  /-- The text is not JSON, or goes on after the value. -/
  | malformed
  /-- The JSON is of the wrong type or out of range, or a member is missing or repeated. -/
  | mismatch
deriving DecidableEq

abbrev Reader (α : Type) := List Char → Except Fault (α × List Char)

def isBlank (c : Char) : Bool := c == ' ' || c == '\n' || c == '\t' || c == '\r'

def skipBlank (cs : List Char) : List Char := cs.dropWhile isBlank

theorem skipBlank_of_ink {c : Char} (ink : isBlank c = false) (cs : List Char) :
    skipBlank (c :: cs) = c :: cs := by
  simp [skipBlank, ink]

/-- The fault of a text that has `found` where something else must stand. -/
def unexpected : (found : List Char) → Fault
  | [] => .endsEarly
  | _ => .malformed

/-- Read `sign`, blanks before it skipped. -/
def expect (sign : Char) (cs : List Char) : Except Fault (List Char) :=
  match skipBlank cs with
  | c :: rest => if c = sign then .ok rest else .error .malformed
  | [] => .error .endsEarly

/-- Read the characters of `word`, with no blanks among them. -/
def expectWord : (word : List Char) → List Char → Except Fault (List Char)
  | [], cs => .ok cs
  | _ :: _, [] => .error .endsEarly
  | w :: word, c :: cs => if c = w then expectWord word cs else .error .malformed

/-- The value that is all of `text`. -/
def readAll {α : Type} (read : Reader α) (text : String) : Except Fault α := do
  let (value, rest) ← read text.toList
  match skipBlank rest with
  | [] => pure value
  | _ => throw .malformed

theorem expectWord_append (word rest : List Char) : expectWord word (word ++ rest) = .ok rest := by
  induction word with
  | nil => rfl
  | cons w word ih => simp [expectWord, ih]

end Tether.Json
