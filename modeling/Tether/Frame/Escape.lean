/-
# Tether.Frame.Escape -- field values inside a delimited frame

A value may hold the frame's delimiter, so each delimiter and each backslash in it
is written behind a backslash.  Reading takes the character after a backslash as
it is; a backslash with nothing after it stands for itself.

* `unescapeChars_escapeChars` -- every value comes back.
* `escapeChars_append` -- escaping works character by character.
-/
set_option autoImplicit false

namespace Tether.Frame

def delimiter : Char := '&'

/-- Stands before a character that is meant literally. -/
def escapeMark : Char := '\\'

/-- The characters that a value cannot hold as they are. -/
def isSpecial (c : Char) : Bool := c == escapeMark || c == delimiter

def escapeChars : List Char → List Char
  | [] => []
  | c :: cs => if isSpecial c then escapeMark :: c :: escapeChars cs else c :: escapeChars cs

def unescapeChars : List Char → List Char
  | [] => []
  | [c] => [c]
  | c :: d :: cs => if c = escapeMark then d :: unescapeChars cs else c :: unescapeChars (d :: cs)

def escape (value : String) : String := String.ofList (escapeChars value.toList)

/-- The value that `written` stands for. -/
def unescape (written : String) : String := String.ofList (unescapeChars written.toList)

theorem escapeChars_append (a b : List Char) :
    escapeChars (a ++ b) = escapeChars a ++ escapeChars b := by
  induction a with
  | nil => rfl
  | cons c cs ih =>
      simp only [List.cons_append, escapeChars]
      split <;> simp [ih]

theorem unescapeChars_cons {c : Char} (plain : c ≠ escapeMark) (cs : List Char) :
    unescapeChars (c :: cs) = c :: unescapeChars cs := by
  cases cs with
  | nil => simp [unescapeChars]
  | cons d ds => simp [unescapeChars, plain]

theorem unescapeChars_escapeChars (cs : List Char) : unescapeChars (escapeChars cs) = cs := by
  induction cs with
  | nil => rfl
  | cons c cs ih =>
      simp only [escapeChars]
      split
      · simp [unescapeChars, ih]
      · rename_i plain
        have : c ≠ escapeMark := fun same => plain (by simp [isSpecial, same])
        rw [unescapeChars_cons this, ih]

end Tether.Frame
