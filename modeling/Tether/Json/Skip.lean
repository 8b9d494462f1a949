/-
# Tether.Json.Skip -- passing over a value of any shape

Only the brackets that are still open are remembered, so a value may be nested to any
depth.
-/
import Tether.Json.Number
import Tether.Json.Text

set_option autoImplicit false

namespace Tether.Json

inductive Bracket
  | array
  | object
deriving DecidableEq

def Bracket.close : Bracket → Char
  | .array => ']'
  | .object => '\x7d'

inductive Place
  | value
  /-- The name of a member, its colon and its value. -/
  | member
  /-- A comma or the end of the innermost bracket. -/
  | next
deriving DecidableEq

/-- The place after the comma in `bracket`. -/
def Bracket.item : Bracket → Place
  | .array => .value
  | .object => .member

/-- Pass over a value that is no array or object, whose first character is `c`. -/
def skipScalar (c : Char) (rest : List Char) : Except Fault (List Char) :=
  if c == 'n' then expectWord ['u', 'l', 'l'] rest
  else if c == 't' then expectWord ['r', 'u', 'e'] rest
  else if c == 'f' then expectWord ['a', 'l', 's', 'e'] rest
  else if c == '"' then Text.skipTail rest
  else if c == '-' || c.isDigit then Number.skip (c :: rest)
  else .error .malformed

/-- Pass over the name of a member and its colon. -/
def skipName (cs : List Char) : Except Fault (List Char) := do
  let body ← expect '"' cs
  let rest ← Text.skipTail body
  expect ':' rest

/-- The text after the brackets `open_` are closed.  Every call but the last takes at least
one character, so one more than their number is enough fuel. -/
def skipFrom : Nat → Place → (open_ : List Bracket) → List Char → Except Fault (List Char)
  | 0, _, _, _ => .error .endsEarly
  | _ + 1, .next, [], cs => .ok cs
  | fuel + 1, .next, bracket :: open_, cs =>
      match skipBlank cs with
      | [] => .error .endsEarly
      | c :: rest =>
          if c = ',' then skipFrom fuel bracket.item (bracket :: open_) rest
          else if c = bracket.close then skipFrom fuel .next open_ rest
          else .error .malformed
  | fuel + 1, .member, open_, cs => do
      let rest ← skipName cs
      skipFrom fuel .value open_ rest
  | fuel + 1, .value, open_, cs =>
      match skipBlank cs with
      | [] => .error .endsEarly
      | '[' :: rest => skipFirst fuel .array open_ rest
      | '\x7b' :: rest => skipFirst fuel .object open_ rest
      | c :: rest => do
          let rest ← skipScalar c rest
          skipFrom fuel .next open_ rest
where
  /-- After an opening bracket: its end, or its first item. -/
  skipFirst (fuel : Nat) (bracket : Bracket) (open_ : List Bracket) (cs : List Char) :
      Except Fault (List Char) :=
    match skipBlank cs with
    | [] => .error .endsEarly
    | c :: rest =>
        if c = bracket.close then skipFrom fuel .next open_ rest
        else skipFrom fuel bracket.item (bracket :: open_) (c :: rest)

def skip (cs : List Char) : Except Fault (List Char) := skipFrom (cs.length + 1) .value [] cs

end Tether.Json
