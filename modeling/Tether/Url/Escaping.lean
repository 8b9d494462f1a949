/-
# Tether.Url.Escaping -- which characters a part of a URL cannot hold

Every part escapes controls and all that is not ASCII; beyond these each part has
characters of its own, listed by `Part.special`.  An escaped character is its UTF-8
bytes, each a percent sign and two digits.  A percent sign that is already there is
left as it is, so escaping twice changes nothing.

* `escape_of_plain` -- a text of allowed characters stands for itself.
* `escape_append` -- parts are escaped piece by piece.
-/
import Tether.Text.FormEncoding

set_option autoImplicit false

namespace Tether.Url

/-- The places in a URL that differ in what they must escape. -/
inductive Part
  /-- A path without segments, and a host that is no domain. -/
  | bare
  | fragment
  | path
  /-- The user name and the password. -/
  | credentials
  | query
  /-- The query of a scheme with a default port, and of `file`. -/
  | strictQuery
deriving DecidableEq

/-- The characters, neither controls nor beyond ASCII, that a part escapes. -/
def Part.special : Part → List Char
  | .bare => []
  | .fragment => [' ', '"', '<', '>', '\x60']
  | .path => [' ', '"', '<', '>', '\x60', '#', '?', '\x7b', '\x7d']
  | .credentials =>
      [' ', '"', '<', '>', '\x60', '#', '?', '\x7b', '\x7d',
        '/', ':', ';', '=', '@', '[', '\\', ']', '^', '|']
  | .query => [' ', '"', '#', '<', '>']
  | .strictQuery => [' ', '"', '#', '<', '>', '\'']

def Part.escapes (part : Part) (c : Char) : Bool :=
  c.toNat < 0x20 || 0x7F ≤ c.toNat || part.special.contains c

def escapeChar (part : Part) (c : Char) : List Char :=
  if part.escapes c then (String.utf8EncodeChar c).flatMap Text.percentEncoded else [c]

def escape (part : Part) (cs : List Char) : List Char := cs.flatMap (escapeChar part)

theorem escape_append (part : Part) (front back : List Char) :
    escape part (front ++ back) = escape part front ++ escape part back := by
  simp [escape]

theorem escape_of_plain {part : Part} {cs : List Char}
    (plain : ∀ c ∈ cs, part.escapes c = false) : escape part cs = cs := by
  induction cs with
  | nil => rfl
  | cons c cs ih =>
      have here : part.escapes c = false := plain c (by simp)
      have rest := ih fun d member => plain d (by simp [member])
      simp only [escape, List.flatMap_cons] at rest ⊢
      rw [rest]
      simp [escapeChar, here]

/-- The bytes of `cs`, every escape undone; a percent sign before anything but two
digits is itself. -/
def unescape : List Char → List UInt8
  | '%' :: high :: low :: rest =>
      match Text.hexValue? high, Text.hexValue? low with
      | some h, some l => UInt8.ofNat (h * 16 + l) :: unescape rest
      | _, _ => 0x25 :: unescape (high :: low :: rest)
  | c :: rest => String.utf8EncodeChar c ++ unescape rest
  | [] => []

end Tether.Url
