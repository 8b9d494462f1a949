/-
# Tether.Text.Quoted -- a text between quotes, every character visible

Error messages show foreign text between double quotes.  Tab, return, newline,
NUL, the quote and the backslash have a short escape; a character that attaches to
the one before it, or has no visible form, is written by its code point as
`\u{...}` in lowercase hexadecimal; all others stand for themselves.
-/
import Tether.Text.Mark
import Tether.Text.Printable

set_option autoImplicit false

namespace Tether.Text

/-- The digits of `n` in lowercase hexadecimal, none in front of the first nonzero one. -/
def hex (n : Nat) : List Char := Nat.toDigits 16 n

def quoteChar (c : Char) : List Char :=
  match c with
  | '\t' => ['\\', 't']
  | '\r' => ['\\', 'r']
  | '\n' => ['\\', 'n']
  | '\x00' => ['\\', '0']
  | '"' => ['\\', '"']
  | '\\' => ['\\', '\\']
  | c =>
      if attaches c || !isPrintable c then
        ['\\', 'u', '\x7b'] ++ hex c.toNat ++ ['\x7d']
      else [c]

def quoted (s : String) : String :=
  String.ofList ('"' :: s.toList.flatMap quoteChar ++ ['"'])

end Tether.Text
