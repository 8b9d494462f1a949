/-
# Tether.Json.Value -- JSON values and their compact text

A value is written without blanks, the members of an object in the order they have.
-/
import Tether.Json.Number
import Tether.Json.Text

set_option autoImplicit false

namespace Tether.Json

inductive Value
  | null
  | bool (b : Bool)
  | number (n : Number)
  | text (s : String)
  | array (elements : List Value)
  | object (members : List (String × Value))

namespace Value

def ofNat (n : Nat) : Value := .number (Number.ofNat n)

def continued (parts : List (List Char)) : List Char := parts.flatMap (',' :: ·)

def commaSeparated : List (List Char) → List Char
  | [] => []
  | part :: parts => part ++ continued parts

mutual

def write : Value → List Char
  | .null => ['n', 'u', 'l', 'l']
  | .bool true => ['t', 'r', 'u', 'e']
  | .bool false => ['f', 'a', 'l', 's', 'e']
  | .number n => n.write
  | .text s => Text.write s.toList
  | .array elements => '[' :: commaSeparated (writeElements elements) ++ [']']
  | .object members => '\x7b' :: commaSeparated (writeMembers members) ++ ['\x7d']

def writeElements : List Value → List (List Char)
  | [] => []
  | value :: values => value.write :: writeElements values

def writeMembers : List (String × Value) → List (List Char)
  | [] => []
  | (name, value) :: members =>
      (Text.write name.toList ++ ':' :: value.write) :: writeMembers members

end

def compact (value : Value) : String := String.ofList value.write

end Value

end Tether.Json
