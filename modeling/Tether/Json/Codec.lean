/-
# Tether.Json.Codec -- what is read and written, by its type

A codec reads values of one type and tells how they are written.  That of a declared record reads the
values of its keys as they come, and then takes the defaults for those that did not.
-/
import Tether.Json.Kit
import Tether.Json.Record
import Tether.Json.Value
import Tether.Url.Kit

set_option autoImplicit false

namespace Tether.Json

structure Codec (α : Type) where
  reader : Reader α
  value : α → Value

namespace Codec

def bool : Codec Bool := ⟨readBool, .bool⟩

def uint32 : Codec UInt32 := ⟨readUInt32, fun n => .ofNat n.toNat⟩

def uint64 : Codec UInt64 := ⟨readUInt64, fun n => .ofNat n.toNat⟩

/-- A URL is its text. -/
def url {U F : Type} (urls : UrlKit U F) : Codec U where
  reader := fun cs => do
    let (text, rest) ← readText cs
    match urls.parse text with
    | .ok url => pure (url, rest)
    | .error _ => throw .mismatch
  value := fun url => .text (urls.text url)

/-- A text of a type of its own. -/
def wrapped {α : Type} (wrap : String → α) (text : α → String) : Codec α where
  reader := fun cs => (readText cs).map fun read => (wrap read.1, read.2)
  value := fun a => .text (text a)

/-- The values of a closed set are their names. -/
def named {α : Type} (values : List α) (name : α → String) : Codec α where
  reader := readNamed values name
  value := fun a => .text (name a)

section Record

variable {α : Type} (declared : Declared Codec α)

def fields : List (Field declared.Slots) :=
  declared.keys.map fun key =>
    .of (declared.name key) (declared.codec key).reader fun value slots =>
      declared.put slots key value

/-- The record of what was found; every key must have a value. -/
def finish (slots : declared.Slots) : Except Fault α :=
  if all : ∀ key ∈ declared.keys, (declared.value? slots key).isSome then
    .ok (declared.make fun key => (declared.value? slots key).get (all key (declared.complete key)))
  else .error .mismatch

def record : Codec α where
  reader := fun cs => do
    let (slots, rest) ← Record.read (fields declared) (fun _ => none) cs
    let found ← finish declared slots
    pure (found, rest)
  value := fun a =>
    .object (declared.keys.map fun key =>
      (declared.name key, (declared.codec key).value (declared.part a key)))

end Record

variable {α : Type}

def read (codec : Codec α) (text : String) : Except Fault α := readAll codec.reader text

def write (codec : Codec α) (a : α) : String := (codec.value a).compact

end Codec

/-- The calls by which this development reads and writes JSON. -/
def kit {U F : Type} (urls : UrlKit U F) : JsonKit U where
  Fault := Fault
  Codec := Codec
  bool := .bool
  uint32 := .uint32
  uint64 := .uint64
  url := .url urls
  record := .record
  read := Codec.read
  write := Codec.write

end Tether.Json
