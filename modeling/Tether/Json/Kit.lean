/-
# Tether.Json.Kit -- records as they are declared, and the calls that read and write them

What is stored is declared and not programmed: a record lists its keys, how the value of each is read
and written, and what it is where a text says nothing of it.  Reading and writing by such a
declaration are calls of a `JsonKit`.  `Json.kit` is the one that runs; what is proved of stored
settings holds for every kit that keeps the laws of `Tether.Proofs.Json.Laws`.
-/
set_option autoImplicit false

namespace Tether

/-- A record as it is declared, where a `Codec α` tells how an `α` is read and written. -/
structure Json.Declared (Codec : Type → Type) (α : Type) where
  Key : Type
  [decEq : DecidableEq Key]
  /-- The keys in the order in which they are declared. -/
  keys : List Key
  nodup : keys.Nodup
  complete : ∀ key, key ∈ keys
  name : Key → String
  name_injective : ∀ {key other : Key}, name key = name other → key = other
  Value : Key → Type
  codec : (key : Key) → Codec (Value key)
  /-- The default of its own that a key declares. -/
  default? : (key : Key) → Option (Value key)
  /-- The default of the record as a whole. -/
  whole? : Option α
  part : α → (key : Key) → Value key
  make : ((key : Key) → Value key) → α
  make_part : ∀ a, make (part a) = a

namespace Json.Declared

variable {Codec : Type → Type} {α : Type} (declared : Declared Codec α)

attribute [instance] decEq

/-- The values that were found so far. -/
abbrev Slots : Type := (key : declared.Key) → Option (declared.Value key)

variable {declared}

def put (slots : declared.Slots) (key : declared.Key) (value : declared.Value key) :
    declared.Slots :=
  fun other => if same : key = other then some (same ▸ value) else slots other

/-- The value of `key`: what was found, or the default of the key, or that of the record. -/
def value? (slots : declared.Slots) (key : declared.Key) : Option (declared.Value key) :=
  slots key <|> declared.default? key <|> declared.whole?.map (declared.part · key)

/-- `base` with what was found in its place. -/
def overlay (slots : declared.Slots) (base : α) : α :=
  declared.make fun key => (slots key).getD (declared.part base key)

end Json.Declared

/-- Calls for JSON texts, where `U` are URLs. -/
structure JsonKit (U : Type) where
  Fault : Type
  Codec : Type → Type
  bool : Codec Bool
  uint32 : Codec UInt32
  uint64 : Codec UInt64
  url : Codec U
  record : {α : Type} → Json.Declared Codec α → Codec α
  read : {α : Type} → Codec α → String → Except Fault α
  write : {α : Type} → Codec α → α → String

end Tether
