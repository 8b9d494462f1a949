/-
# Tether.Session.Stored -- a session's tuning as JSON

A record of four numbers, which has a default as a whole: a tuning of which a text says nothing is
the one without changes.
-/
import Tether.Json.Codec
import Tether.Transport.Stored
import Tether.Url.Edit

set_option autoImplicit false

namespace Tether.SessionConfig

inductive Key
  | retryBudget
  | retryDelay
  | settleDelay
  | silenceTimeout
deriving DecidableEq

namespace Key

def all : List Key := [retryBudget, retryDelay, settleDelay, silenceTimeout]

def name : Key → String
  | retryBudget => "retry_budget"
  | retryDelay => "retry_delay_ms"
  | settleDelay => "settle_delay_ms"
  | silenceTimeout => "silence_timeout_ms"

abbrev Value : Key → Type
  | retryBudget => UInt32
  | retryDelay => UInt64
  | settleDelay => UInt64
  | silenceTimeout => UInt64

end Key

def declared {U : Type} (kit : JsonKit U) : Json.Declared kit.Codec SessionConfig where
  Key := Key
  keys := Key.all
  nodup := by decide
  complete := fun key => by cases key <;> decide
  name := Key.name
  name_injective := fun {key other} => by cases key <;> cases other <;> decide
  Value := Key.Value
  codec
    | .retryBudget => kit.uint32
    | .retryDelay => kit.uint64
    | .settleDelay => kit.uint64
    | .silenceTimeout => kit.uint64
  default? := fun _ => none
  whole? := some {}
  part := fun config => fun
    | .retryBudget => config.retryBudget
    | .retryDelay => config.retryDelay
    | .settleDelay => config.settleDelay
    | .silenceTimeout => config.silenceTimeout
  make := fun row =>
    { retryBudget := row .retryBudget
      retryDelay := row .retryDelay
      settleDelay := row .settleDelay
      silenceTimeout := row .silenceTimeout }
  make_part := fun _ => rfl

def parse {U : Type} (kit : JsonKit U) (text : String) : Except kit.Fault SessionConfig :=
  kit.read (kit.record (declared kit)) text

def print {U : Type} (kit : JsonKit U) (config : SessionConfig) : String :=
  kit.write (kit.record (declared kit)) config

def codec : Json.Codec SessionConfig := .record (declared (Json.kit Url.kit))

def ofJson (text : String) : Except Json.Fault SessionConfig := parse (Json.kit Url.kit) text

def toJson (config : SessionConfig) : Json.Value := codec.value config

end Tether.SessionConfig
