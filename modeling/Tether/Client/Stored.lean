/-
# Tether.Client.Stored -- a client's configuration as JSON

A record of which only the base must be there: every other key declares a default of its own.
-/
import Tether.Client
import Tether.Session.Stored

set_option autoImplicit false

namespace Tether.ClientConfig

inductive Key
  | baseUrl
  | session
  | persistent
  | connectTimeout
  | maxMessageSize
  | pollTimeout
  | sendTimeout
  | reconnectTimeout
deriving DecidableEq

namespace Key

def all : List Key :=
  [baseUrl, session, persistent, connectTimeout, maxMessageSize, pollTimeout, sendTimeout,
    reconnectTimeout]

def name : Key → String
  | baseUrl => "base_url"
  | session => "session"
  | persistent => "persistent"
  | connectTimeout => "connect_timeout_ms"
  | maxMessageSize => "max_message_size"
  | pollTimeout => "poll_timeout_ms"
  | sendTimeout => "send_timeout_ms"
  | reconnectTimeout => "reconnect_timeout_ms"

abbrev Value (U : Type) : Key → Type
  | baseUrl => U
  | session => SessionConfig
  | persistent => Bool
  | connectTimeout => UInt64
  | maxMessageSize => UInt64
  | pollTimeout => UInt64
  | sendTimeout => UInt64
  | reconnectTimeout => UInt64

end Key

variable {U : Type} (kit : JsonKit U)

def declared : Json.Declared kit.Codec (ClientConfig U) where
  Key := Key
  keys := Key.all
  nodup := by decide
  complete := fun key => by cases key <;> decide
  name := Key.name
  name_injective := fun {key other} => by cases key <;> cases other <;> decide
  Value := Key.Value U
  codec
    | .baseUrl => kit.url
    | .session => kit.record (SessionConfig.declared kit)
    | .persistent => kit.bool
    | .connectTimeout => kit.uint64
    | .maxMessageSize => kit.uint64
    | .pollTimeout => kit.uint64
    | .sendTimeout => kit.uint64
    | .reconnectTimeout => kit.uint64
  default?
    | .baseUrl => none
    | .session => some {}
    | .persistent => some Default.persistent
    | .connectTimeout => some Default.connectTimeout
    | .maxMessageSize => some Default.maxMessageSize
    | .pollTimeout => some Default.pollTimeout
    | .sendTimeout => some Default.sendTimeout
    | .reconnectTimeout => some Default.reconnectTimeout
  whole? := none
  part := fun config => fun
    | .baseUrl => config.baseUrl
    | .session => config.session
    | .persistent => config.persistent
    | .connectTimeout => config.connectTimeout
    | .maxMessageSize => config.maxMessageSize
    | .pollTimeout => config.pollTimeout
    | .sendTimeout => config.sendTimeout
    | .reconnectTimeout => config.reconnectTimeout
  make := fun row =>
    { baseUrl := row .baseUrl
      session := row .session
      persistent := row .persistent
      connectTimeout := row .connectTimeout
      maxMessageSize := row .maxMessageSize
      pollTimeout := row .pollTimeout
      sendTimeout := row .sendTimeout
      reconnectTimeout := row .reconnectTimeout }
  make_part := fun _ => rfl

def parse (text : String) : Except kit.Fault (ClientConfig U) :=
  kit.read (kit.record (declared kit)) text

def print (config : ClientConfig U) : String := kit.write (kit.record (declared kit)) config

def codec : Json.Codec ClientConfig := .record (declared (Json.kit Url.kit))

def ofJson (text : String) : Except Json.Fault ClientConfig := parse (Json.kit Url.kit) text

def toJson (config : ClientConfig) : Json.Value := codec.value config

end Tether.ClientConfig
