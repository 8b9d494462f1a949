/-
# Tether.Id.Stored -- identifiers as JSON

Each identifier is stored as the text that it is.

* `wrapped_stored` -- what is written of one is read back.
-/
import Tether.Id
import Tether.Json.Codec

set_option autoImplicit false

namespace Tether

namespace Json.Codec

variable {α : Type} {wrap : String → α} {text : α → String}

theorem wrapped_stored (whole : ∀ a, wrap (text a) = a) (a : α) :
    (wrapped wrap text).read ((wrapped wrap text).write a) = .ok a := by
  have read := readText_write (text a) []
  rw [List.append_nil] at read
  simp [Codec.read, Codec.write, readAll, wrapped, Value.compact, Value.write, read, Except.map,
    bind, Except.bind, pure, Except.pure, skipBlank, whole]

end Json.Codec

def SessionId.codec : Json.Codec SessionId := .wrapped (⟨·⟩) SessionId.text

def AccessToken.codec : Json.Codec AccessToken := .wrapped (⟨·⟩) AccessToken.text

def InstanceId.codec : Json.Codec InstanceId := .wrapped (⟨·⟩) InstanceId.text

def ContinuationToken.codec : Json.Codec ContinuationToken := .wrapped (⟨·⟩) ContinuationToken.text

namespace SessionId

def ofJson (text : String) : Except Json.Fault SessionId := codec.read text

def toJson (id : SessionId) : Json.Value := codec.value id

theorem ofJson_compact (id : SessionId) : ofJson id.toJson.compact = .ok id :=
  Json.Codec.wrapped_stored (fun _ => rfl) id

end SessionId

end Tether
