/-
# Tether.Transport.Stored -- flavours of transports and phases of sessions as JSON

Both are closed sets, whose values are stored by their names.

* `named_stored` -- what is written of such a value is read back, where names tell values apart.
-/
import Tether.Json.Codec
import Tether.Session.Basic

set_option autoImplicit false

namespace Tether

namespace Json.Codec

variable {α : Type} {values : List α} {name : α → String}

theorem named_stored (apart : ∀ a ∈ values, ∀ b ∈ values, name a = name b → a = b) {a : α}
    (known : a ∈ values) : (named values name).read ((named values name).write a) = .ok a := by
  have read := readText_write (name a) []
  rw [List.append_nil] at read
  have found := find?_named apart known
  have begins : skipBlank (Text.write (name a).toList) =
      '"' :: (Text.writeBody (name a).toList ++ ['"']) := skipBlank_of_ink (by decide) _
  have named : readNamed values name (Text.write (name a).toList) = .ok (a, []) := by
    unfold readNamed
    rw [begins]
    show readNamed.readName values name (Text.write (name a).toList) = _
    simp [readNamed.readName, read, bind, Except.bind, found, pure, Except.pure]
  simp [Codec.read, Codec.write, readAll, Codec.named, Value.compact, Value.write, named, bind,
    Except.bind, pure, Except.pure, skipBlank]

end Json.Codec

namespace TransportKind

def codec : Json.Codec TransportKind := .named all name

def ofJson (text : String) : Except Json.Fault TransportKind := codec.read text

def toJson (kind : TransportKind) : Json.Value := codec.value kind

theorem ofJson_compact (kind : TransportKind) : ofJson kind.toJson.compact = .ok kind :=
  Json.Codec.named_stored (by decide) (by cases kind <;> decide)

end TransportKind

namespace Phase

def codec : Json.Codec Phase := .named all name

def ofJson (text : String) : Except Json.Fault Phase := codec.read text

def toJson (phase : Phase) : Json.Value := codec.value phase

theorem ofJson_compact (phase : Phase) : ofJson phase.toJson.compact = .ok phase :=
  Json.Codec.named_stored (by decide) phase.mem_all

end Phase

end Tether
