/-
# Tether.Proofs.Json.Laws -- what the calls for JSON promise

A codec takes the text of a value for a value of its type.  `takes` says which texts these are; a
document is read as the value whose text it is, blanks around it aside.  An object is taken for a
declared record by a visit of its entries, one after another: the value of a known name is taken by
the codec of its key, which must not have been there before, and that of an unknown name may be
anything.  Then every key that was not there has the default that is declared for it.

* `JsonKit.Visits` -- what is found in the entries of an object.
* `JsonKit.Lawful` -- which texts are taken for which values, and what is written of these.
* `JsonKit.restored_again` -- reading and writing again changes nothing.
-/
import Tether.Json.Kit
import Tether.Proofs.Json.Records
import Tether.Url.Kit

set_option autoImplicit false

namespace Tether.JsonKit

open Json (Blanks Declared IsObject IsValue boolText naturalText)

variable {U F : Type}

/-- Which texts a codec takes for which values. -/
abbrev Taking (kit : JsonKit U) : Type 1 := (α : Type) → kit.Codec α → List Char → α → Prop

section Visits

variable {kit : JsonKit U} {α : Type}

/-- What is found in entries, from what was found before them on. -/
inductive Visits (takes : kit.Taking) (declared : Declared kit.Codec α) :
    declared.Slots → List Json.Entry → declared.Slots → Prop
  | done {slots : declared.Slots} : Visits takes declared slots [] slots
  | known {slots last : declared.Slots} {key : declared.Key} {value : declared.Value key}
      {text : List Char} {entries : List Json.Entry} (fresh : slots key = none)
      (taken : takes _ (declared.codec key) text value)
      (rest : Visits takes declared (Declared.put slots key value) entries last) :
      Visits takes declared slots (⟨declared.name key, text⟩ :: entries) last
  | unknown {slots last : declared.Slots} {name : String} {text : List Char}
      {entries : List Json.Entry} (other : ∀ key, declared.name key ≠ name) (isValue : IsValue text)
      (rest : Visits takes declared slots entries last) :
      Visits takes declared slots (⟨name, text⟩ :: entries) last

end Visits

/-- The text of a string that spells `content`. -/
inductive Quotes (content : String) : List Char → Prop
  | mk {body : List Char} (spells : Json.Text.Spells content.toList body) :
      Quotes content ('"' :: (body ++ ['"']))

structure Lawful (kit : JsonKit U) (urls : UrlKit U F) (takes : kit.Taking) : Prop where
  /-- A document is a value with blanks around it. -/
  read : ∀ {α : Type} {codec : kit.Codec α} {before cs after : List Char} {a : α},
    takes α codec cs a → Blanks before → Blanks after →
      kit.read codec (String.ofList (before ++ (cs ++ after))) = .ok a
  takes_bool : ∀ b : Bool, takes _ kit.bool (boolText b) b
  takes_uint32 : ∀ n : UInt32, takes _ kit.uint32 (naturalText n.toNat) n
  takes_uint64 : ∀ n : UInt64, takes _ kit.uint64 (naturalText n.toNat) n
  /-- A URL is read from its text. -/
  takes_url : ∀ {text : String} {cs : List Char} {url : U}, Quotes text cs →
    urls.parse text = .ok url → takes _ kit.url cs url
  /-- A record is what its entries say, and the defaults where they say nothing. -/
  takes_record : ∀ {α : Type} {declared : Declared kit.Codec α} {entries : List Json.Entry}
      {cs : List Char} {found : declared.Slots} {row : (key : declared.Key) → declared.Value key},
    IsObject entries cs → Visits takes declared (fun _ => none) entries found →
      (∀ key, Declared.value? found key = some (row key)) →
        takes _ (kit.record declared) cs (declared.make row)
  write_bool : ∀ b : Bool, (kit.write kit.bool b).toList = boolText b
  write_uint32 : ∀ n : UInt32, (kit.write kit.uint32 n).toList = naturalText n.toNat
  write_uint64 : ∀ n : UInt64, (kit.write kit.uint64 n).toList = naturalText n.toNat
  write_url : ∀ url : U, Quotes (urls.text url) (kit.write kit.url url).toList
  /-- A record is written key by key, in the order in which they are declared. -/
  write_record : ∀ {α : Type} (declared : Declared kit.Codec α) (a : α),
    IsObject (declared.keys.map fun key =>
        ⟨declared.name key, (kit.write (declared.codec key) (declared.part a key)).toList⟩)
      (kit.write (kit.record declared) a).toList

section Kept

variable {kit : JsonKit U} {urls : UrlKit U F} {takes : kit.Taking} {α : Type}
  {codec : kit.Codec α} {a : α}

/-- What is written of a value is a text of it. -/
def Kept (kit : JsonKit U) (takes : kit.Taking) (codec : kit.Codec α) (a : α) : Prop :=
  takes α codec (kit.write codec a).toList a

namespace Lawful

variable (lawful : kit.Lawful urls takes)

include lawful

theorem kept_bool (b : Bool) : kit.Kept takes kit.bool b := by
  rw [Kept, lawful.write_bool]
  exact lawful.takes_bool b

theorem kept_uint32 (n : UInt32) : kit.Kept takes kit.uint32 n := by
  rw [Kept, lawful.write_uint32]
  exact lawful.takes_uint32 n

theorem kept_uint64 (n : UInt64) : kit.Kept takes kit.uint64 n := by
  rw [Kept, lawful.write_uint64]
  exact lawful.takes_uint64 n

theorem kept_url {url : U} (again : urls.parse (urls.text url) = .ok url) :
    kit.Kept takes kit.url url :=
  lawful.takes_url (lawful.write_url url) again

/-- A document that holds an object is read as what the object is taken for. -/
theorem read_held {text : String} {entries : List Json.Entry} (held : Json.Holds text entries)
    (taken : ∀ {cs : List Char}, IsObject entries cs → takes α codec cs a) :
    kit.read codec text = .ok a := by
  obtain ⟨before, cs, after, front, back, object, spelled⟩ := held
  have read := lawful.read (taken object) front back
  rwa [← spelled, String.ofList_toList] at read

theorem read_written (kept : kit.Kept takes codec a) :
    kit.read codec (kit.write codec a) = .ok a := by
  have read := lawful.read kept Json.blanks_nil Json.blanks_nil
  rwa [List.nil_append, List.append_nil, String.ofList_toList] at read

end Lawful

/-- **Reading and writing again changes nothing**, if what was read is read from what is written of
it. -/
theorem restored_again {text again : String}
    (once : (kit.read codec text).map (kit.write codec) = .ok again)
    (kept : ∀ a, kit.read codec text = .ok a → kit.read codec (kit.write codec a) = .ok a) :
    (kit.read codec again).map (kit.write codec) = .ok again := by
  cases read : kit.read codec text with
  | error fault =>
      rw [read] at once
      cases once
  | ok a =>
      rw [read] at once
      have written : kit.write codec a = again := Except.ok.inj once
      rw [← written, kept a read]
      rfl

end Kept

end Tether.JsonKit
