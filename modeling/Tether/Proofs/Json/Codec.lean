/-
# Tether.Proofs.Json.Codec -- the calls for JSON keep their promises

A codec of `Json.kit` takes a text for a value if its reader does, wherever the text stands.  For a
declared record the visit of an object's entries is, entry by entry, what its reader does with the
fields of the record.

* `steps_of_visits` -- a visit, as the reader makes it.
* `kit_lawful` -- the calls keep the laws.
-/
import Tether.Json.Codec
import Tether.Proofs.Json.Laws

set_option autoImplicit false

namespace Tether.Json

open JsonKit (Quotes Visits)

section

variable {U F : Type} {urls : UrlKit U F}

def readings (urls : UrlKit U F) : (kit urls).Taking :=
  fun _ codec cs a => Reads (Codec.reader codec) cs a

theorem readings_url {text : String} {cs : List Char} {url : U} (quotes : Quotes text cs)
    (read : urls.parse text = .ok url) : Reads (Codec.url urls).reader cs url := by
  obtain ⟨spells⟩ := quotes
  intro before rest blanks ends
  simp only [Codec.url, reads_text spells before rest blanks ends, String.ofList_toList, read, bind,
    Except.bind]
  rfl

section Record

variable {α : Type} {declared : Declared Codec α}

theorem field?_name (key : declared.Key) :
    Record.field? (Codec.fields declared) (declared.name key) =
      some (.of (declared.name key) (declared.codec key).reader fun value slots =>
        declared.put slots key value) := by
  have here : declared.keys.find? (fun other => declared.name other = declared.name key) =
      some key :=
    find?_named (fun _ _ _ _ same => declared.name_injective same) (declared.complete key)
  rw [Record.field?, Codec.fields, List.find?_map]
  exact congrArg (Option.map _) here

theorem field?_other {name : String} (other : ∀ key, declared.name key ≠ name) :
    Record.field? (Codec.fields declared) name = none := by
  rw [Record.field?, Codec.fields, List.find?_map, Option.map_eq_none_iff, List.find?_eq_none]
  exact fun key _ same => other key (of_decide_eq_true same)

theorem steps_of_visits {declared : Declared (kit urls).Codec α} {slots last : declared.Slots}
    {entries : List Entry} (visits : Visits (readings urls) declared slots entries last) {seen : List String}
    (fresh : ∀ key, slots key = none → declared.name key ∉ seen) :
    Record.Steps (Codec.fields declared) seen slots entries last := by
  induction visits generalizing seen with
  | done => exact .done
  | @known slots last key value text entries empty taken _ ih =>
      refine .known (field?_name key) (fresh key empty) (Reads.field taken _ _)
        (ih fun other none => ?_)
      by_cases same : key = other
      · subst same
        simp [Declared.put] at none
      · rw [Declared.put, dif_neg same] at none
        have apart : declared.name other ≠ declared.name key := fun alike =>
          same (declared.name_injective alike).symm
        simp [apart, fresh other none]
  | unknown other isValue _ ih => exact .unknown (field?_other other) isValue (ih fresh)

theorem finish_row {slots : declared.Slots} {row : (key : declared.Key) → declared.Value key}
    (all : ∀ key, Declared.value? slots key = some (row key)) :
    Codec.finish declared slots = .ok (declared.make row) := by
  have there : ∀ key ∈ declared.keys, (declared.value? slots key).isSome := fun key _ => by
    rw [all key]
    rfl
  rw [Codec.finish, dif_pos there]
  have same : (fun key => (declared.value? slots key).get (there key (declared.complete key))) =
      row := funext fun key => Option.get_of_eq_some _ (all key)
  rw [same]

theorem readings_record {entries : List Entry} {cs : List Char} {found : declared.Slots}
    {row : (key : declared.Key) → declared.Value key} (object : IsObject entries cs)
    (visits : Visits (readings urls) declared (fun _ => none) entries found)
    (all : ∀ key, Declared.value? found key = some (row key)) :
    Reads (Codec.record declared).reader cs (declared.make row) := by
  have reads := Record.read_object object (steps_of_visits visits fun _ _ => List.not_mem_nil)
  intro before rest blanks ends
  simp only [Codec.record, reads before rest blanks ends, finish_row all, bind, Except.bind]
  rfl

end Record

theorem write_toList {α : Type} (codec : Codec α) (a : α) :
    (codec.write a).toList = (codec.value a).write :=
  String.toList_ofList

theorem write_ofNat (n : Nat) : (Value.ofNat n).write = naturalText n := by
  simp [Value.ofNat, Value.write, Number.write, Number.ofNat, naturalText]

theorem object_written {α : Type} (declared : Declared Codec α) (a : α) :
    IsObject (declared.keys.map fun key =>
        ⟨declared.name key, ((declared.codec key).write (declared.part a key)).toList⟩)
      ((Codec.record declared).write a).toList := by
  have object := isObject_compact (declared.keys.map fun key =>
    (declared.name key, (declared.codec key).value (declared.part a key)))
  rw [entries, List.map_map] at object
  simp only [write_toList]
  exact object

/-- **The calls for JSON keep the laws.** -/
theorem kit_lawful (urls : UrlKit U F) : (kit urls).Lawful urls (readings urls) where
  read := fun taken front back => taken.all String.toList_ofList front back
  takes_bool := reads_bool
  takes_uint32 := reads_uint32
  takes_uint64 := reads_uint64
  takes_url := readings_url
  takes_record := readings_record
  write_bool := fun b => by
    cases b <;> exact write_toList Codec.bool _
  write_uint32 := fun n => (write_toList Codec.uint32 n).trans (write_ofNat n.toNat)
  write_uint64 := fun n => (write_toList Codec.uint64 n).trans (write_ofNat n.toNat)
  write_url := fun url => by
    have spells := Text.spells_write (urls.text url).toList
    exact (write_toList (.url urls) url).symm ▸ .mk spells
  write_record := object_written

end

end Tether.Json
