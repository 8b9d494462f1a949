/-
# Tether.Proofs.Json.Records -- what a record is read from

An object is written as its members, in any order and with blanks wherever they may stand.  A record
reads it member by member: one of a known name makes a change to the record, one of an unknown name
makes none, whatever its value.  So an object in which no known name comes twice is read, and the
record is what the changes make of its start, in the order in which they stand.

* `Entry`, `IsObject` -- the members of an object, and its text.
* `isObject_compact` -- what is written of an object.
* `Record.Steps` -- the members of an object, and what they make of a record one after another.
* `read_object` -- how an object is read as a record.
-/
import Tether.Json.Record
import Tether.Proofs.Json.Scalars

set_option autoImplicit false

namespace Tether.Json

/-! ## Objects -/

structure Entry where
  name : String
  value : List Char

/-- The member from its opening quote on. -/
inductive Entry.Written (entry : Entry) : List Char → Prop
  | mk {body colon gap after : List Char} (named : Text.Spells entry.name.toList body)
      (first : Blanks colon) (second : Blanks gap) (back : Blanks after) :
      Written entry
        ('"' :: (body ++ '"' :: (colon ++ ':' :: (gap ++ (entry.value ++ after)))))

theorem Entry.Written.begins {entry : Entry} {cs : List Char} (written : entry.Written cs) :
    ∃ body, cs = '"' :: body := by
  cases written
  exact ⟨_, rfl⟩

/-- One or more members with commas between them. -/
inductive AreMembers : List Entry → List Char → Prop
  | last {entry : Entry} {before cs : List Char} (front : Blanks before)
      (written : entry.Written cs) : AreMembers [entry] (before ++ cs)
  | more {entry : Entry} {entries : List Entry} {before cs rest : List Char}
      (front : Blanks before) (written : entry.Written cs) (others : AreMembers entries rest) :
      AreMembers (entry :: entries) (before ++ (cs ++ ',' :: rest))

inductive IsObject : List Entry → List Char → Prop
  | empty {blanks : List Char} (all : Blanks blanks) :
      IsObject [] ('\x7b' :: (blanks ++ ['\x7d']))
  | full {entries : List Entry} {cs : List Char} (members : AreMembers entries cs) :
      IsObject entries ('\x7b' :: (cs ++ ['\x7d']))

/-- `text` is an object of `entries`, with blanks around it. -/
def Holds (text : String) (entries : List Entry) : Prop :=
  ∃ before cs after, Blanks before ∧ Blanks after ∧ IsObject entries cs ∧
    text.toList = before ++ (cs ++ after)

def entries (members : List (String × Value)) : List Entry :=
  members.map fun member => ⟨member.1, member.2.write⟩

theorem writeMembers_eq (members : List (String × Value)) :
    Value.writeMembers members =
      (entries members).map fun entry => Text.write entry.name.toList ++ ':' :: entry.value := by
  induction members with
  | nil => simp [Value.writeMembers, entries]
  | cons member members ih =>
      rw [Value.writeMembers, ih]
      rfl

theorem written_compact (entry : Entry) :
    entry.Written (Text.write entry.name.toList ++ ':' :: entry.value) := by
  have written : entry.Written _ :=
    .mk (Text.spells_write entry.name.toList) blanks_nil blanks_nil blanks_nil
  simpa [Text.write] using written

theorem areMembers_compact (entry : Entry) (others : List Entry) :
    AreMembers (entry :: others)
      (Value.commaSeparated ((entry :: others).map fun entry =>
        Text.write entry.name.toList ++ ':' :: entry.value)) := by
  induction others generalizing entry with
  | nil =>
      have members := AreMembers.last blanks_nil (written_compact entry)
      simpa [Value.commaSeparated, Value.continued] using members
  | cons next others ih =>
      have members := AreMembers.more blanks_nil (written_compact entry) (ih next)
      simpa [Value.commaSeparated, Value.continued] using members

/-- An object is written as its entries. -/
theorem isObject_compact (members : List (String × Value)) :
    IsObject (entries members) (Value.object members).write := by
  rw [Value.write, writeMembers_eq]
  cases members with
  | nil => exact .empty blanks_nil
  | cons member members => exact .full (areMembers_compact ⟨member.1, member.2.write⟩ _)

/-! ## Records -/

theorem Reads.field {α β : Type} {read : Reader β} {text : List Char} {value : β}
    (reads : Reads read text value) (name : String) (set : β → α → α) :
    Reads (Field.of name read set).read text (set value) := by
  intro before rest blanks ends
  show (read _).map _ = _
  rw [reads before rest blanks ends]
  rfl

namespace Record

variable {α : Type} {fields : List (Field α)}

def field? (fields : List (Field α)) (name : String) : Option (Field α) :=
  fields.find? (·.name = name)

/-- What entries make of a record, one after another, where the names in `seen` have been read. -/
inductive Steps (fields : List (Field α)) : List String → α → List Entry → α → Prop
  | done {seen : List String} {record : α} : Steps fields seen record [] record
  | known {seen : List String} {record last : α} {entry : Entry} {entries : List Entry}
      {field : Field α} {change : α → α} (found : field? fields entry.name = some field)
      (fresh : entry.name ∉ seen) (reads : Reads field.read entry.value change)
      (rest : Steps fields (entry.name :: seen) (change record) entries last) :
      Steps fields seen record (entry :: entries) last
  | unknown {seen : List String} {record last : α} {entry : Entry} {entries : List Entry}
      (unknown : field? fields entry.name = none) (isValue : IsValue entry.value)
      (rest : Steps fields seen record entries last) :
      Steps fields seen record (entry :: entries) last

/-- The name and the colon of an entry are read. -/
theorem Entry.Written.named {entry : Entry} {cs : List Char} (written : entry.Written cs)
    (rest : List Char) :
    ∃ body colon gap after, Blanks gap ∧ Blanks after ∧ cs ++ rest = '"' :: body ∧
      Text.readTail body = .ok (entry.name.toList, colon) ∧
        expect ':' colon = .ok (gap ++ (entry.value ++ (after ++ rest))) := by
  obtain ⟨named, first, second, back⟩ := written
  rename_i body colon gap after
  have sign : isBlank ':' = false := by decide
  have key := Text.readTail_spelled named
    (colon ++ ':' :: (gap ++ (entry.value ++ (after ++ rest))))
  refine ⟨_, _, gap, after, second, back, rfl, by simpa using key, ?_⟩
  rw [expect, skipBlank_append first, skipBlank_of_ink sign]
  simp only [if_true]

section Members

variable {seen : List String} {record : α} {entry : Entry} {cs rest : List Char}

theorem readMember_known {field : Field α} {change : α → α}
    (found : field? fields entry.name = some field) (fresh : entry.name ∉ seen)
    (reads : Reads field.read entry.value change) (written : entry.Written cs) (ends : Ends rest) :
    ∃ after, Blanks after ∧ readMember fields seen record (cs ++ rest) =
      .ok ((change record, entry.name :: seen), after ++ rest) := by
  obtain ⟨body, colon, gap, after, second, back, shape, key, signed⟩ :=
    Entry.Written.named written rest
  refine ⟨after, back, ?_⟩
  rw [field?] at found
  rw [shape, readMember]
  simp only [key, String.ofList_toList, bind, Except.bind, found, fresh, if_false, signed,
    reads gap _ second (ends.after back)]
  rfl

theorem readMember_unknown (unknown : field? fields entry.name = none)
    (isValue : IsValue entry.value) (written : entry.Written cs) (ends : Ends rest) :
    ∃ after, Blanks after ∧ readMember fields seen record (cs ++ rest) =
      .ok ((record, seen), after ++ rest) := by
  obtain ⟨body, colon, gap, after, second, back, shape, key, signed⟩ :=
    Entry.Written.named written rest
  refine ⟨after, back, ?_⟩
  rw [field?] at unknown
  rw [shape, readMember]
  simp only [key, String.ofList_toList, bind, Except.bind, unknown, signed,
    skip_value second isValue (ends.after back)]
  rfl

/-- The first of several entries is read, and the others are left. -/
theorem Steps.readMember {last : α} {entries : List Entry}
    (steps : Steps fields seen record (entry :: entries) last) (written : entry.Written cs)
    (ends : Ends rest) :
    ∃ after next seen', Blanks after ∧ Steps fields seen' next entries last ∧
      Record.readMember fields seen record (cs ++ rest) = .ok ((next, seen'), after ++ rest) := by
  cases steps with
  | known found fresh reads others =>
      obtain ⟨after, back, read⟩ := readMember_known found fresh reads written ends
      exact ⟨after, _, _, back, others, read⟩
  | unknown unknown isValue others =>
      obtain ⟨after, back, read⟩ := readMember_unknown unknown isValue written ends
      exact ⟨after, _, _, back, others, read⟩

end Members

theorem skipBlank_written {entry : Entry} {before cs : List Char} (blanks : Blanks before)
    (written : entry.Written cs) (rest : List Char) :
    skipBlank (before ++ (cs ++ rest)) = cs ++ rest := by
  have quote : isBlank '"' = false := by decide
  rw [skipBlank_append blanks]
  cases written
  rw [List.cons_append, skipBlank_of_ink quote]

theorem skipBlank_members {entries : List Entry} {cs : List Char}
    (members : AreMembers entries cs) (rest : List Char) :
    ∃ body, skipBlank (cs ++ rest) = '"' :: body := by
  cases members with
  | last front written =>
      obtain ⟨body, begins⟩ := written.begins
      rw [List.append_assoc, skipBlank_written front written, begins]
      exact ⟨_, rfl⟩
  | more front written _ =>
      obtain ⟨body, begins⟩ := written.begins
      rw [List.append_assoc, List.append_assoc, skipBlank_written front written, begins]
      exact ⟨_, rfl⟩

section Steps

variable {fuel : Nat} {first : Bool} {seen : List String} {record : α} {cs rest : List Char}

theorem readMembers_close (here : skipBlank cs = '\x7d' :: rest) :
    readMembers fields (fuel + 1) first seen record cs = .ok (record, rest) := by
  simp [readMembers, here]

theorem readMembers_first {body : List Char} (here : skipBlank cs = '"' :: body) :
    readMembers fields (fuel + 1) true seen record cs =
      readMembers.continued fields fuel seen record ('"' :: body) := by
  simp [readMembers, here]

theorem readMembers_comma (here : skipBlank cs = ',' :: rest) :
    readMembers fields (fuel + 1) false seen record cs =
      readMembers.continued fields fuel seen record (skipBlank rest) := by
  simp [readMembers, here]

end Steps

/-- The members up to the closing brace, from the first of them on. -/
theorem continued_members {entries : List Entry} {cs : List Char} (members : AreMembers entries cs)
    {seen : List String} {record last : α} (steps : Steps fields seen record entries last)
    (rest : List Char) {fuel : Nat} (enough : cs.length < fuel) :
    readMembers.continued fields fuel seen record (skipBlank (cs ++ '\x7d' :: rest)) =
      .ok (last, rest) := by
  have close : isBlank '\x7d' = false := by decide
  have comma : isBlank ',' = false := by decide
  cases fuel with
  | zero => exact absurd enough (Nat.not_lt_zero _)
  | succ fuel =>
      induction members generalizing seen record fuel with
      | @last entry before cs front written =>
          obtain ⟨after, next, seen', back, done, read⟩ := steps.readMember written
            (ends_cons (by decide) rest : Ends ('\x7d' :: rest))
          cases done
          rw [List.append_assoc, skipBlank_written front written, readMembers.continued, read]
          exact readMembers_close (by rw [skipBlank_append back, skipBlank_of_ink close])
      | @more entry entries before cs others front written _ ih =>
          obtain ⟨after, next, seen', back, later, read⟩ := steps.readMember written
            (ends_cons (by decide) _ : Ends (',' :: (others ++ '\x7d' :: rest)))
          have shape : before ++ (cs ++ ',' :: others) ++ '\x7d' :: rest =
              before ++ (cs ++ ',' :: (others ++ '\x7d' :: rest)) := by simp
          simp only [List.length_append, List.length_cons] at enough
          rw [shape, skipBlank_written front written, readMembers.continued, read]
          cases fuel with
          | zero => omega
          | succ fuel =>
              exact (readMembers_comma (by rw [skipBlank_append back, skipBlank_of_ink comma])).trans
                (ih later fuel (by omega))

/-- **How an object is read as a record.** -/
theorem read_object {entries : List Entry} {cs : List Char} (object : IsObject entries cs)
    {start last : α} (steps : Steps fields [] start entries last) :
    Reads (read fields start) cs last := by
  intro before rest blanks _
  have brace : isBlank '\x7b' = false := by decide
  have close : isBlank '\x7d' = false := by decide
  cases object with
  | empty all =>
      cases steps
      rw [read, skipBlank_append blanks, List.cons_append, skipBlank_of_ink brace]
      refine readMembers_close ?_
      rw [List.append_assoc, skipBlank_append all]
      exact skipBlank_of_ink close rest
  | @full entries cs members =>
      have fuel : cs.length < (cs ++ ['\x7d'] ++ rest).length := by simp
      have inside := continued_members members steps rest fuel
      rw [read, skipBlank_append blanks, List.cons_append, skipBlank_of_ink brace]
      obtain ⟨body, begins⟩ := skipBlank_members members ('\x7d' :: rest)
      rw [begins] at inside
      refine (readMembers_first ?_).trans inside
      rw [List.append_assoc]
      exact begins

end Record

end Tether.Json
