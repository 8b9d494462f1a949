/-
# Tether.Proofs.Frame.Pieces -- what a server reads off a client's frame

A server cuts a frame at every bare delimiter and a field at its first equals sign.  Whether a
delimiter is bare is decided from the left: an escape mark takes the character after it along, so
in a run of escape marks before a delimiter it matters whether their number is even.  What has no
bare delimiter and leaves no escape mark over is sealed: it ends at the delimiter after it,
whatever follows.

* `pieces_sealed` -- a sealed text is one piece.
* `sealed_escape` -- an escaped value is sealed.
* `cut_outbound` -- the pieces of a task frame.
* `outbound_decodable` -- all parts of a task frame can be read off it.
-/
import Tether.Frame
import Tether.Text.Segments

set_option autoImplicit false

namespace Tether.Frame

/-! ## Pieces -/

/-- Put `front` before the first piece, or before the rest if there is no piece. -/
def prepend (front : List Char) : List (List Char) × List Char → List (List Char) × List Char
  | ([], rest) => ([], front ++ rest)
  | (piece :: more, rest) => ((front ++ piece) :: more, rest)

/-- The pieces of `cs` that a bare delimiter ends, and the rest after the last of them. -/
def pieces : List Char → List (List Char) × List Char
  | [] => ([], [])
  | [c] => if c = delimiter then ([[]], []) else ([], [c])
  | c :: d :: cs =>
      if c = delimiter then ([] :: (pieces (d :: cs)).1, (pieces (d :: cs)).2)
      else if c = escapeMark then prepend [c, d] (pieces cs)
      else prepend [c] (pieces (d :: cs))

/-- A frame cut at its bare delimiters. -/
def cut (frame : String) : List String × String :=
  ((pieces frame.toList).1.map String.ofList, String.ofList (pieces frame.toList).2)

/-- The key before the first equals sign, and the value that is written after it. -/
def readField (piece : String) : Option (String × String) :=
  (Text.cutFirst '=' piece.toList).map fun parts =>
    (String.ofList parts.1, unescape (String.ofList parts.2))

theorem pieces_delimiter (cs : List Char) :
    pieces (delimiter :: cs) = ([] :: (pieces cs).1, (pieces cs).2) := by
  cases cs with
  | nil => rfl
  | cons d cs => simp [pieces]

theorem pieces_plain {c : Char} (plain : isSpecial c = false) (cs : List Char) :
    pieces (c :: cs) = prepend [c] (pieces cs) := by
  simp only [isSpecial, Bool.or_eq_false_iff, beq_eq_false_iff_ne] at plain
  cases cs with
  | nil => simp [pieces, prepend, plain.2]
  | cons d cs => simp [pieces, plain.1, plain.2]

theorem pieces_escaped (c : Char) (cs : List Char) :
    pieces (escapeMark :: c :: cs) = prepend [escapeMark, c] (pieces cs) := by
  have other : escapeMark ≠ delimiter := by decide
  simp [pieces, other]

/-! ## Sealed texts -/

/-- No delimiter in it is bare, and no escape mark takes along what comes after it. -/
inductive Sealed : List Char → Prop
  | nil : Sealed []
  | plain {c : Char} {cs : List Char} (plain : isSpecial c = false) (rest : Sealed cs) :
      Sealed (c :: cs)
  | escaped (c : Char) {cs : List Char} (rest : Sealed cs) : Sealed (escapeMark :: c :: cs)

theorem pieces_sealed {front : List Char} (whole : Sealed front) (back : List Char) :
    pieces (front ++ delimiter :: back) = (front :: (pieces back).1, (pieces back).2) := by
  induction whole with
  | nil => exact pieces_delimiter back
  | plain plain _ ih =>
      rw [List.cons_append, pieces_plain plain, ih]
      rfl
  | escaped c _ ih =>
      rw [List.cons_append, List.cons_append, pieces_escaped, ih]
      rfl

theorem Sealed.append {front back : List Char} (first : Sealed front) (second : Sealed back) :
    Sealed (front ++ back) := by
  induction first with
  | nil => exact second
  | plain plain _ ih => exact .plain plain ih
  | escaped c _ ih => exact .escaped c ih

def Plain (text : String) : Prop := delimiter ∉ text.toList ∧ escapeMark ∉ text.toList

instance (text : String) : Decidable (Plain text) := by unfold Plain; infer_instance

theorem sealed_plain {cs : List Char} (plain : delimiter ∉ cs ∧ escapeMark ∉ cs) : Sealed cs := by
  induction cs with
  | nil => exact .nil
  | cons c cs ih =>
      simp only [List.mem_cons, not_or] at plain
      obtain ⟨⟨bare, delimiters⟩, mark, marks⟩ := plain
      refine .plain ?_ (ih ⟨delimiters, marks⟩)
      simp [isSpecial, Ne.symm bare, Ne.symm mark]

theorem sealed_escape (value : List Char) : Sealed (escapeChars value) := by
  induction value with
  | nil => exact .nil
  | cons c cs ih =>
      simp only [escapeChars]
      split
      · exact .escaped c ih
      · rename_i plain
        exact .plain (Bool.eq_false_iff.2 plain) ih

/-! ## Task frames -/

/-- The segment of a key and what is written for its value, less the delimiter. -/
def entry (key written : String) : String := key ++ "=" ++ written

theorem sealed_entry {key written : String} (plain : Plain key) (whole : Sealed written.toList) :
    Sealed (entry key written).toList := by
  have sign : Sealed ['='] := sealed_plain (by decide)
  rw [entry, String.toList_append, String.toList_append]
  exact ((sealed_plain plain).append sign).append whole

/-- The first segment of a frame is its first piece. -/
theorem cut_segment {key written : String} (plain : Plain key) (whole : Sealed written.toList)
    (frame : String) :
    cut (segment key written ++ frame) = (entry key written :: (cut frame).1, (cut frame).2) := by
  have text : (segment key written ++ frame).toList =
      (entry key written).toList ++ delimiter :: frame.toList := by
    simp [segment, entry, delimiter]
  unfold cut
  rw [text, pieces_sealed (sealed_entry plain whole)]
  simp

theorem cut_fields {fields : List (String × String)} (keys : ∀ field ∈ fields, Plain field.1) :
    cut (String.join (fields.map fun field => segment field.1 (escape field.2))) =
      (fields.map fun field => entry field.1 (escape field.2), "") := by
  induction fields with
  | nil => rfl
  | cons field fields ih =>
      have whole : Sealed (escape field.2).toList := by
        simpa [escape] using sealed_escape field.2.toList
      have rest := ih fun other there => keys other (List.mem_cons_of_mem _ there)
      rw [List.map_cons, String.join_cons, cut_segment (keys field List.mem_cons_self) whole, rest]
      rfl

/-- What the parts of a task frame have to be for a server to tell them apart. -/
structure Legible (session : SessionId) (token : ContinuationToken) (task : String)
    (fields : List (String × String)) : Prop where
  session : Plain session.text
  token : Plain token.text
  task : Plain task
  keys : ∀ field ∈ fields, Plain field.1 ∧ '=' ∉ field.1.toList

theorem cut_outbound {session : SessionId} {token : ContinuationToken} {task : String}
    {fields : List (String × String)} (legible : Legible session token task fields) :
    cut (outbound session token task fields) =
      (entry "sid" session.text :: entry "tok" token.text :: entry "tsk" task ::
        fields.map fun field => entry field.1 (escape field.2), "") := by
  have rest := cut_fields fun field there => (legible.keys field there).1
  unfold outbound
  rw [String.append_assoc, String.append_assoc,
    cut_segment (by decide) (sealed_plain legible.session),
    cut_segment (by decide) (sealed_plain legible.token),
    cut_segment (by decide) (sealed_plain legible.task), rest]

theorem cut_handshake {session : SessionId} {token : AccessToken} (named : Plain session.text)
    (signed : Plain token.text) :
    cut (handshake session token) = ([entry "sid" session.text, entry "tok" token.text], "") := by
  have last : handshake session token =
      segment "sid" session.text ++ (segment "tok" token.text ++ "") := by
    rw [String.append_empty, handshake]
  rw [last, cut_segment (by decide) (sealed_plain named),
    cut_segment (by decide) (sealed_plain signed)]
  rfl

theorem entry_injective {key a b : String} (same : entry key a = entry key b) : a = b := by
  rw [← String.toList_inj] at same ⊢
  simpa [entry] using same

theorem unescape_escape (value : String) : unescape (escape value) = value := by
  simp [unescape, escape, unescapeChars_escapeChars]

theorem readField_entry {key : String} (free : '=' ∉ key.toList) (value : String) :
    readField (entry key (escape value)) = some (key, value) := by
  have text : (entry key (escape value)).toList =
      key.toList ++ '=' :: (escape value).toList := by
    simp [entry]
  simp [readField, text, Text.cutFirst_append free, unescape_escape]

theorem readField_entries {fields : List (String × String)}
    (keys : ∀ field ∈ fields, '=' ∉ field.1.toList) :
    (fields.map fun field => entry field.1 (escape field.2)).map readField = fields.map some := by
  rw [List.map_map]
  exact List.map_congr_left fun field there => readField_entry (keys field there) field.2

/-- **A task frame can be read**: cut at its bare delimiters it falls into three pieces for
session, token and task, one for each field, and nothing else; each field gives back its key and
its value.  So no two task frames are the same unless they say the same, and none is a handshake. -/
theorem outbound_decodable {session : SessionId} {token : ContinuationToken} {task : String}
    {fields : List (String × String)} (legible : Legible session token task fields) :
    (∃ written : List String,
      cut (outbound session token task fields) =
          (["sid=" ++ session.text, "tok=" ++ token.text, "tsk=" ++ task] ++ written, "") ∧
        written.length = fields.length ∧ written.map readField = fields.map some) ∧
      (∀ (session' : SessionId) (token' : ContinuationToken) (task' : String)
          (fields' : List (String × String)), Legible session' token' task' fields' →
        outbound session token task fields = outbound session' token' task' fields' →
          session = session' ∧ token = token' ∧ task = task' ∧ fields = fields') ∧
      ∀ (session' : SessionId) (token' : AccessToken), Plain session'.text → Plain token'.text →
        outbound session token task fields ≠ handshake session' token' := by
  have falls := cut_outbound legible
  have read := readField_entries fun field there => (legible.keys field there).2
  refine ⟨⟨_, falls, List.length_map _, read⟩, ?_, ?_⟩
  · intro session' token' task' fields' legible' same
    have read' := readField_entries fun field there => (legible'.keys field there).2
    rw [same, cut_outbound legible'] at falls
    simp only [Prod.mk.injEq, List.cons.injEq, and_true] at falls
    obtain ⟨named, signed, asked, written⟩ := falls
    rw [written, read] at read'
    have named := entry_injective named
    have signed := entry_injective signed
    have said : fields = fields' :=
      (List.map_inj_right fun _ _ => Option.some.inj).1 read'
    cases session
    cases token
    exact ⟨congrArg SessionId.mk named.symm, congrArg ContinuationToken.mk signed.symm,
      (entry_injective asked).symm, said⟩
  · intro session' token' named signed same
    rw [same, cut_handshake named signed] at falls
    simp at falls

/-- Values that end in escape marks, hold delimiters and equals signs, or are empty. -/
def thorny : List (String × String) := [("q", r"a&b\\"), ("", r"\&"), ("q", r"=\"), ("r", "")]

/-- They are read back, however many escape marks stand before a delimiter. -/
theorem thorny_read :
    outbound ⟨"S=1"⟩ ⟨""⟩ "click" thorny =
        r"sid=S=1&tok=&tsk=click&q=a\&b\\\\&=\\\&&q==\\&r=&" ∧
      Legible ⟨"S=1"⟩ ⟨""⟩ "click" thorny ∧
      ∃ written : List String,
        cut (outbound ⟨"S=1"⟩ ⟨""⟩ "click" thorny) =
            (["sid=" ++ "S=1", "tok=" ++ "", "tsk=" ++ "click"] ++ written, "") ∧
          written.length = 4 ∧ written.map readField = thorny.map some := by
  have legible : Legible ⟨"S=1"⟩ ⟨""⟩ "click" thorny :=
    ⟨by decide, by decide, by decide, by decide⟩
  exact ⟨by decide, legible, (outbound_decodable legible).1⟩

end Tether.Frame
