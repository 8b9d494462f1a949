/-
# Tether.Proofs.Frame.Inbound -- what the readers make of a frame

Both readers of server frames cut at bare delimiters, one at the first and one at all of them, so
what they give is told by the parts of the frame.  `parts` is the library's cut of a list, and a
text that starts with two parts is one of two shapes (`parts_two_iff`).  For each form of result
there is one lemma that says which frames have it.

* `readInbound_eq_framed`, `readInbound_eq_invalidRequest`, `readInbound_eq_error`.
* `readHandshakeReply_eq_ok`, `readHandshakeReply_eq_error`.
* `readHandshakeReply_of_readInbound` -- a reply read as a steady-state frame.
* `readers_exact` -- all of them together.
-/
import Tether.Frame.Reader

set_option autoImplicit false

namespace Tether.Frame

/-! ## Parts -/

/-- The parts of `text` between its delimiters; one part when there is none. -/
def parts (text : String) : List String := (text.toList.splitOn delimiter).map String.ofList

theorem toList_join (front back : String) :
    (front ++ "&" ++ back).toList = front.toList ++ delimiter :: back.toList := by
  simp [delimiter]

theorem parts_free {text : String} (free : delimiter ∉ text.toList) : parts text = [text] := by
  rw [parts, List.splitOn_eq_singleton free]
  simp

theorem parts_cut {front : String} (free : delimiter ∉ front.toList) (back : String) :
    parts (front ++ "&" ++ back) = front :: parts back := by
  have falls : (front.toList ++ delimiter :: back.toList).splitOn delimiter =
      front.toList :: back.toList.splitOn delimiter := by
    have first := List.splitOn_eq_singleton free
    unfold List.splitOn at first ⊢
    rw [List.splitOnP_append_cons _ _ (by simp), first]
    rfl
  rw [parts, toList_join, falls]
  simp [parts]

/-- A text has no delimiter, or it is cut at its first one. -/
theorem free_or_cut (text : String) : delimiter ∉ text.toList ∨
    ∃ front back : String, delimiter ∉ front.toList ∧ text = front ++ "&" ++ back := by
  cases falls : Text.cutFirst delimiter text.toList with
  | none => exact .inl (Text.cutFirst_eq_none.1 falls)
  | some sides =>
      obtain ⟨joined, free⟩ := Text.cutFirst_eq_some falls
      refine .inr ⟨String.ofList sides.1, String.ofList sides.2, by simpa using free, ?_⟩
      rw [← String.toList_inj, toList_join, joined]
      simp

theorem parts_ne_nil (text : String) : parts text ≠ [] := by
  simp [parts, List.splitOn_ne_nil]

theorem mem_join (front back : String) : delimiter ∈ (front ++ "&" ++ back).toList := by
  rw [toList_join]
  exact List.mem_append_right _ List.mem_cons_self

/-- A text whose second part is `second` is two parts and no more, or goes on behind a further
delimiter. -/
theorem parts_two_iff {text first second : String} :
    (∃ more, parts text = first :: second :: more) ↔
      delimiter ∉ first.toList ∧ delimiter ∉ second.toList ∧
        (text = first ++ "&" ++ second ∨ ∃ rest, text = first ++ "&" ++ second ++ "&" ++ rest) := by
  have regroup (rest : String) :
      first ++ "&" ++ second ++ "&" ++ rest = first ++ "&" ++ (second ++ "&" ++ rest) := by
    simp only [String.append_assoc]
  constructor
  · rintro ⟨more, falls⟩
    obtain free | ⟨front, back, free, rfl⟩ := free_or_cut text
    · rw [parts_free free] at falls
      cases falls
    · rw [parts_cut free] at falls
      obtain last | ⟨middle, rest, between, rfl⟩ := free_or_cut back
      · rw [parts_free last, List.cons.injEq, List.cons.injEq] at falls
        obtain ⟨rfl, rfl, -⟩ := falls
        exact ⟨free, last, .inl rfl⟩
      · rw [parts_cut between, List.cons.injEq, List.cons.injEq] at falls
        obtain ⟨rfl, rfl, -⟩ := falls
        exact ⟨free, between, .inr ⟨rest, (regroup rest).symm⟩⟩
  · rintro ⟨free, between, rfl | ⟨rest, rfl⟩⟩
    · exact ⟨[], by rw [parts_cut free, parts_free between]⟩
    · exact ⟨parts rest, by rw [regroup, parts_cut free, parts_cut between]⟩

theorem mem_of_two {text first second : String} {more : List String}
    (falls : parts text = first :: second :: more) : delimiter ∈ text.toList := by
  apply Decidable.of_not_not
  intro free
  rw [parts_free free] at falls
  cases falls

/-- A text has no delimiter, or at least two parts. -/
theorem free_or_two (text : String) : delimiter ∉ text.toList ∨
    ∃ (first second : String) (more : List String), parts text = first :: second :: more := by
  obtain free | ⟨front, back, free, rfl⟩ := free_or_cut text
  · exact .inl free
  · obtain ⟨second, more, falls⟩ := List.exists_cons_of_ne_nil (parts_ne_nil back)
    exact .inr ⟨front, second, more, by rw [parts_cut free, falls]⟩

theorem firstTwo_eq_some {text first second : String} :
    firstTwo text.toList = some (first, second) ↔
      ∃ more, parts text = first :: second :: more := by
  unfold firstTwo parts
  rw [Text.segments_eq_splitOn]
  cases text.toList.splitOn delimiter with
  | nil => simp
  | cons a tail =>
      cases tail with
      | nil => simp
      | cons b more => simp

theorem firstTwo_eq_none {text : String} :
    firstTwo text.toList = none ↔ delimiter ∉ text.toList := by
  constructor
  · intro short
    obtain free | ⟨first, second, more, falls⟩ := free_or_two text
    · exact free
    · rw [firstTwo_eq_some.2 ⟨more, falls⟩] at short
      cases short
  · intro free
    cases two : firstTwo text.toList with
    | none => rfl
    | some found =>
        obtain ⟨more, falls⟩ := firstTwo_eq_some.1 two
        exact absurd (mem_of_two falls) free

/-! ## Steady-state frames -/

theorem readInbound_free {data : String} (free : delimiter ∉ data.toList) :
    readInbound data =
      if data = "" then .error .empty
      else if data = invalidRequest then .ok .invalidRequest
      else .error (.missingDelimiter data) := by
  unfold readInbound
  rw [Text.cutFirst_eq_none.2 free]
  simp only [String.isEmpty_iff]

theorem readInbound_cut {front : String} (free : delimiter ∉ front.toList) (back : String) :
    readInbound (front ++ "&" ++ back) = .ok (.framed ⟨front⟩ back) :=
  @readInbound_framed ⟨front⟩ free back

theorem readInbound_eq_framed {data : String} {token : ContinuationToken} {remainder : String} :
    readInbound data = .ok (.framed token remainder) ↔
      delimiter ∉ token.text.toList ∧ data = inbound token remainder := by
  constructor
  · intro read
    obtain free | ⟨front, back, free, rfl⟩ := free_or_cut data
    · rw [readInbound_free free] at read
      split at read
      · cases read
      · split at read <;> cases read
    · rw [readInbound_cut free] at read
      cases read
      exact ⟨free, rfl⟩
  · rintro ⟨free, rfl⟩
    exact readInbound_framed free remainder

theorem readInbound_eq_invalidRequest {data : String} :
    readInbound data = .ok .invalidRequest ↔ data = invalidRequest := by
  constructor
  · intro read
    obtain free | ⟨front, back, free, rfl⟩ := free_or_cut data
    · rw [readInbound_free free] at read
      split at read
      · cases read
      · split at read
        · assumption
        · cases read
    · rw [readInbound_cut free] at read
      cases read
  · rintro rfl
    rfl

theorem readInbound_eq_error {data : String} {fault : Fault} :
    readInbound data = .error fault ↔
      data = "" ∧ fault = .empty ∨
        data ≠ "" ∧ data ≠ invalidRequest ∧ delimiter ∉ data.toList ∧
          fault = .missingDelimiter data := by
  constructor
  · intro read
    obtain free | ⟨front, back, free, rfl⟩ := free_or_cut data
    · rw [readInbound_free free] at read
      split at read
      · rename_i none_
        cases read
        exact .inl ⟨none_, rfl⟩
      · rename_i some_
        split at read
        · cases read
        · rename_i other
          cases read
          exact .inr ⟨some_, other, free, rfl⟩
    · rw [readInbound_cut free] at read
      cases read
  · rintro (⟨rfl, rfl⟩ | ⟨some_, other, free, rfl⟩)
    · rfl
    · rw [readInbound_free free, if_neg some_, if_neg other]

/-! ## Handshake replies -/

/-- What is wrong with a handshake reply that has no delimiter. -/
def replyFault (data : String) : Fault :=
  if data = "" then .empty
  else if data = invalidRequest then .invalidRequest
  else .tooFewSegments 2 1

theorem readHandshakeReply_free {data : String} (free : delimiter ∉ data.toList) :
    readHandshakeReply data = .error (replyFault data) := by
  unfold readHandshakeReply replyFault
  rw [firstTwo_eq_none.2 free]
  simp only [String.isEmpty_iff]
  split
  · rfl
  · split <;> rfl

theorem readHandshakeReply_two {data first second : String} {more : List String}
    (falls : parts data = first :: second :: more) :
    readHandshakeReply data = .ok (⟨first⟩, ⟨second⟩) := by
  have cut := mem_of_two falls
  have nonempty : ¬data.isEmpty = true := by
    rw [String.isEmpty_iff]
    rintro rfl
    cases cut
  have valid : data ≠ invalidRequest := by
    rintro rfl
    exact absurd cut (by decide)
  unfold readHandshakeReply
  rw [if_neg nonempty, if_neg valid, firstTwo_eq_some.2 ⟨more, falls⟩]

theorem readHandshakeReply_eq_ok {data : String} {instance_ : InstanceId}
    {token : ContinuationToken} :
    readHandshakeReply data = .ok (instance_, token) ↔
      ∃ more, parts data = instance_.text :: token.text :: more := by
  constructor
  · intro read
    obtain free | ⟨first, second, more, falls⟩ := free_or_two data
    · rw [readHandshakeReply_free free] at read
      cases read
    · rw [readHandshakeReply_two falls] at read
      cases read
      exact ⟨more, falls⟩
  · rintro ⟨more, falls⟩
    exact readHandshakeReply_two falls

theorem readHandshakeReply_eq_error {data : String} {fault : Fault} :
    readHandshakeReply data = .error fault ↔
      delimiter ∉ data.toList ∧ fault = replyFault data := by
  constructor
  · intro read
    obtain free | ⟨first, second, more, falls⟩ := free_or_two data
    · rw [readHandshakeReply_free free] at read
      cases read
      exact ⟨free, rfl⟩
    · rw [readHandshakeReply_two falls] at read
      cases read
  · rintro ⟨free, rfl⟩
    exact readHandshakeReply_free free

theorem readHandshakeReply_accepts {data : String} :
    (∃ reply, readHandshakeReply data = .ok reply) ↔ delimiter ∈ data.toList := by
  constructor
  · rintro ⟨reply, read⟩
    obtain ⟨more, falls⟩ := readHandshakeReply_eq_ok.1 read
    exact mem_of_two falls
  · intro there
    obtain free | ⟨first, second, more, falls⟩ := free_or_two data
    · exact absurd there free
    · exact ⟨_, readHandshakeReply_two falls⟩

/-- The handshake reply read as a steady-state frame: the same first part, and a remainder whose
own token is the second part, if the remainder has one. -/
theorem readHandshakeReply_of_readInbound {data : String} {instance_ : InstanceId}
    {token : ContinuationToken} :
    readHandshakeReply data = .ok (instance_, token) ↔
      ∃ remainder, readInbound data = .ok (.framed ⟨instance_.text⟩ remainder) ∧
        if delimiter ∈ remainder.toList then
          ∃ rest, readInbound remainder = .ok (.framed token rest)
        else token.text = remainder := by
  rw [readHandshakeReply_eq_ok, parts_two_iff]
  simp only [readInbound_eq_framed, inbound]
  constructor
  · rintro ⟨free, between, rfl | ⟨rest, rfl⟩⟩
    · exact ⟨token.text, ⟨free, rfl⟩, by rw [if_neg between]⟩
    · refine ⟨token.text ++ "&" ++ rest, ⟨free, by simp only [String.append_assoc]⟩, ?_⟩
      rw [if_pos (mem_join token.text rest)]
      exact ⟨rest, between, rfl⟩
  · rintro ⟨remainder, ⟨free, rfl⟩, agreed⟩
    split at agreed
    · obtain ⟨rest, between, rfl⟩ := agreed
      exact ⟨free, between, .inr ⟨rest, by simp only [String.append_assoc]⟩⟩
    · rename_i last
      subst agreed
      exact ⟨free, last, .inl rfl⟩

/-- **The readers take what the framing gives, and nothing else.**  A steady-state frame is read as
a token and a remainder exactly when it was put together from them and the token is free of the
delimiter; the sentinel and the faults have the remaining texts among them.  A handshake reply is
accepted exactly when it has a delimiter, gives its first two parts, which are what the other reader
makes of it, and is at fault otherwise. -/
theorem readers_exact (data : String) :
    (∀ (token : ContinuationToken) (remainder : String),
      readInbound data = .ok (.framed token remainder) ↔
        delimiter ∉ token.text.toList ∧ data = token.text ++ "&" ++ remainder) ∧
      (readInbound data = .ok .invalidRequest ↔ data = "invalid_request") ∧
      (∀ fault, readInbound data = .error fault ↔
        data = "" ∧ fault = .empty ∨
          data ≠ "" ∧ data ≠ "invalid_request" ∧ delimiter ∉ data.toList ∧
            fault = .missingDelimiter data) ∧
      ((∃ reply, readHandshakeReply data = .ok reply) ↔ delimiter ∈ data.toList) ∧
      (∀ (instance_ : InstanceId) (token : ContinuationToken),
        (readHandshakeReply data = .ok (instance_, token) ↔
            ∃ more, parts data = instance_.text :: token.text :: more) ∧
          (readHandshakeReply data = .ok (instance_, token) ↔
            ∃ remainder, readInbound data = .ok (.framed ⟨instance_.text⟩ remainder) ∧
              if delimiter ∈ remainder.toList then
                ∃ rest, readInbound remainder = .ok (.framed token rest)
              else token.text = remainder)) ∧
      ∀ fault, readHandshakeReply data = .error fault ↔
        delimiter ∉ data.toList ∧
          fault = if data = "" then .empty
            else if data = "invalid_request" then .invalidRequest
            else .tooFewSegments 2 1 := by
  refine ⟨fun token remainder => readInbound_eq_framed, readInbound_eq_invalidRequest,
    fun fault => readInbound_eq_error, readHandshakeReply_accepts, ?_,
    fun fault => readHandshakeReply_eq_error⟩
  intro instance_ token
  exact ⟨readHandshakeReply_eq_ok, readHandshakeReply_of_readInbound⟩

/-- A sentinel before a delimiter is a token, and parts may be empty. -/
example :
    readInbound "invalid_request&ping" = .ok (.framed ⟨"invalid_request"⟩ "ping") ∧
      readInbound "&&" = .ok (.framed ⟨""⟩ "&") ∧
      readHandshakeReply "&&" = .ok (⟨""⟩, ⟨""⟩) := ⟨rfl, rfl, rfl⟩

end Tether.Frame
