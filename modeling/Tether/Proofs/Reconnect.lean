/-
# Tether.Proofs.Reconnect -- the replies of the reconnect endpoint, and what the client makes of them

What the endpoint sends is read less the blanks around it, so a reply is told by its trimming alone:
by whether it is empty, the word for a reload, or of one part, and else by its first two parts.
`Reads` is the grammar of the replies; `readReconnectReply_eq_ok` and the lemmas on faults say that
the reader follows it.  The client adds a status and a deadline.

* `readReconnectReply_padded` -- blanks around a reply make no difference.
* `readReconnectReply_eq_ok`, `readReconnectReply_eq_empty`, `readReconnectReply_eq_tooFew`.
* `resolve_ends` -- the client is done by its deadline, with the answer or with a timeout.
* `resolve_eq_ok` -- it gives a reply exactly when a timely answer with success says so.
* `reconnect_exact` -- all of them together.
-/
import Tether.Proofs.Frame.Inbound
import Tether.Proofs.Text.Trimming
import Tether.Reconnect

set_option autoImplicit false

namespace Tether.Frame

/-! ## The grammar -/

def trimmed (text : String) : String := String.ofList (Text.trim text.toList)

@[simp] theorem toList_trimmed (text : String) :
    (trimmed text).toList = Text.trim text.toList := String.toList_ofList

/-- `body` is this reply: the word for a reload, or two parts that are not empty, and whatever
stands behind a further delimiter. -/
def Reads (body : String) : ReconnectReply → Prop
  | .refresh => body = "refresh"
  | .credentials session token =>
      (session.text ≠ "" ∧ delimiter ∉ session.text.toList) ∧
        (token.text ≠ "" ∧ delimiter ∉ token.text.toList) ∧
          (body = session.text ++ "&" ++ token.text ∨
            ∃ rest, body = session.text ++ "&" ++ token.text ++ "&" ++ rest)

theorem reads_credentials_iff {body : String} {session : SessionId} {token : AccessToken} :
    Reads body (.credentials session token) ↔
      session.text ≠ "" ∧ token.text ≠ "" ∧
        ∃ more, parts body = session.text :: token.text :: more := by
  rw [parts_two_iff]
  constructor
  · rintro ⟨⟨named, bare⟩, ⟨signed, free⟩, shape⟩
    exact ⟨named, signed, bare, free, shape⟩
  · rintro ⟨named, signed, bare, free, shape⟩
    exact ⟨⟨named, bare⟩, ⟨signed, free⟩, shape⟩

/-! ## The reader -/

/-- A reply of one part. -/
theorem readReconnectReply_free {data : String} (free : delimiter ∉ (trimmed data).toList) :
    readReconnectReply data =
      if trimmed data = "" then .error .empty
      else if trimmed data = refresh then .ok .refresh
      else .error (.tooFewSegments 2 1) := by
  have none_ := firstTwo_eq_none.2 free
  unfold readReconnectReply
  simp only [← toList_trimmed, none_, List.isEmpty_iff, String.toList_eq_nil_iff,
    String.toList_inj]

/-- A reply of at least two parts. -/
theorem readReconnectReply_two {data first second : String} {more : List String}
    (falls : parts (trimmed data) = first :: second :: more) :
    readReconnectReply data =
      if first = "" ∨ second = "" then .error .empty
      else .ok (.credentials ⟨first⟩ ⟨second⟩) := by
  have two := firstTwo_eq_some.2 ⟨more, falls⟩
  -- neither the empty text nor the word for a reload has a delimiter
  have cut := mem_of_two falls
  have some_ : trimmed data ≠ "" := by
    intro same
    rw [same] at cut
    cases cut
  have other : trimmed data ≠ refresh := by
    intro same
    rw [same] at cut
    exact absurd cut (by decide)
  unfold readReconnectReply
  simp only [← toList_trimmed, two, List.isEmpty_iff, String.toList_eq_nil_iff, String.toList_inj,
    some_, other, if_false, Bool.or_eq_true, String.isEmpty_iff]

theorem readReconnectReply_eq_ok {data : String} {reply : ReconnectReply} :
    readReconnectReply data = .ok reply ↔ Reads (trimmed data) reply := by
  constructor
  · intro read
    obtain free | ⟨first, second, more, falls⟩ := free_or_two (trimmed data)
    · rw [readReconnectReply_free free] at read
      split at read
      · cases read
      · split at read
        · rename_i same
          cases read
          exact same
        · cases read
    · rw [readReconnectReply_two falls] at read
      split at read
      · cases read
      · rename_i given
        rw [not_or] at given
        cases read
        exact reads_credentials_iff.2 ⟨given.1, given.2, more, falls⟩
  · intro reads
    cases reply with
    | refresh =>
        have same : trimmed data = refresh := reads
        rw [readReconnectReply_free (by rw [same]; decide), same]
        rfl
    | credentials session token =>
        obtain ⟨named, signed, more, falls⟩ := reads_credentials_iff.1 reads
        rw [readReconnectReply_two falls, if_neg (not_or.2 ⟨named, signed⟩)]

theorem readReconnectReply_eq_empty {data : String} :
    readReconnectReply data = .error .empty ↔
      trimmed data = "" ∨ (parts (trimmed data))[0]? = some "" ∨
        (parts (trimmed data))[1]? = some "" := by
  constructor
  · intro read
    obtain free | ⟨first, second, more, falls⟩ := free_or_two (trimmed data)
    · rw [readReconnectReply_free free] at read
      split at read
      · rename_i none_
        exact .inl none_
      · split at read <;> cases read
    · rw [readReconnectReply_two falls] at read
      split at read
      · rename_i lacks
        rw [falls]
        exact .inr (lacks.imp (congrArg some) (congrArg some))
      · cases read
  · rintro (none_ | lacks)
    · rw [readReconnectReply_free (by rw [none_]; exact List.not_mem_nil), if_pos none_]
    · obtain free | ⟨first, second, more, falls⟩ := free_or_two (trimmed data)
      · rw [parts_free free] at lacks
        have none_ : trimmed data = "" := by simpa using lacks
        rw [readReconnectReply_free free, if_pos none_]
      · rw [falls] at lacks
        have lacks : first = "" ∨ second = "" := by simpa using lacks
        rw [readReconnectReply_two falls, if_pos lacks]

theorem readReconnectReply_eq_tooFew {data : String} :
    readReconnectReply data = .error (.tooFewSegments 2 1) ↔
      trimmed data ≠ "" ∧ trimmed data ≠ "refresh" ∧ delimiter ∉ (trimmed data).toList := by
  constructor
  · intro read
    obtain free | ⟨first, second, more, falls⟩ := free_or_two (trimmed data)
    · rw [readReconnectReply_free free] at read
      split at read
      · cases read
      · rename_i some_
        split at read
        · cases read
        · rename_i other
          exact ⟨some_, other, free⟩
    · rw [readReconnectReply_two falls] at read
      split at read <;> cases read
  · rintro ⟨some_, other, free⟩
    rw [readReconnectReply_free free, if_neg some_]
    exact if_neg other

theorem readReconnectReply_fault {data : String} {fault : Fault}
    (failed : readReconnectReply data = .error fault) :
    fault = .empty ∨ fault = .tooFewSegments 2 1 := by
  obtain free | ⟨first, second, more, falls⟩ := free_or_two (trimmed data)
  · rw [readReconnectReply_free free] at failed
    split at failed
    · cases failed
      exact .inl rfl
    · split at failed
      · cases failed
      · cases failed
        exact .inr rfl
  · rw [readReconnectReply_two falls] at failed
    split at failed
    · cases failed
      exact .inl rfl
    · cases failed

theorem readReconnectReply_padded {front back : String} (before : Text.Blank front.toList)
    (after : Text.Blank back.toList) (data : String) :
    readReconnectReply (front ++ data ++ back) = readReconnectReply data := by
  have same : Text.trim (front ++ data ++ back).toList = Text.trim data.toList := by
    rw [String.toList_append, String.toList_append, Text.trim_padded before after]
  unfold readReconnectReply
  rw [same]

end Tether.Frame

namespace Tether.Reconnect

/-! ## The client -/

def ending (answer : Option (Nat × Http.Outcome)) (limit : Nat) : Deadline.Ending :=
  Deadline.run (answer.map (·.1)) limit

/-- The client is done by its deadline: with the answer when that arrives, at the very deadline too,
and with a timeout at the deadline when there is no answer by then. -/
theorem resolve_ends (answer : Option (Nat × Http.Outcome)) (limit : Nat) :
    (∃ time outcome, answer = some (time, outcome) ∧ time ≤ limit ∧
        ending answer limit = ⟨true, time⟩ ∧ resolve answer limit = read outcome) ∨
      ((∀ time outcome, answer = some (time, outcome) → limit < time) ∧
        ending answer limit = ⟨false, limit⟩ ∧ resolve answer limit = .error .timedOut) := by
  cases answer with
  | none => exact .inr ⟨nofun, rfl, rfl⟩
  | some arrival =>
      obtain ⟨time, outcome⟩ := arrival
      by_cases within : time ≤ limit
      · refine .inl ⟨time, outcome, rfl, within, ?_, ?_⟩
        · exact if_pos within
        · simp [resolve, Deadline.run, within]
      · refine .inr ⟨?_, ?_, ?_⟩
        · rintro _ _ ⟨⟩
          exact Nat.lt_of_not_le within
        · exact if_neg within
        · simp [resolve, Deadline.run, within, read]

theorem read_eq_ok {outcome : Http.Outcome} {reply : ReconnectReply} :
    read outcome = .ok reply ↔
      ∃ response : Http.Response, outcome = .response response ∧
        (200 ≤ response.status ∧ response.status < 300) ∧
          Frame.Reads (Frame.trimmed response.text) reply := by
  constructor
  · intro ok
    obtain ⟨response, rfl, success, given⟩ := read_success ok
    refine ⟨response, rfl, ?_, Frame.readReconnectReply_eq_ok.1 given⟩
    simpa [Http.Response.isSuccess] using success
  · rintro ⟨response, rfl, success, reads⟩
    have success : response.isSuccess = true := by simpa [Http.Response.isSuccess] using success
    simp only [read, success, if_true, Frame.readReconnectReply_eq_ok.2 reads]

theorem resolve_eq_ok {answer : Option (Nat × Http.Outcome)} {limit : Nat}
    {reply : ReconnectReply} :
    resolve answer limit = .ok reply ↔
      ∃ (time : Nat) (response : Http.Response), answer = some (time, .response response) ∧
        time ≤ limit ∧ (200 ≤ response.status ∧ response.status < 300) ∧
          Frame.Reads (Frame.trimmed response.text) reply := by
  constructor
  · intro ok
    obtain ⟨time, outcome, there, within, -, resolved⟩ | ⟨-, -, failed⟩ := resolve_ends answer limit
    · rw [resolved] at ok
      obtain ⟨response, rfl, success, reads⟩ := read_eq_ok.1 ok
      exact ⟨time, response, there, within, success, reads⟩
    · rw [failed] at ok
      cases ok
  · rintro ⟨time, response, rfl, within, success, reads⟩
    obtain ⟨_, outcome, there, -, -, resolved⟩ | ⟨late, -⟩ :=
      resolve_ends (some (time, .response response)) limit
    · cases there
      rw [resolved]
      exact read_eq_ok.2 ⟨response, rfl, success, reads⟩
    · exact absurd within (Nat.not_le_of_gt (late time _ rfl))

/-- **What the reconnect endpoint says is what the client makes of it.**  The reader follows the
grammar: with blanks around it or without, a reply is the order to reload, credentials of two parts,
or at fault, and each of these for the texts listed and no others.  The client is done by its
deadline, gives a reply exactly when an answer with success that arrives by then says so, and so
never gives credentials of which a part is empty or holds a delimiter. -/
theorem reconnect_exact :
    (∀ data : String,
      (Frame.readReconnectReply data = .ok .refresh ↔ Frame.trimmed data = "refresh") ∧
        (∀ (session : SessionId) (token : AccessToken),
          Frame.readReconnectReply data = .ok (.credentials session token) ↔
            Frame.Reads (Frame.trimmed data) (.credentials session token)) ∧
        (Frame.readReconnectReply data = .error .empty ↔
          Frame.trimmed data = "" ∨ (Frame.parts (Frame.trimmed data))[0]? = some "" ∨
            (Frame.parts (Frame.trimmed data))[1]? = some "") ∧
        (Frame.readReconnectReply data = .error (.tooFewSegments 2 1) ↔
          Frame.trimmed data ≠ "" ∧ Frame.trimmed data ≠ "refresh" ∧
            Frame.delimiter ∉ (Frame.trimmed data).toList) ∧
        (∀ fault, Frame.readReconnectReply data = .error fault →
          fault = .empty ∨ fault = .tooFewSegments 2 1) ∧
        ∀ front back : String, Text.Blank front.toList → Text.Blank back.toList →
          Frame.readReconnectReply (front ++ data ++ back) = Frame.readReconnectReply data) ∧
      ∀ (answer : Option (Nat × Http.Outcome)) (limit : Nat),
        (ending answer limit).elapsed ≤ limit ∧
          ((∃ time outcome, answer = some (time, outcome) ∧ time ≤ limit ∧
              ending answer limit = ⟨true, time⟩ ∧ resolve answer limit = read outcome) ∨
            ((∀ time outcome, answer = some (time, outcome) → limit < time) ∧
              ending answer limit = ⟨false, limit⟩ ∧ resolve answer limit = .error .timedOut)) ∧
          (∀ reply, resolve answer limit = .ok reply ↔
            ∃ (time : Nat) (response : Http.Response), answer = some (time, .response response) ∧
              time ≤ limit ∧ (200 ≤ response.status ∧ response.status < 300) ∧
                Frame.Reads (Frame.trimmed response.text) reply) ∧
          ∀ (session : SessionId) (token : AccessToken),
            resolve answer limit = .ok (.credentials session token) →
              (session.text ≠ "" ∧ Frame.delimiter ∉ session.text.toList) ∧
                token.text ≠ "" ∧ Frame.delimiter ∉ token.text.toList := by
  constructor
  · intro data
    refine ⟨Frame.readReconnectReply_eq_ok, fun session token => Frame.readReconnectReply_eq_ok,
      Frame.readReconnectReply_eq_empty, Frame.readReconnectReply_eq_tooFew,
      fun fault => Frame.readReconnectReply_fault, ?_⟩
    intro front back before after
    exact Frame.readReconnectReply_padded before after data
  · intro answer limit
    refine ⟨Deadline.run_elapsed_le _ _, resolve_ends answer limit, fun reply => resolve_eq_ok, ?_⟩
    intro session token ok
    obtain ⟨_, response, -, -, -, reads⟩ := resolve_eq_ok.1 ok
    obtain ⟨named, signed, -⟩ := reads
    exact ⟨named, signed⟩

/-- Blanks count inside a reply, and a part of nothing else is lost at its end only. -/
example :
    Frame.readReconnectReply "\n S & & T\t" = .ok (.credentials ⟨"S "⟩ ⟨" "⟩) ∧
      Frame.readReconnectReply "S& \n" = .error .empty := by decide +kernel

end Tether.Reconnect
