/-
# Tether.Frame.Reader -- reading what the server sends

Three readers, one for each place a frame can arrive: the reply to a handshake, a
steady-state frame, and the body from the reconnect endpoint.  All cut at the
delimiter as it stands; escapes belong to client frames alone.

* `readInbound_framed` -- a token free of the delimiter and any remainder are read back.
-/
import Tether.Frame
import Tether.Text.Segments

set_option autoImplicit false

namespace Tether.Frame

inductive Inbound
  | invalidRequest
  | framed (token : ContinuationToken) (remainder : String)
deriving DecidableEq

/-- The first two segments of `cs`, when there are that many. -/
def firstTwo (cs : List Char) : Option (String × String) :=
  match Text.segments delimiter cs with
  | first :: second :: _ => some (String.ofList first, String.ofList second)
  | _ => none

/-- The instance and the first token, from the reply to a handshake. -/
def readHandshakeReply (data : String) : Except Fault (InstanceId × ContinuationToken) :=
  if data.isEmpty then .error .empty
  else if data = invalidRequest then .error .invalidRequest
  else
    match firstTwo data.toList with
    | some (instance_, token) => .ok (⟨instance_⟩, ⟨token⟩)
    | none => .error (.tooFewSegments 2 1)

/-- A steady-state frame: the new token up to the first delimiter, and all that follows. -/
def readInbound (data : String) : Except Fault Inbound :=
  if data.isEmpty then .error .empty
  else if data = invalidRequest then .ok .invalidRequest
  else
    match Text.cutFirst delimiter data.toList with
    | some (token, remainder) => .ok (.framed ⟨String.ofList token⟩ (String.ofList remainder))
    | none => .error (.missingDelimiter data)

/-- The body from the reconnect endpoint, less the blanks around it. -/
def readReconnectReply (data : String) : Except Fault ReconnectReply :=
  let body := Text.trim data.toList
  if body.isEmpty then .error .empty
  else if body = refresh.toList then .ok .refresh
  else
    match firstTwo body with
    | some (session, token) =>
        if session.isEmpty || token.isEmpty then .error .empty
        else .ok (.credentials ⟨session⟩ ⟨token⟩)
    | none => .error (.tooFewSegments 2 1)

/-- The frame that `readInbound` reads as this token and remainder. -/
def inbound (token : ContinuationToken) (remainder : String) : String :=
  token.text ++ "&" ++ remainder

theorem readInbound_framed {token : ContinuationToken} (free : delimiter ∉ token.text.toList)
    (remainder : String) :
    readInbound (inbound token remainder) = .ok (.framed token remainder) := by
  have text : (inbound token remainder).toList =
      token.text.toList ++ delimiter :: remainder.toList := by
    simp [inbound, delimiter]
  have nonempty : (inbound token remainder).isEmpty = false := by
    rw [Bool.eq_false_iff]
    intro none_
    rw [String.isEmpty_iff] at none_
    rw [none_] at text
    simp at text
  have valid : inbound token remainder ≠ invalidRequest := by
    intro same
    rw [same] at text
    have : delimiter ∈ invalidRequest.toList := by rw [text]; simp
    exact absurd this (by decide)
  unfold readInbound
  rw [nonempty, if_neg (by simp), if_neg valid, text, Text.cutFirst_append free]
  simp

end Tether.Frame
