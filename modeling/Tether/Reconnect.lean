/-
# Tether.Reconnect -- the client of the reconnect endpoint

It posts the instance's id as a form and reads fresh credentials, or the order to
reload, from the answer.
-/
import Tether.Deadline
import Tether.Frame.Reader
import Tether.Http
import Tether.Text.FormEncoding

set_option autoImplicit false

namespace Tether.Reconnect

inductive Fault
  | request (text : String)
  | unexpectedStatus (status : Nat) (body : String)
  | malformed (fault : Frame.Fault)
  | timedOut
deriving DecidableEq

def Fault.message : Fault → String
  | .request text => "HTTP request error: " ++ text
  | .unexpectedStatus status body => "unexpected status " ++ toString status ++ ": " ++ body
  | .malformed fault => "malformed reconnect reply: " ++ fault.message
  | .timedOut => "reconnect request timed out"

def request (url : String) (instanceId : InstanceId) : Http.Request where
  url := url
  headers := Http.form
  body := Text.FormEncoding.pair "id" instanceId.text

def read : Http.Outcome → Except Fault ReconnectReply
  | .timedOut => .error .timedOut
  | .refused text => .error (.request text)
  | .response response =>
      if response.isSuccess then
        match Frame.readReconnectReply response.text with
        | .ok reply => .ok reply
        | .error fault => .error (.malformed fault)
      else .error (.unexpectedStatus response.status response.text)

/-- The result of a request whose answer, if any, arrives at the given time. -/
def resolve (answer : Option (Nat × Http.Outcome)) (limit : Nat) : Except Fault ReconnectReply :=
  match answer with
  | none => read .timedOut
  | some (time, outcome) =>
      if (Deadline.run (some time) limit).completed then read outcome else read .timedOut

theorem read_success {outcome : Http.Outcome} {reply : ReconnectReply}
    (ok : read outcome = .ok reply) :
    ∃ response, outcome = .response response ∧ response.isSuccess = true ∧
      Frame.readReconnectReply response.text = .ok reply := by
  match outcome with
  | .timedOut => simp [read] at ok
  | .refused _ => simp [read] at ok
  | .response response =>
      simp only [read] at ok
      split at ok
      · rename_i success
        refine ⟨response, rfl, success, ?_⟩
        split at ok
        · simp_all
        · simp at ok
      · simp at ok

end Tether.Reconnect
