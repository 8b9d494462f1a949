/-
# Tether.LongPoll -- the polling transport

The channel is made of requests.  Opening posts `init` and is answered by an id and
a first poll token; from then on one poll request is held open, and frames to send
are posted one at a time, each under the id.

    open  -> POST init                     <- uid&token
    poll  -> POST uid&token                <- token'&frame, or nothing
    send  -> POST uid&frame                <- anything

The next poll is posted before the frame of the last one is delivered.  A request
that fails, times out, is answered outside 2xx or lacks the delimiter ends the
transport with one failure event; a reset ends it in silence.  The transport is a
pure machine: each function answers the transport after it and the acts it asks for.

* `send_ended`, `send_fresh` -- a transport that ended refuses frames as closed, one
  that has not opened as not open.
* `answer_ended` -- once it ended, no answer matters.
-/
import Tether.Http
import Tether.Text.Segments
import Tether.Transport

set_option autoImplicit false

namespace Tether

namespace LongPoll

/-- Endpoints and deadlines, in milliseconds. -/
structure Options where
  sendUrl : String
  pollUrl : String
  pollTimeout : Nat := 45000
  sendTimeout : Nat := 7000

inductive Fault
  | request (text : String)
  | unexpectedStatus (status : Nat)
  | missingDelimiter (response : String)
  | timedOut
deriving DecidableEq

def Fault.message : Fault → String
  | .request text => "HTTP request error: " ++ text
  | .unexpectedStatus status => "unexpected status " ++ toString status
  | .missingDelimiter response => "missing delimiter in response " ++ Text.quoted response
  | .timedOut => "request timed out"

/-- The three lines of work of a transport; each waits for at most one request. -/
inductive Job
  | opening
  | polling
  | sending
deriving DecidableEq

inductive Phase
  /-- Not opened yet. -/
  | fresh
  /-- The opening request is under way. -/
  | opening
  /-- Open. -/
  | live
  /-- Failed, reset or dropped. -/
  | ended
deriving DecidableEq

inductive Act
  /-- Post a request that the job waits for. -/
  | post (job : Job) (request : Http.Request) (limit : Nat)
  /-- Let the job go on by itself. -/
  | wake (job : Job)
  /-- Report an event. -/
  | emit (event : TransportEvent)
  /-- Detach the sink. -/
  | detach
  /-- Give up every request that is in flight. -/
  | release
deriving DecidableEq

end LongPoll

structure LongPoll where
  options : LongPoll.Options
  phase : LongPoll.Phase := .fresh
  /-- The id assigned by the server. -/
  uid : Option String := none
  /-- The token for the next poll. -/
  token : String := ""
  /-- The frames taken and not posted yet. -/
  queue : List String := []
  /-- Whether a send request is under way. -/
  sending : Bool := false

namespace LongPoll

/-- The text before the first delimiter of `body` and the text after it. -/
def cut (body : String) : Option (String × String) :=
  (Text.cutFirst '&' body.toList).map fun parts =>
    (String.ofList parts.1, String.ofList parts.2)

/-- A body under the id of the transport. -/
def signed (t : LongPoll) (text : String) : String := t.uid.getD "" ++ "&" ++ text

/-- The response of a request that served its purpose. -/
def complete : Http.Outcome → Except Fault Http.Response
  | .timedOut => .error .timedOut
  | .refused text => .error (.request text)
  | .response response =>
      if response.isSuccess then .ok response else .error (.unexpectedStatus response.status)

def fail (t : LongPoll) (_ : Fault) : LongPoll × List Act :=
  if t.phase = .ended then (t, [])
  else ({ t with phase := .ended }, [.release, .emit .failed])

/-- Post a request for `job`, with `more` to do before waiting for it.  Where no time is
allowed, the wait is over before it began. -/
def issue (t : LongPoll) (job : Job) (url body : String) (limit : Nat) (more : List Act) :
    LongPoll × List Act :=
  let posted := .post job { url, headers := Http.plainText, body } limit :: more
  if limit = 0 then
    let (after, acts) := t.fail .timedOut
    (after, posted ++ acts)
  else (t, posted)

def poll (t : LongPoll) (more : List Act) : LongPoll × List Act :=
  t.issue .polling t.options.pollUrl (t.signed t.token) t.options.pollTimeout more

/-- Post the next frame, if one waits and none is under way. -/
def feed (t : LongPoll) : LongPoll × List Act :=
  match t.phase, t.sending, t.queue with
  | .live, false, frame :: rest =>
      { t with queue := rest, sending := true }.issue .sending t.options.sendUrl (t.signed frame)
        t.options.sendTimeout []
  | _, _, _ => (t, [])

/-- Begin to open; only the first call has an effect. -/
def start (t : LongPoll) : LongPoll × List Act :=
  if t.phase = .fresh then ({ t with phase := .opening }, [.wake .opening]) else (t, [])

/-- Let a job go on by itself. -/
def wake (t : LongPoll) : Job → LongPoll × List Act
  | .opening =>
      if t.phase = .opening then t.issue .opening t.options.sendUrl "init" t.options.sendTimeout []
      else (t, [])
  | .polling => if t.phase = .live then t.poll [] else (t, [])
  | .sending => t.feed

def opened (t : LongPoll) (response : Http.Response) : LongPoll × List Act :=
  match cut response.text with
  | none => t.fail (.missingDelimiter response.text)
  | some (uid, token) =>
      ({ t with phase := .live, uid := some uid, token }, [.emit .opened, .wake .polling])

def polled (t : LongPoll) (response : Http.Response) : LongPoll × List Act :=
  if response.status = 204 ∨ response.body = [] then t.poll []
  else
    match cut response.text with
    | none => t.fail (.missingDelimiter response.text)
    | some (token, frame) =>
        { t with token }.poll (if frame.isEmpty then [] else [.emit (.message frame)])

/-- The request that `job` waits for ended. -/
def answer (t : LongPoll) (job : Job) (outcome : Http.Outcome) : LongPoll × List Act :=
  if t.phase = .ended then (t, [])
  else
    match complete outcome with
    | .error fault => t.fail fault
    | .ok response =>
        match job with
        | .opening => t.opened response
        | .polling => t.polled response
        | .sending => { t with sending := false }.feed

def send (t : LongPoll) (frame : String) : Except SendFault (LongPoll × List Act) :=
  match t.phase with
  | .fresh | .opening => .error .notOpen
  | .ended => .error .closed
  | .live => .ok ({ t with queue := t.queue ++ [frame] }, [.wake .sending])

def reset (t : LongPoll) : LongPoll × List Act :=
  ({ t with phase := .ended }, [.detach, .release])

theorem send_ended {t : LongPoll} (ended : t.phase = .ended) (frame : String) :
    t.send frame = .error .closed := by
  simp [send, ended]

theorem send_fresh {t : LongPoll} (fresh : t.phase = .fresh) (frame : String) :
    t.send frame = .error .notOpen := by
  simp [send, fresh]

theorem answer_ended {t : LongPoll} (ended : t.phase = .ended) (job : Job) (outcome : Http.Outcome) :
    t.answer job outcome = (t, []) := by
  simp [answer, ended]

end LongPoll

end Tether
