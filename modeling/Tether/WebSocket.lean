/-
# Tether.WebSocket -- the persistent transport

One connection carries text messages both ways.  Frames that are taken wait in a
queue and are written one by one; text messages from the peer are delivered, all
others pass unnoticed.  The peer's close and the end of the stream end the transport
with a close event; an error of the connection, a frame that cannot be written or a
message past the size limit with a failure event; a reset in silence.  The transport
is a pure machine, as the polling one is.

Two sides move it.  Its owner opens it, hands it frames and dismisses it; the task
that holds the connection connects, writes, reads, and gives up once it notices that
it was dismissed.  Until it notices, it may still write what was taken before.

* `send_fresh`, `send_dismissed` -- a transport that has not opened refuses frames as
  not open, one that was dismissed as closed.
-/
import Tether.Transport

set_option autoImplicit false

namespace Tether

namespace WebSocket

/-- Endpoint and limits; the deadline is in milliseconds, the size in bytes. -/
structure Options where
  url : String
  connectTimeout : Nat := 10000
  maxMessageSize : Nat := 16777216

inductive ConnectFault
  | socket (text : String)
  | timedOut
deriving DecidableEq

def ConnectFault.message : ConnectFault → String
  | .socket text => "WebSocket error: " ++ text
  | .timedOut => "connect timed out"

inductive RunFault
  | socket (text : String)
  | closedByPeer
deriving DecidableEq

def RunFault.message : RunFault → String
  | .socket text => "WebSocket error: " ++ text
  | .closedByPeer => "closed by peer"

inductive Phase
  /-- Not opened yet. -/
  | fresh
  | connecting
  /-- Connected. -/
  | live
  /-- The connection failed, was closed by the peer, or was given up. -/
  | ended
deriving DecidableEq

inductive Incoming
  | text (data : String)
  | binary (bytes : List UInt8)
  | ping (bytes : List UInt8)
  | pong (bytes : List UInt8)
  | close
  /-- The stream is over. -/
  | over
  /-- The stream broke off, or what came was no message. -/
  | broken
deriving DecidableEq

inductive Act
  /-- Connect to the endpoint within the deadline. -/
  | connect (url : String) (limit : Nat)
  /-- Write a text message. -/
  | write (frame : String)
  /-- Say goodbye and give up the connection. -/
  | close
  /-- Give up the attempt to connect, or the connection as it is. -/
  | abandon
  | emit (event : TransportEvent)
  | detach
deriving DecidableEq

end WebSocket

structure WebSocket where
  options : WebSocket.Options
  phase : WebSocket.Phase := .fresh
  /-- Reset or dropped by its owner. -/
  dismissed : Bool := false
  /-- The frames taken and not written yet. -/
  queue : List String := []

namespace WebSocket

/-- Begin to connect; only the first call has an effect, and none after a reset. -/
def start (t : WebSocket) : WebSocket × List Act :=
  if t.phase = .fresh ∧ t.dismissed = false then
    ({ t with phase := .connecting }, [.connect t.options.url t.options.connectTimeout])
  else (t, [])

def connected (t : WebSocket) : WebSocket × List Act :=
  if t.phase = .connecting then ({ t with phase := .live }, [.emit .opened]) else (t, [])

def refused (t : WebSocket) (_ : ConnectFault) : WebSocket × List Act :=
  if t.phase = .connecting then ({ t with phase := .ended }, [.emit .failed]) else (t, [])

def flush (t : WebSocket) : WebSocket × List Act :=
  match t.phase, t.queue with
  | .live, frame :: rest => ({ t with queue := rest }, [.write frame])
  | _, _ => (t, [])

/-- The next frame that waits cannot be written. -/
def choke (t : WebSocket) : WebSocket × List Act :=
  match t.phase, t.queue with
  | .live, _ :: rest => ({ t with phase := .ended, queue := rest }, [.abandon, .emit .failed])
  | _, _ => (t, [])

/-- The size of a message that counts against the limit. -/
def Incoming.size : Incoming → Nat
  | .text data => data.utf8ByteSize
  | .binary bytes => bytes.length
  | .ping _ | .pong _ | .close | .over | .broken => 0

def receive (t : WebSocket) (incoming : Incoming) : WebSocket × List Act :=
  if t.phase = .live then
    if t.options.maxMessageSize < incoming.size then
      ({ t with phase := .ended }, [.abandon, .emit .failed])
    else
      match incoming with
      | .text data => (t, [.emit (.message data)])
      | .binary _ | .ping _ | .pong _ => (t, [])
      | .close | .over => ({ t with phase := .ended }, [.abandon, .emit .closed])
      | .broken => ({ t with phase := .ended }, [.abandon, .emit .failed])
  else (t, [])

def send (t : WebSocket) (frame : String) : Except SendFault WebSocket :=
  if t.dismissed then .error .closed
  else
    match t.phase with
    | .fresh | .connecting | .ended => .error .notOpen
    | .live => .ok { t with queue := t.queue ++ [frame] }

/-- The owner has done with it: no event comes out any more, and no frame is taken. -/
def dismiss (t : WebSocket) : WebSocket × List Act := ({ t with dismissed := true }, [.detach])

/-- The task notices that it was dismissed, and gives up, with a goodbye to the peer where there
is one. -/
def leave (t : WebSocket) : WebSocket × List Act :=
  if t.dismissed then
    match t.phase with
    | .live => ({ t with phase := .ended }, [.close])
    | .connecting => ({ t with phase := .ended }, [.abandon])
    | .fresh | .ended => (t, [])
  else (t, [])

/-- End in silence, and give up at once. -/
def reset (t : WebSocket) : WebSocket × List Act :=
  let (gone, acts) := t.dismiss
  let (left, more) := gone.leave
  (left, acts ++ more)

theorem send_fresh {t : WebSocket} (fresh : t.phase = .fresh) (kept : t.dismissed = false)
    (frame : String) : t.send frame = .error .notOpen := by
  simp [send, fresh, kept]

theorem send_dismissed {t : WebSocket} (gone : t.dismissed = true) (frame : String) :
    t.send frame = .error .closed := by
  simp [send, gone]

end WebSocket

end Tether
