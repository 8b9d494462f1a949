/-
# Tether.Feedback -- what the user is shown

The session shows and hides a connection-lost indicator, reports how a reconnect
that the user asked for went, and shows at most one blocking notice.  Where no
display is at hand, each of these becomes one log entry.
-/
import Tether.Text.Quoted

set_option autoImplicit false

namespace Tether

/-- A blocking error. -/
structure Notice where
  title : String
  body : String
  detail : Option String
deriving DecidableEq

/-- Every attempt to connect failed. -/
def Notice.cannotConnect : Notice where
  title := "Error"
  body := "Failed to establish a connection to the server. Please reload this page and try again."
  detail := none

/-- The server sent a frame that breaks the protocol. -/
def Notice.invalidData (data : String) : Notice where
  title := "Error"
  body := "Invalid data received from server! Try to reload and notify the site administrator."
  detail := some ("Error data: '" ++ data ++ "'")

inductive Feedback
  | connectionLost
  | connectionRestored
  | fatal (notice : Notice)
  | reconnectFailed
  | reconnectSucceeded
deriving DecidableEq

namespace Feedback

inductive Level
  | info
  | warn
  | error
deriving DecidableEq

def Level.name : Level → String
  | info => "INFO"
  | warn => "WARN"
  | error => "ERROR"

/-- A log entry; only a notice has a title and a detail. -/
structure Entry where
  level : Level
  message : String
  notice : Option (String × String) := none
deriving DecidableEq

def optional : Option String → String
  | none => "None"
  | some text => "Some(" ++ Text.quoted text ++ ")"

/-- The entry that stands for a request where there is only a log. -/
def logged : Feedback → Entry
  | connectionLost => { level := .warn, message := "connection lost" }
  | connectionRestored => { level := .info, message := "connection restored" }
  | fatal notice =>
      { level := .error, message := notice.body,
        notice := some (notice.title, optional notice.detail) }
  | reconnectFailed => { level := .warn, message := "reconnect failed" }
  | reconnectSucceeded => { level := .info, message := "reconnect succeeded" }

end Feedback

end Tether
