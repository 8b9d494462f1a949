/-
# Tether.Http -- requests, responses and how a request can end

The client only ever posts a text body.  A request ends with a response, with an
error of the network, or at its deadline.
-/
import Tether.Text.Lowercase
import Tether.Text.Utf8

set_option autoImplicit false

namespace Tether.Http

structure Request where
  url : String
  headers : List (String × String)
  body : String
deriving DecidableEq

/-- A response; the names of its headers are kept in lowercase. -/
structure Response where
  status : Nat
  body : List UInt8
  headers : List (String × String) := []
deriving DecidableEq

namespace Response

def ofBody (body : List UInt8) : Response := { status := 200, body }

def ofStatus (status : Nat) : Response := { status, body := [] }

def isSuccess (response : Response) : Bool := 200 ≤ response.status && response.status < 300

def text (response : Response) : String := Text.Utf8.text response.body

/-- The value of the first header whose name is the lowercase of `name`. -/
def header? (response : Response) (name : String) : Option String :=
  (response.headers.find? fun header => header.1 == Text.lowercase name).map (·.2)

end Response

inductive Outcome
  | response (response : Response)
  | refused (text : String)
  | timedOut
deriving DecidableEq

def plainText : List (String × String) := [("content-type", "text/plain; charset=utf-8")]

def form : List (String × String) :=
  [("content-type", "application/x-www-form-urlencoded; charset=utf-8")]

end Tether.Http
