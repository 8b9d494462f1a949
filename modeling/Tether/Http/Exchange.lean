/-
# Tether.Http.Exchange -- a ledger of posted requests

Requests are numbered from zero in the order they are posted.  Each is in flight
until it is answered or given up; an answer waits in the ledger until its owner
takes it.

* `inFlight_post` -- a posted request is in flight.
-/
import Tether.Http

set_option autoImplicit false

namespace Tether.Http

inductive Standing
  | waiting
  | answered (outcome : Outcome)
  /-- Given up, or its answer was taken. -/
  | closed
deriving DecidableEq

def Standing.isWaiting : Standing → Bool
  | .waiting => true
  | .answered _ | .closed => false

/-- A request with the owner that waits for its answer. -/
structure Entry (ω : Type) where
  request : Request
  owner : ω
  standing : Standing := .waiting

structure Exchange (ω : Type) where
  entries : List (Entry ω) := []

namespace Exchange

variable {ω : Type}

def post (exchange : Exchange ω) (request : Request) (owner : ω) : Exchange ω :=
  ⟨exchange.entries ++ [{ request := request, owner := owner }]⟩

/-- The number of the next request. -/
def size (exchange : Exchange ω) : Nat := exchange.entries.length

def isInFlight (exchange : Exchange ω) (number : Nat) : Bool :=
  (exchange.entries[number]?.map fun entry => entry.standing.isWaiting).getD false

def inFlight (exchange : Exchange ω) : List Nat :=
  (List.range exchange.size).filter exchange.isInFlight

def settle (exchange : Exchange ω) (number : Nat) (standing : Standing) : Exchange ω :=
  ⟨exchange.entries.modify number fun entry => { entry with standing }⟩

/-- Give up the requests of the owners that satisfy `p`. -/
def giveUp (exchange : Exchange ω) (p : ω → Bool) : Exchange ω :=
  ⟨exchange.entries.map fun entry => if p entry.owner then { entry with standing := .closed } else entry⟩

/-- The part of a URL after its last slash, query and fragment aside. -/
def lastSegment (url : String) : String :=
  let path := url.toList.takeWhile fun c => c != '?' && c != '#'
  String.ofList (path.reverse.takeWhile (· != '/')).reverse

/-- Which request an answer is for: one by number, or the first in flight to a path. -/
inductive Address
  | number (number : Nat)
  | path (segment : String)

def find? (exchange : Exchange ω) : Address → Option Nat
  | .number number => if exchange.isInFlight number then some number else none
  | .path segment =>
      exchange.inFlight.find? fun number =>
        (exchange.entries[number]?.map fun entry => lastSegment entry.request.url == segment).getD
          false

theorem inFlight_post (exchange : Exchange ω) (request : Request) (owner : ω) :
    (exchange.post request owner).isInFlight exchange.size = true := by
  simp [isInFlight, post, size, Standing.isWaiting]

end Exchange

end Tether.Http
