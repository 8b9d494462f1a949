/-
# Tether.Url.Basic -- a URL in its normal form, and its text

A URL holds what its text says and nothing besides: user name, password, path, query
and fragment are escaped already, the scheme and a domain are lowercase, and a port
that the scheme implies is absent.  What follows the scheme has one of three forms, so
that only a URL with a host has credentials and a port, and only one without segments
is a text that nothing can be joined to.
-/
import Tether.Url.Address

set_option autoImplicit false

namespace Tether

namespace Url

/-- Where a URL points.  A host that is neither address form is a domain, possibly empty. -/
inductive Host
  | domain (name : String)
  | ipv4 (address : IPv4)
  | ipv6 (address : IPv6)
deriving DecidableEq

def Host.text : Host → String
  | .domain name => name
  | .ipv4 address => address.text
  | .ipv6 address => "[" ++ address.text ++ "]"

structure Authority where
  username : String := ""
  password : String := ""
  host : Host
  /-- Absent where it is the one that the scheme implies. -/
  port : Option UInt16 := none
deriving DecidableEq

/-- The user name and password with the sign that ends them; nothing when both are empty. -/
def Authority.credentials (a : Authority) : String :=
  if a.username.isEmpty && a.password.isEmpty then ""
  else a.username ++ (if a.password.isEmpty then "" else ":" ++ a.password) ++ "@"

def Authority.text (a : Authority) : String :=
  a.credentials ++ a.host.text ++
    match a.port with
    | some port => ":" ++ toString port.toNat
    | none => ""

def pathText (segments : List String) : String := String.join (segments.map ("/" ++ ·))

inductive Location
  | hosted (authority : Authority) (path : List String)
  /-- A path without a host. -/
  | rooted (path : List String)
  /-- A text without structure, such as a mail address. -/
  | bare (text : String)
deriving DecidableEq

/-- Without a host, a path that begins with an empty segment would read as one; it is
written with a dot in front. -/
def Location.text : Location → String
  | .hosted authority path => "//" ++ authority.text ++ pathText path
  | .rooted path => (if path.head? = some "" && 1 < path.length then "/." else "") ++ pathText path
  | .bare text => text

def impliedPort? : String → Option UInt16
  | "http" | "ws" => some 80
  | "https" | "wss" => some 443
  | "ftp" => some 21
  | _ => none

end Url

structure Url where
  scheme : String
  location : Url.Location
  query : Option String := none
  fragment : Option String := none
deriving DecidableEq

namespace Url

def text (url : Url) : String :=
  url.scheme ++ ":" ++ url.location.text ++
    (match url.query with | some query => "?" ++ query | none => "") ++
    (match url.fragment with | some fragment => "#" ++ fragment | none => "")

end Url

end Tether
