/-
# Tether.Url.Kit -- the calls by which a program works with URLs

Endpoints and files of settings say nothing about how a URL is read, taken apart or changed: they
call for it.  A `UrlKit` holds these calls.  `Url.kit` is the one that runs; what is proved of
endpoints and of files holds for every kit that keeps the laws of `Tether.Proofs.Url.Laws`.
-/
import Tether.Url.Basic

set_option autoImplicit false

namespace Tether

namespace Url

/-- What a URL tells of itself, escaped as it is written. -/
structure Parts where
  scheme : String
  username : String
  password : Option String
  host : Option Host
  /-- Absent where it is the one that the scheme implies. -/
  port : Option UInt16
  path : String
  query : Option String
  fragment : Option String
deriving DecidableEq

/-- The port to connect to: the one in the URL, or the one that the scheme implies. -/
def Parts.effectivePort? (parts : Parts) : Option UInt16 := parts.port <|> impliedPort? parts.scheme

end Url

/-- Calls for URLs of the type `U`, some of which fail with an `F`. -/
structure UrlKit (U F : Type) where
  parse : String → Except F U
  text : U → String
  parts : U → Url.Parts
  /-- Whether there is nothing that a relative text could be joined to. -/
  isBare : U → Bool
  dropQuery : U → U
  dropFragment : U → U
  setPath : U → String → U
  join : U → (reference : String) → Except F U
  setScheme : U → String → Option U

end Tether
