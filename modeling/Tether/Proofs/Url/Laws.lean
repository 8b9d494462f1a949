/-
# Tether.Proofs.Url.Laws -- what the calls for URLs promise

The promises are those of the URL standard, for URLs of the web: the ones with a host whose scheme
implies a port and whose paths are read strictly.  They are asked for the URLs that the calls can
yield only, since a type may hold values that no text is read as.

A URL that was read is written in one form only, and each change leaves it in that form.  So a path
that is taken from a URL and set again, or that a text without a meaning of its own is joined to,
comes back as it was; and a URL is nothing but its parts.

* `UrlKit.Arises` -- the web URLs that the calls yield.
* `UrlKit.Lawful` -- what every call does to the parts of such a URL, and when it may fail.
-/
import Tether.Proofs.Url.Paths

set_option autoImplicit false

namespace Tether

namespace Url

def webSchemes : List String := ["http", "https", "ws", "wss"]

theorem strict_of_web {scheme : String} (web : scheme ∈ webSchemes) :
    Manner.of scheme = .strict := by
  simp only [webSchemes, List.mem_cons, List.not_mem_nil, or_false] at web
  rcases web with rfl | rfl | rfl | rfl <;> rfl

end Url

namespace UrlKit

open Url

variable {U F : Type} (kit : UrlKit U F)

/-- A web URL that was parsed, or made of one by the calls. -/
inductive Arises : U → Prop
  | parse {text : String} {url : U} (parsed : kit.parse text = .ok url)
      (web : (kit.parts url).scheme ∈ webSchemes) : Arises url
  | dropQuery {url : U} (before : Arises url) : Arises (kit.dropQuery url)
  | dropFragment {url : U} (before : Arises url) : Arises (kit.dropFragment url)
  | setPath {url : U} (path : String) (before : Arises url) : Arises (kit.setPath url path)
  | join {url next : U} {reference : String} (before : Arises url)
      (joins : kit.join url reference = .ok next) (web : (kit.parts next).scheme ∈ webSchemes) :
      Arises next
  | setScheme {url next : U} {scheme : String} (before : Arises url)
      (sets : kit.setScheme url scheme = some next) (web : (kit.parts next).scheme ∈ webSchemes) :
      Arises next

structure Lawful : Prop where
  hosted : ∀ {url : U}, kit.Arises url →
    kit.isBare url = false ∧ (kit.parts url).host.isSome = true
  /-- The path is escaped, and there are no dots left in it. -/
  path : ∀ {url : U}, kit.Arises url → ∃ path, PlainPath path ∧ (kit.parts url).path = pathText path
  port : ∀ {url : U} {port : UInt16}, kit.Arises url → (kit.parts url).port = some port →
    impliedPort? (kit.parts url).scheme ≠ some port
  /-- A URL is nothing but its parts. -/
  ext : ∀ {url other : U}, kit.Arises url → kit.Arises other → kit.parts url = kit.parts other →
    url = other
  dropQuery : ∀ {url : U}, kit.Arises url →
    kit.parts (kit.dropQuery url) = { kit.parts url with query := none }
  dropFragment : ∀ {url : U}, kit.Arises url →
    kit.parts (kit.dropFragment url) = { kit.parts url with fragment := none }
  /-- A path in which there is nothing to escape and are no dots is set as it is. -/
  setPath : ∀ {url : U} {path : List String}, kit.Arises url → PlainPath path →
    kit.parts (kit.setPath url (pathText path)) = { kit.parts url with path := pathText path }
  /-- Only what is more than a path, or has nothing to stand below, may fail to be joined. -/
  join_fails : ∀ {url : U} {below : List String} {reference : String} {fault : F}, kit.Arises url →
    kit.join url reference = .error fault → kit.isBare url = true ∨ ¬Below below reference
  /-- A path below another takes the place of its last segment. -/
  join : ∀ {url next : U} {front below : List String} {last reference : String}, kit.Arises url →
    PlainPath (front ++ [last]) → (kit.parts url).path = pathText (front ++ [last]) →
    Below below reference → kit.join url reference = .ok next →
    kit.parts next =
      { kit.parts url with path := pathText (front ++ below), query := none, fragment := none }
  /-- A scheme of the web is exchanged for any other of them. -/
  setScheme_fails : ∀ {url : U} {scheme : String}, kit.Arises url →
    kit.setScheme url scheme = none → scheme ∉ webSchemes
  /-- A port that the new scheme implies is dropped. -/
  setScheme : ∀ {url next : U} {scheme : String}, kit.Arises url → scheme ∈ webSchemes →
    kit.setScheme url scheme = some next →
    kit.parts next =
      { kit.parts url with
        scheme
        port := (kit.parts url).port.filter fun port => impliedPort? scheme != some port }

end UrlKit

end Tether
