/-
# Tether.Url.Edit -- joining texts to a URL, and changing its parts

A relative text is read as if it stood where the base stands: what it leaves out at its front is the
base's.  A part that is set is read as the same part of a text would be, so dots in a new path are
resolved and its characters escaped, and a port that the new scheme implies is dropped.

* `join_path` -- a path below the base is joined to it without a fault.
-/
import Tether.Url.Kit
import Tether.Url.Reader

set_option autoImplicit false

namespace Tether.Url

/-! ## Parts -/

def path (url : Url) : String :=
  match url.location with
  | .hosted _ path | .rooted path => pathText path
  | .bare text => text

def authority? (url : Url) : Option Authority :=
  match url.location with
  | .hosted authority _ => some authority
  | _ => none

/-- A host; none where it is empty. -/
def Authority.host? (authority : Authority) : Option Host :=
  if authority.host = .domain "" then none else some authority.host

def Authority.password? (authority : Authority) : Option String :=
  if authority.password = "" then none else some authority.password

def parts (url : Url) : Parts where
  scheme := url.scheme
  username := (url.authority?.map Authority.username).getD ""
  password := url.authority?.bind Authority.password?
  host := url.authority?.bind Authority.host?
  port := url.authority?.bind Authority.port
  path := url.path
  query := url.query
  fragment := url.fragment

def isBare (url : Url) : Bool :=
  match url.location with
  | .bare _ => true
  | _ => false

/-! ## Paths -/

def pathOf (manner : Manner) (cs : List Char) : List String :=
  match manner with
  | .strict => readPath .strict cs
  | .plain => if cs.isEmpty then [] else readPath .plain cs
  | .file => filedPath (({} : Course).follow .file ((between .file cs).map (⟨·, none⟩)))

/-- A path without segments, which no slash begins. -/
def bareOf : List Char → String
  | '/' :: rest => String.ofList ('%' :: '2' :: 'F' :: escape .bare rest)
  | cs => String.ofList (escape .bare cs)

def setPath (url : Url) (path : String) : Url :=
  let cs := withoutBreaks path.toList
  { url with
    location :=
      match url.location with
      | .hosted authority _ => .hosted authority (pathOf (Manner.of url.scheme) cs)
      | .rooted _ => .rooted (pathOf (Manner.of url.scheme) cs)
      | .bare _ => .bare (bareOf cs) }

/-- Where a path that is written as `cs` sets out from beside `path`: at the root if it begins with
a slash, or else behind all but the last segment.  The drive of a file stays, unless `cs` names
one. -/
def setOut (manner : Manner) (path : List String) (cs : List Char) : Course :=
  let kept := (path.map String.toList).reverse
  let fromRoot := cs.head?.any manner.isSlash
  match manner with
  | .file =>
      if isDrive ((between .file cs).headD []) then {}
      else { kept := if fromRoot then kept.getLast?.toList.filter isDrive else shorten kept }
  | _ => { kept := if fromRoot then [] else kept.tail }

/-- The location that `cs`, a path, leads to. -/
def Location.goOn (manner : Manner) (location : Location) (cs : List Char) : Location :=
  let along := fun path => (setOut manner path cs).follow manner ((between manner cs).map (⟨·, none⟩))
  match location with
  | .hosted authority path =>
      if manner = .file then filed authority.host (along path)
      else .hosted authority ((along path).path.map String.ofList)
  | .rooted path => .rooted ((along path).path.map String.ofList)
  | .bare text => .bare text

/-! ## Relative texts -/

/-- Whether `cs` begins with the two slashes of a host. -/
def namesHost (manner : Manner) : List Char → Bool
  | first :: second :: _ => manner.isSlash first && manner.isSlash second
  | _ => false

/-- A host and what follows it, beside a URL of `scheme`. -/
def readBeside (scheme : String) (cs : List Char) : Except Fault Url :=
  match Manner.of scheme with
  | .strict => readHosted scheme .strict (cs.dropWhile Manner.strict.isSlash)
  | .file => readFile cs
  | .plain => readHosted scheme .plain (cs.drop 2)

/-- The URL that `cs`, in which there is no scheme, is beside `base`. -/
def resolve (base : Url) (cs : List Char) : Except Fault Url :=
  let manner := Manner.of base.scheme
  let tail := readTail manner cs
  if namesHost manner tail.front then readBeside base.scheme cs
  else if tail.front.isEmpty then
    .ok { base with query := tail.query <|> base.query, fragment := tail.fragment }
  else
    .ok { base with
          location := base.location.goOn manner tail.front
          query := tail.query
          fragment := tail.fragment }

/-- The URL that `reference` is beside `base`.  A scheme that is the base's own may stand before a
relative text, unless the base's manner is plain. -/
def join (base : Url) (reference : String) : Except Fault Url :=
  let cs := withoutBreaks (trimmed reference.toList)
  match scheme? cs with
  | none =>
      if base.isBare && cs.head? ≠ some '#' then .error .bareBase else resolve base cs
  | some (scheme, rest) =>
      if scheme = base.scheme && (scheme = "file" ||
          (Manner.of scheme = .strict && !namesHost .strict rest)) then resolve base rest
      else read reference

/-! ## Schemes -/

/-- Whether the paths of `scheme` take a backslash for a slash. -/
def isSpecial (scheme : String) : Bool := Manner.of scheme != .plain

/-- The scheme that is written as `text`. -/
def schemeOf? (text : String) : Option String :=
  match scheme? (text.toList ++ [':']) with
  | some (scheme, []) | some (scheme, [':']) => some scheme
  | _ => none

/-- `url` with another scheme.  A special one is exchanged for a special one only, which no file
may become, and one that has a host stays with one. -/
def withScheme? (url : Url) (scheme : String) : Option Url :=
  if isSpecial scheme != isSpecial url.scheme then none
  else
    match url.location with
    | .hosted authority path =>
        if scheme = "file" || (isSpecial scheme && authority.host?.isNone) then none
        else
          let port := authority.port.filter fun port => impliedPort? scheme != some port
          some { url with scheme, location := .hosted { authority with port } path }
    | _ => if isSpecial scheme then none else some { url with scheme }

def setScheme? (url : Url) (text : String) : Option Url := (schemeOf? text).bind url.withScheme?

/-- The calls by which this development works with URLs. -/
def kit : UrlKit Url Fault where
  parse := read
  text := text
  parts := parts
  isBare := isBare
  dropQuery := fun url => { url with query := none }
  dropFragment := fun url => { url with fragment := none }
  setPath := setPath
  join := join
  setScheme := setScheme?

/-- **A path below the base is joined to it without a fault.** -/
theorem join_path {base : Url} {reference : String} (place : base.isBare = false)
    (relative : scheme? (withoutBreaks (trimmed reference.toList)) = none) {first : Char}
    {rest : List Char} (only : readTail (Manner.of base.scheme)
      (withoutBreaks (trimmed reference.toList)) = ⟨first :: rest, none, none⟩)
    (below : (Manner.of base.scheme).isSlash first = false) :
    join base reference =
      .ok { base with
            location := base.location.goOn (Manner.of base.scheme) (first :: rest)
            query := none
            fragment := none } := by
  have noHost : namesHost (Manner.of base.scheme) (first :: rest) = false := by
    cases rest <;> simp [namesHost, below]
  simp [join, relative, place, resolve, only, noHost]

end Tether.Url
