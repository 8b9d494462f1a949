/-
# Tether.Url.Reader -- reading a URL

Controls and spaces around the text are dropped, and tabs and line breaks anywhere in
it.  The scheme decides how the rest is read.  The schemes with an implied port and
`file` are strict: they take a backslash for a slash and their host is a domain or an
address.  Dots in a path are resolved while it is read.  A break may part a file's drive
from what follows it, so the breaks in its path are dropped last.

* `follow_of_plain` -- segments without dots are kept as they are, in order.
-/
import Tether.Text.Utf8
import Tether.Url.Basic
import Tether.Url.Domain

set_option autoImplicit false

namespace Tether.Url

inductive Fault
  | noScheme
  /-- A relative text has no meaning beside a text without structure. -/
  | bareBase
  | emptyHost
  | invalidPort
  | invalidIPv4
  | invalidIPv6
  | invalidDomain
  | invalidHostCharacter
deriving DecidableEq

def Fault.message : Fault → String
  | .noScheme => "relative URL without a base"
  | .bareBase => "relative URL with a cannot-be-a-base base"
  | .emptyHost => "empty host"
  | .invalidPort => "invalid port number"
  | .invalidIPv4 => "invalid IPv4 address"
  | .invalidIPv6 => "invalid IPv6 address"
  | .invalidDomain => "invalid international domain name"
  | .invalidHostCharacter => "invalid domain character"

inductive Manner
  /-- The schemes with an implied port. -/
  | strict
  | file
  | plain
deriving DecidableEq

def Manner.of (scheme : String) : Manner :=
  if scheme = "file" then .file
  else if (impliedPort? scheme).isSome then .strict
  else .plain

def Manner.isSlash (manner : Manner) (c : Char) : Bool :=
  c == '/' || (c == '\\' && manner != .plain)

def Manner.endsAuthority (manner : Manner) (c : Char) : Bool :=
  manner.isSlash c || c == '?' || c == '#'

def Manner.queryPart : Manner → Part
  | .plain => .query
  | _ => .strictQuery

/-! ## Scheme -/

/-- Tabs and line ends, which a URL may hold anywhere. -/
def isBreak (c : Char) : Bool := c == '\t' || c == '\n' || c == '\r'

def withoutBreaks (cs : List Char) : List Char := cs.filter (!isBreak ·)

def trimmed (cs : List Char) : List Char :=
  let isEdge := fun (c : Char) => decide (c.toNat ≤ 0x20)
  ((cs.dropWhile isEdge).reverse.dropWhile isEdge).reverse

def isSchemeChar (c : Char) : Bool := c.isAlphanum || c == '+' || c == '-' || c == '.'

def scheme? (cs : List Char) : Option (String × List Char) :=
  match cs.takeWhile isSchemeChar, cs.dropWhile isSchemeChar with
  | c :: name, ':' :: rest =>
      if c.isAlpha then some (String.ofList ((c :: name).map Char.toLower), rest) else none
  | _, _ => none

/-! ## Path -/

inductive Step
  | up
  | stay
  | down
deriving DecidableEq

/-- A dot may be written `%2e`. -/
def Step.of (segment : List Char) : Step :=
  match segment.map Char.toLower with
  | ['.'] | ['%', '2', 'e'] => .stay
  | ['.', '.'] | ['.', '%', '2', 'e'] | ['%', '2', 'e', '.'] | ['%', '2', 'e', '%', '2', 'e'] => .up
  | _ => .down

/-- A letter and a colon, or a bar in place of the colon. -/
def isDrive : List Char → Bool
  | [letter, sign] => letter.isAlpha && (sign == ':' || sign == '|')
  | _ => false

/-- Whether a segment is a drive, or one with a backslash after it. -/
def beginsWithDrive (segment : List Char) : Bool :=
  isDrive (segment.take 2) && (segment.drop 2).head?.all (· == '\\')

/-- `kept` without its nearest segment, unless that begins with a drive. -/
def shorten : List (List Char) → List (List Char)
  | [] => []
  | segment :: rest => if beginsWithDrive segment then segment :: rest else rest

structure Segment where
  text : List Char
  /-- A drive at its front and the text after it, where a break stands between them. -/
  parted : Option (List Char × List Char) := none

def Segment.ofBroken (cs : List Char) : Segment :=
  let parted :=
    match cs.dropWhile isBreak with
    | letter :: rest =>
        match rest.dropWhile isBreak with
        | ':' :: tab :: rest =>
            if letter.isAlpha && isBreak tab && !(withoutBreaks rest).isEmpty then
              some ([letter, ':'], withoutBreaks rest)
            else none
        | _ => none
    | [] => none
  { text := withoutBreaks cs, parted }

structure Course where
  /-- The segments that count so far, nearest first. -/
  kept : List (List Char) := []
  /-- Whether the path of a file began with a drive. -/
  onDrive : Bool := false

/-- Go down into `segment`.  A drive that begins the path of a file has its colon, and a
text that a break parts from it is a segment of its own. -/
def Course.down (manner : Manner) (course : Course) (segment : Segment) : Course :=
  match manner, course.kept, segment.parted, segment.text with
  | .file, [], some (drive, rest), _ => { course with kept := [escape .path rest, drive] }
  | .file, [], none, letter :: sign =>
      if isDrive (letter :: sign) then { kept := [[letter, ':']], onDrive := true }
      else { course with kept := [escape .path (letter :: sign)] }
  | _, kept, _, text => { course with kept := escape .path text :: kept }

/-- Follow `segments`.  Dots that end a path leave an empty segment. -/
def Course.follow (manner : Manner) (course : Course) : List Segment → Course
  | [] => course
  | segment :: rest =>
      let stand := fun (kept : List (List Char)) =>
        { course with kept := if rest.isEmpty then [] :: kept else kept }
      match Step.of segment.text with
      | .up => (stand (shorten course.kept)).follow manner rest
      | .stay => (stand course.kept).follow manner rest
      | .down => (course.down manner segment).follow manner rest

def Course.path (course : Course) : List (List Char) := course.kept.reverse

theorem follow_of_plain (course : Course) {segments : List (List Char)}
    (plain : ∀ segment ∈ segments, Step.of segment = .down ∧ escape .path segment = segment) :
    (course.follow .strict (segments.map (⟨·, none⟩))).path = course.path ++ segments := by
  induction segments generalizing course with
  | nil => simp [Course.follow]
  | cons segment rest ih =>
      obtain ⟨down, same⟩ := plain segment (by simp)
      have later := ih (course.down .strict ⟨segment, none⟩) fun s member => plain s (by simp [member])
      simp only [List.map_cons, Course.follow, down]
      rw [later]
      simp [Course.down, Course.path, same]

/-- `cs` between its slashes, one slash at its front dropped. -/
def between (manner : Manner) (cs : List Char) : List (List Char) :=
  let slashed := cs.map fun c => if manner.isSlash c then '/' else c
  Text.segments '/' (match slashed with | '/' :: rest => rest | other => other)

def readPath (manner : Manner) (cs : List Char) : List String :=
  (({} : Course).follow manner ((between manner cs).map (⟨·, none⟩))).path.map String.ofList

/-! ## Host -/

def readBracketed (cs : List Char) : Except Fault Host :=
  match cs.getLast?, IPv6.read? cs.dropLast with
  | some ']', some address => .ok (.ipv6 address)
  | _, _ => .error .invalidIPv6

def readDomain (cs : List Char) : Except Fault Host :=
  match Domain.ascii? (Text.Utf8.decode (unescape cs)) with
  | none => .error .invalidDomain
  | some [] => .error .emptyHost
  | some name =>
      if IPv4.claimedBy name then
        match IPv4.read? name with
        | some address => .ok (.ipv4 address)
        | none => .error .invalidIPv4
      else .ok (.domain (String.ofList name))

/-- Characters that the host of a plain scheme cannot hold. -/
def isBarred (c : Char) : Bool :=
  ['\x00', '\t', '\n', '\r', ' ', '#', '/', ':', '<', '>', '?', '@', '[', '\\', ']', '^',
    '|'].contains c

/-- The host of a plain scheme: any text, escaped. -/
def readName (cs : List Char) : Except Fault Host :=
  if cs.any isBarred then .error .invalidHostCharacter
  else .ok (.domain (String.ofList (escape .bare cs)))

def readHost (manner : Manner) : List Char → Except Fault Host
  | '[' :: cs => readBracketed cs
  | cs => if manner = .plain then readName cs else readDomain cs

/-! ## Authority -/

/-- The part of `cs` before the colon of a port, which is not in brackets. -/
def cutPort (bracketed : Bool) : List Char → List Char × List Char
  | [] => ([], [])
  | c :: cs =>
      if c == ':' && !bracketed then ([], c :: cs)
      else
        let cut := cutPort (c == '[' || (bracketed && c != ']')) cs
        (c :: cut.1, cut.2)

def cutCredentials (cs : List Char) : Option (List Char × List Char) :=
  match Text.cutFirst '@' cs.reverse with
  | some (after, before) => some (before.reverse, after.reverse)
  | none => none

/-- A port; none if it has no digits or the scheme implies it. -/
def readPort (scheme : String) (digits : List Char) : Except Fault (Option UInt16) :=
  if digits.isEmpty then .ok none
  else
    match digits? 10 digits with
    | some n =>
        if 65535 < n then .error .invalidPort
        else if impliedPort? scheme = some (UInt16.ofNat n) then .ok none
        else .ok (some (UInt16.ofNat n))
    | none => .error .invalidPort

def readCredentials (cs : List Char) : String × String :=
  let parts := (Text.cutFirst ':' cs).getD (cs, [])
  (String.ofList (escape .credentials parts.1), String.ofList (escape .credentials parts.2))

/-- The authority `cs`, where `rest` follows it; also the path that is still to be read. -/
def readAuthority (scheme : String) (manner : Manner) (cs rest : List Char) :
    Except Fault (Authority × List Char) := do
  let (username, password, place) ←
    match cutCredentials cs with
    | none => pure ("", "", cs)
    | some (before, after) =>
        if before.isEmpty && after.isEmpty && !rest.isEmpty then throw Fault.emptyHost
        let (username, password) := readCredentials before
        pure (username, password, after)
  let (name, colon) := cutPort false place
  if name.isEmpty && manner = .strict then throw Fault.emptyHost
  let host ← readHost manner name
  if name.isEmpty && !colon.isEmpty then throw Fault.emptyHost
  let afterColon := colon.drop 1
  let port ← readPort scheme (afterColon.takeWhile (· != '\\'))
  if name.isEmpty && !(username.isEmpty && password.isEmpty) then throw Fault.emptyHost
  pure ({ username, password, host, port }, afterColon.dropWhile (· != '\\') ++ rest)

/-! ## Query and fragment -/

/-- The part of a text before its query and fragment, and these. -/
structure Tail where
  front : List Char
  query : Option String
  fragment : Option String

def readTail (manner : Manner) (cs : List Char) : Tail :=
  let (body, fragment) :=
    match Text.cutFirst '#' cs with
    | some (body, fragment) => (body, some (String.ofList (escape .fragment fragment)))
    | none => (cs, none)
  match Text.cutFirst '?' body with
  | some (front, query) => ⟨front, some (String.ofList (escape manner.queryPart query)), fragment⟩
  | none => ⟨body, none, fragment⟩

/-! ## The three manners -/

def readHosted (scheme : String) (manner : Manner) (cs : List Char) : Except Fault Url := do
  let (authority, rest) ← readAuthority scheme manner
    (cs.takeWhile (!manner.endsAuthority ·)) (cs.dropWhile (!manner.endsAuthority ·))
  let tail := readTail manner rest
  let path := if manner = .plain && tail.front.isEmpty then [] else readPath manner tail.front
  pure { scheme, location := .hosted authority path, query := tail.query, fragment := tail.fragment }

def readUnhosted (scheme : String) (cs : List Char) : Url :=
  let tail := readTail .plain cs
  let location :=
    match tail.front with
    | '/' :: path => Location.rooted (readPath .plain ('/' :: path))
    | other => Location.bare (String.ofList (escape .bare other))
  { scheme, location, query := tail.query, fragment := tail.fragment }

/-- The host of a file, which counts as absent when it is `localhost`. -/
def readFileHost (cs : List Char) : Except Fault Host := do
  if cs.isEmpty then pure (.domain "")
  else
    let host ← readHost .file cs
    pure (if host = .domain "localhost" then .domain "" else host)

/-- The path of a file: no empty segments at its front, or one where there is no other. -/
def filedPath (course : Course) : List String :=
  let path := course.path.dropWhile List.isEmpty
  (if path.isEmpty then [[]] else path).map String.ofList

/-- A path that began with a drive has no host. -/
def filed (host : Host) (course : Course) : Location :=
  .hosted { host := if course.onDrive then .domain "" else host } (filedPath course)

/-- `cs` after its first `n` characters that are no breaks. -/
def dropUnbroken : Nat → List Char → List Char
  | 0, cs => cs
  | _ + 1, [] => []
  | n + 1, c :: cs => dropUnbroken (if isBreak c then n + 1 else n) cs

/-- The host of a file and its path, which has one more slash where the slashes of a host
stand before none. -/
def readFilePlace (cs : List Char) : Except Fault (Host × List Char) :=
  let slashes := (withoutBreaks cs).take 2
  if slashes.length = 2 && slashes.all (Manner.file.isSlash ·) then
    let after := dropUnbroken 2 cs
    let name := withoutBreaks (after.takeWhile (!Manner.file.endsAuthority ·))
    let rest := after.dropWhile (!Manner.file.endsAuthority ·)
    if isDrive name then .ok (.domain "", after)
    else (readFileHost name).map fun host =>
      (host, if host = .domain "" then '/' :: rest else rest)
  else .ok (.domain "", cs)

/-- A file; breaks still stand in `cs`. -/
def readFile (cs : List Char) : Except Fault Url := do
  let (host, rest) ← readFilePlace cs
  let front := (rest.dropWhile isBreak).takeWhile fun c => c != '?' && c != '#'
  let tail := readTail .file (withoutBreaks rest)
  let course := ({} : Course).follow .file ((between .file front).map Segment.ofBroken)
  pure { scheme := "file", location := filed host course, query := tail.query,
         fragment := tail.fragment }

def read (text : String) : Except Fault Url :=
  let whole := trimmed text.toList
  match scheme? (withoutBreaks whole) with
  | none => .error .noScheme
  | some (scheme, rest) =>
      match Manner.of scheme with
      | .strict => readHosted scheme .strict (rest.dropWhile Manner.strict.isSlash)
      | .file => readFile ((whole.dropWhile (· != ':')).drop 1)
      | .plain =>
          match rest with
          | '/' :: '/' :: hosted => readHosted scheme .plain hosted
          | other => .ok (readUnhosted scheme other)

end Tether.Url
