/-
# Tether.Proofs.Endpoints -- what the endpoints of a base are

The steps by which endpoints come about read the base again and again: its path when a slash is
added, all of it when a path is joined, its port when the scheme is exchanged.  By the laws of the
calls a web URL is in a form that all this leaves alone, so the endpoints are the base with another
path, and nothing goes wrong on the way that was not wrong with the scheme.

* `root_parts` -- the root of a base is the base with its directory for a path.
* `joined_root` -- what is joined to the root.
* `mount_root` -- the endpoints below the root.
* `endpoints_derived` -- which bases have endpoints, where these are, and what does not matter.
-/
import Tether.Endpoints
import Tether.Proofs.Url.Kit

set_option autoImplicit false

namespace Tether.Endpoints

open Url

/-! ## The directory of a base -/

theorem pathText_append (front back : List String) :
    pathText (front ++ back) = pathText front ++ pathText back := by
  simp [pathText, String.join_append]

theorem pathText_concat (path : List String) (segment : String) :
    pathText (path ++ [segment]) = pathText path ++ ("/" ++ segment) := by
  rw [pathText_append]
  simp [pathText]

/-- The text of a path ends in a slash when its last segment is empty. -/
theorem closed_iff {path : List String} (plain : PlainPath path) :
    (pathText path).toList.getLast? = some '/' ↔ path.getLast? = some "" := by
  obtain ⟨front, last, rfl⟩ := List.eq_nil_or_concat path |>.resolve_left plain.some_
  rw [List.concat_eq_append, List.getLast?_concat, pathText_concat]
  rw [List.concat_eq_append] at plain
  by_cases empty : last = ""
  · simp [empty]
  · obtain ⟨c, ends⟩ := Option.isSome_iff_exists.1
      (List.getLast?_isSome.2 (by simpa using empty : last.toList ≠ []))
    have inside : c ∈ last.toList := List.mem_of_getLast? ends
    have slash : c ≠ '/' := ((plain.plain last (by simp)).free inside).1
    rw [String.toList_append, String.toList_append, List.getLast?_append, List.getLast?_append, ends]
    simp [empty, slash]

/-- `path` with the slash that makes it a directory. -/
def directory (path : String) : String :=
  if path.toList.getLast? = some '/' then path else path ++ "/"

theorem directory_of_closed {path : String} (closed : path.toList.getLast? = some '/') :
    directory path = path := if_pos closed

theorem directory_of_open {path : String} (open_ : path.toList.getLast? ≠ some '/') :
    directory path = path ++ "/" := if_neg open_

/-- A directory is written as segments of which the last is empty. -/
theorem directory_plain {path : List String} (plain : PlainPath path) :
    ∃ front, PlainPath (front ++ [""]) ∧ directory (pathText path) = pathText (front ++ [""]) := by
  by_cases closed : path.getLast? = some ""
  · have whole : path.dropLast ++ [""] = path := List.dropLast_append_getLast? _ closed
    exact ⟨path.dropLast, whole.symm ▸ plain,
      by rw [directory_of_closed ((closed_iff plain).2 closed), whole]⟩
  · refine ⟨path, ⟨by simp, fun segment member => ?_⟩, ?_⟩
    · rcases List.mem_append.1 member with among | last
      · exact plain.plain segment among
      · rw [List.mem_singleton.1 last]
        exact plain_empty
    · rw [directory_of_open (mt (closed_iff plain).1 closed), pathText_concat]
      rfl

/-! ## The steps -/

/-- A scheme that is served, and the one of the persistent transport beside it. -/
inductive Serves : String → String → Prop
  | http : Serves "http" "ws"
  | https : Serves "https" "wss"

theorem served_or_not (scheme : String) :
    (∃ webSocket, Serves scheme webSocket) ∨
      webSocketScheme? scheme = none ∧ scheme ≠ "http" ∧ scheme ≠ "https" := by
  by_cases http : scheme = "http"
  · exact .inl ⟨"ws", http ▸ .http⟩
  · by_cases https : scheme = "https"
    · exact .inl ⟨"wss", https ▸ .https⟩
    · refine .inr ⟨?_, http, https⟩
      unfold webSocketScheme?
      split
      · exact absurd rfl http
      · exact absurd rfl https
      · rfl

namespace Serves

variable {scheme webSocket : String}

theorem known (serves : Serves scheme webSocket) : webSocketScheme? scheme = some webSocket := by
  cases serves <;> rfl

theorem web (serves : Serves scheme webSocket) :
    scheme ∈ webSchemes ∧ webSocket ∈ webSchemes := by
  cases serves <;> decide

/-- Both imply the same port. -/
theorem alike (serves : Serves scheme webSocket) : impliedPort? webSocket = impliedPort? scheme := by
  cases serves <;> rfl

end Serves

def rootParts (base : Parts) : Parts :=
  { base with path := directory base.path, query := none, fragment := none }

/-- `endpoint` is at `below` in the directory of `base`. -/
structure Mounts (base : Parts) (scheme below : String) (endpoint : Parts) : Prop where
  scheme : endpoint.scheme = scheme
  username : endpoint.username = base.username
  password : endpoint.password = base.password
  host : endpoint.host = base.host
  port : endpoint.effectivePort? = base.effectivePort?
  path : endpoint.path = directory base.path ++ below
  query : endpoint.query = none
  fragment : endpoint.fragment = none

section Steps

variable {U F : Type} {kit : UrlKit U F} (lawful : kit.Lawful) {base : U} {webSocket : String}
include lawful

/-- **The root of a base is the base with its directory for a path.** -/
theorem root_parts (arises : kit.Arises base) :
    kit.Arises (root kit base) ∧ kit.parts (root kit base) = rootParts (kit.parts base) := by
  have dropped : kit.Arises (plain kit base) := .dropFragment (.dropQuery arises)
  have parts : kit.parts (plain kit base) =
      { kit.parts base with query := none, fragment := none } := by
    rw [plain, lawful.dropFragment (.dropQuery arises), lawful.dropQuery arises]
  obtain ⟨path, plainPath, text⟩ := lawful.path arises
  unfold root
  rw [parts]
  simp only
  split
  · rename_i closed
    exact ⟨dropped, by rw [parts, rootParts, directory_of_closed closed]⟩
  · rename_i open_
    obtain ⟨front, plain', same⟩ := directory_plain plainPath
    rw [← text, directory_of_open open_] at same
    refine ⟨.setPath _ dropped, ?_⟩
    rw [same, lawful.setPath dropped plain', parts, rootParts, directory_of_open open_, same]

/-- **What is joined to the root.** -/
theorem joined_root (arises : kit.Arises base) (serves : Serves (kit.parts base).scheme webSocket)
    {below : List String} {reference : String} (is : Below below reference) :
    ∃ url, joined kit (root kit base) reference = .ok url ∧ kit.Arises url ∧
      kit.parts url =
        { rootParts (kit.parts base) with path := directory (kit.parts base).path ++ reference } := by
  obtain ⟨arises', parts⟩ := root_parts lawful arises
  obtain ⟨path, plainPath, text⟩ := lawful.path arises
  obtain ⟨front, plain', same⟩ := directory_plain plainPath
  rw [← text] at same
  cases joins : kit.join (root kit base) reference with
  | error fault =>
      rcases @UrlKit.Lawful.join_fails _ _ _ lawful _ below _ _ arises' joins with bare | other
      · cases bare.symm.trans (lawful.hosted arises').1
      · exact absurd is other
  | ok url =>
      have place : pathText (front ++ below) = directory (kit.parts base).path ++ reference := by
        rw [same, pathText_append, pathText_concat, ← is.text]
        simp [String.append_assoc]
      have made := lawful.join arises' plain' (by rw [parts, rootParts, same]) is joins
      rw [parts, place] at made
      have web : (kit.parts url).scheme ∈ webSchemes := by
        rw [made]
        exact serves.web.1
      exact ⟨url, by rw [joined, joins]; rfl, .join arises' joins web, made⟩

theorem mounts_joined (arises : kit.Arises base) (serves : Serves (kit.parts base).scheme webSocket)
    {below : List String} {reference : String} (is : Below below reference) :
    ∃ url, joined kit (root kit base) reference = .ok url ∧
      Mounts (kit.parts base) (kit.parts base).scheme reference (kit.parts url) := by
  obtain ⟨url, joins, -, parts⟩ := joined_root lawful arises serves is
  exact ⟨url, joins, parts ▸ ⟨rfl, rfl, rfl, rfl, rfl, rfl, rfl, rfl⟩⟩

/-- The scheme of a base is exchanged without a loss. -/
theorem mounts_reschemed (arises : kit.Arises base)
    (serves : Serves (kit.parts base).scheme webSocket) {below : List String} {reference : String}
    (is : Below below reference) :
    ∃ socket url, joined kit (root kit base) reference = .ok socket ∧
      reschemed kit socket webSocket = .ok url ∧
        Mounts (kit.parts base) webSocket reference (kit.parts url) := by
  obtain ⟨socket, joins, arises', parts⟩ := joined_root lawful arises serves is
  cases sets : kit.setScheme socket webSocket with
  | none => exact absurd serves.web.2 (lawful.setScheme_fails arises' sets)
  | some url =>
      have kept : (kit.parts base).port.filter (fun port => impliedPort? webSocket != some port) =
          (kit.parts base).port := by
        cases given : (kit.parts base).port with
        | none => rfl
        | some port => simp [Option.filter, serves.alike, lawful.port arises given]
      have made := lawful.setScheme arises' serves.web.2 sets
      rw [parts] at made
      simp only [rootParts, kept] at made
      refine ⟨socket, url, joins, by rw [reschemed, sets], made ▸ ?_⟩
      have port : ((kit.parts base).port <|> impliedPort? webSocket) =
          ((kit.parts base).port <|> impliedPort? (kit.parts base).scheme) := by rw [serves.alike]
      exact ⟨rfl, rfl, rfl, rfl, port, rfl, rfl, rfl⟩

end Steps

/-! ## Where the endpoints are -/

/-- Paths that are below another by inspection. -/
theorem below_of_check {below : List String} {reference : String}
    (check : (!below.isEmpty && below.all (fun segment =>
      segment.toList.all isInner && Step.of segment.toList = .down)) = true)
    (text : "/" ++ reference = pathText below) (open_ : below.head? ≠ some "")
    (colon : ':' ∉ reference.toList) : Below below reference := by
  rw [Bool.and_eq_true] at check
  refine ⟨⟨fun none => ?_, fun segment member => ?_⟩, text, open_, colon⟩
  · rw [none] at check
    cases check.1
  · have checked := List.all_eq_true.1 check.2 segment member
    rw [Bool.and_eq_true, decide_eq_true_eq] at checked
    exact ⟨List.all_eq_true.1 checked.1, checked.2⟩

theorem below_webSocket : Below ["lifeline", "ws"] "lifeline/ws" :=
  below_of_check (by decide) rfl (by decide) (by decide)

theorem below_send : Below ["lifeline", "ajax"] "lifeline/ajax" :=
  below_of_check (by decide) rfl (by decide) (by decide)

theorem below_poll : Below ["lifeline", "ajax", "poll"] "lifeline/ajax/poll" :=
  below_of_check (by decide) rfl (by decide) (by decide)

theorem below_reconnect : Below ["lifeline", "reconnect"] "lifeline/reconnect" :=
  below_of_check (by decide) rfl (by decide) (by decide)

/-- `closed` is `path` with the slash at its end that it misses. -/
def Closes (path closed : String) : Prop :=
  path.toList.getLast? ≠ some '/' ∧ closed = path ++ "/"

/-- The two differ in no more than query, fragment and one slash at the end of the path, which one
of them misses. -/
structure Alike (base other : Parts) : Prop where
  scheme : base.scheme = other.scheme
  username : base.username = other.username
  password : base.password = other.password
  host : base.host = other.host
  port : base.port = other.port
  path : base.path = other.path ∨ Closes base.path other.path ∨ Closes other.path base.path

theorem Alike.directory {base other : Parts} (alike : Alike base other) :
    directory base.path = directory other.path := by
  have closing {path closed : String} (closes : Closes path closed) :
      Endpoints.directory path = Endpoints.directory closed := by
    obtain ⟨open_, rfl⟩ := closes
    rw [directory_of_open open_, directory_of_closed (by simp)]
  rcases alike.path with same | closes | closes
  · rw [same]
  · exact closing closes
  · exact (closing closes).symm

section Derived

variable {U F : Type} {kit : UrlKit U F} {base : U} {webSocket : String}

/-- The steps for a scheme that is not served. -/
theorem derive_unserved (none : webSocketScheme? (kit.parts base).scheme = none) :
    derive kit base = .error (.refused (.unsupportedScheme (kit.parts base).scheme)) := by
  rw [derive, none]

variable (lawful : kit.Lawful)
include lawful

/-- The steps for a scheme that is served. -/
theorem derive_served (arises : kit.Arises base)
    (serves : Serves (kit.parts base).scheme webSocket) :
    derive kit base = mount kit webSocket (root kit base) := by
  obtain ⟨bare, host⟩ := lawful.hosted arises
  have placed : ¬(kit.isBare base || (kit.parts base).host.isNone) = true := by
    simpa [bare, ← Option.isSome_iff_ne_none] using host
  rw [derive, serves.known]
  exact if_neg placed

/-- **The endpoints below the root.** -/
theorem mount_root (arises : kit.Arises base)
    (serves : Serves (kit.parts base).scheme webSocket) :
    ∃ endpoints, mount kit webSocket (root kit base) = .ok endpoints ∧
      Mounts (kit.parts base) webSocket "lifeline/ws" (kit.parts endpoints.webSocket) ∧
      Mounts (kit.parts base) (kit.parts base).scheme "lifeline/ajax" (kit.parts endpoints.send) ∧
      Mounts (kit.parts base) (kit.parts base).scheme "lifeline/ajax/poll"
        (kit.parts endpoints.poll) ∧
      Mounts (kit.parts base) (kit.parts base).scheme "lifeline/reconnect"
        (kit.parts endpoints.reconnect) := by
  obtain ⟨socket, url, joins, sets, mounted⟩ :=
    mounts_reschemed lawful arises serves below_webSocket
  obtain ⟨send, joinsSend, sends⟩ := mounts_joined lawful arises serves below_send
  obtain ⟨poll, joinsPoll, polls⟩ := mounts_joined lawful arises serves below_poll
  obtain ⟨reconnect, joinsReconnect, reconnects⟩ :=
    mounts_joined lawful arises serves below_reconnect
  refine ⟨⟨url, send, poll, reconnect⟩, ?_, mounted, sends, polls, reconnects⟩
  simp only [mount, joins, sets, joinsSend, joinsPoll, joinsReconnect, bind, Except.bind]
  rfl

/-- Bases that are alike have one root. -/
theorem root_alike {other : U} (arises : kit.Arises base) (arises' : kit.Arises other)
    (alike : Alike (kit.parts base) (kit.parts other)) : root kit base = root kit other := by
  obtain ⟨rooted, parts⟩ := root_parts lawful arises
  obtain ⟨rooted', parts'⟩ := root_parts lawful arises'
  refine lawful.ext rooted rooted' ?_
  rw [parts, parts', rootParts, rootParts, alike.directory, alike.scheme, alike.username,
    alike.password, alike.host, alike.port]

end Derived

/-- **Which bases have endpoints, where these are, and what does not matter.** -/
theorem endpoints_derived {U F : Type} {kit : UrlKit U F} (lawful : kit.Lawful) {text : String}
    {base : U} (parsed : kit.parse text = .ok base) :
    ((∃ failure, derive kit base = .error failure) ↔
      (kit.parts base).scheme ≠ "http" ∧ (kit.parts base).scheme ≠ "https") ∧
    (∀ failure, derive kit base = .error failure →
      failure = .refused (.unsupportedScheme (kit.parts base).scheme)) ∧
    (∀ endpoints, derive kit base = .ok endpoints →
      (∃ webSocket, Serves (kit.parts base).scheme webSocket ∧
        Mounts (kit.parts base) webSocket "lifeline/ws" (kit.parts endpoints.webSocket)) ∧
      Mounts (kit.parts base) (kit.parts base).scheme "lifeline/ajax" (kit.parts endpoints.send) ∧
      Mounts (kit.parts base) (kit.parts base).scheme "lifeline/ajax/poll"
        (kit.parts endpoints.poll) ∧
      Mounts (kit.parts base) (kit.parts base).scheme "lifeline/reconnect"
        (kit.parts endpoints.reconnect)) ∧
    (∀ text other, kit.parse text = .ok other → Alike (kit.parts base) (kit.parts other) →
      derive kit base = derive kit other) := by
  -- The scheme alone decides whether there are endpoints, and the four statements follow it.
  rcases served_or_not (kit.parts base).scheme with ⟨webSocket, serves⟩ | ⟨none, http, https⟩
  · have arises : kit.Arises base := .parse parsed serves.web.1
    obtain ⟨endpoints, mounts, socket, send, poll, reconnect⟩ := mount_root lawful arises serves
    have derived := (derive_served lawful arises serves).trans mounts
    refine ⟨?_, ?_, ?_, ?_⟩
    · refine iff_of_false (fun ⟨failure, failed⟩ => ?_) fun other => ?_
      · cases derived.symm.trans failed
      · generalize (kit.parts base).scheme = scheme at serves other
        cases serves
        · exact other.1 rfl
        · exact other.2 rfl
    · intro failure failed
      cases derived.symm.trans failed
    · intro found success
      obtain rfl := Except.ok.inj (derived.symm.trans success)
      exact ⟨⟨webSocket, serves, socket⟩, send, poll, reconnect⟩
    · intro text other parsed' alike
      have serves' : Serves (kit.parts other).scheme webSocket := alike.scheme ▸ serves
      have arises' : kit.Arises other := .parse parsed' serves'.web.1
      rw [derive_served lawful arises serves, derive_served lawful arises' serves',
        root_alike lawful arises arises' alike]
  · have derived := derive_unserved none
    refine ⟨iff_of_true ⟨_, derived⟩ ⟨http, https⟩, ?_, ?_, ?_⟩
    · intro failure failed
      exact (Except.error.inj (derived.symm.trans failed)).symm
    · intro endpoints success
      cases derived.symm.trans success
    · intro text other _ alike
      rw [derived, derive_unserved (alike.scheme ▸ none), alike.scheme]

/-- A base with all its parts, and the directory that it means in another spelling. -/
def app : Url where
  scheme := "http"
  location := .hosted { username := "me", host := .ipv4 0x7F000001, port := some 8080 } ["app"]
  query := some "x=1"
  fragment := some "top"

def appDirectory : Url where
  scheme := "http"
  location := .hosted { username := "me", host := .ipv4 0x7F000001, port := some 8080 } ["app", ""]

theorem app_endpoints_alike :
    kit.Lawful ∧ kit.parse "http://me@127.0.0.1:8080/app?x=1#top" = .ok app ∧
      kit.parse "HTTP:/\\me@127.1:8080/a/%2e./app/" = .ok appDirectory ∧
        Alike app.parts appDirectory.parts ∧ derive kit app = derive kit appDirectory := by
  have parsed : kit.parse "http://me@127.0.0.1:8080/app?x=1#top" = .ok app := by decide +kernel
  have parsed' : kit.parse "HTTP:/\\me@127.1:8080/a/%2e./app/" = .ok appDirectory := by
    decide +kernel
  have alike : Alike app.parts appDirectory.parts :=
    ⟨rfl, rfl, rfl, rfl, rfl, .inr (.inl ⟨by decide, rfl⟩)⟩
  exact ⟨kit_lawful, parsed, parsed', alike,
    (endpoints_derived kit_lawful parsed).2.2.2 _ _ parsed' alike⟩

end Tether.Endpoints
