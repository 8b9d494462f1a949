/-
# Tether.Endpoints -- every URL a session talks to, from one base

    https://example.com/app/
      wss://example.com/app/lifeline/ws            the persistent transport
      https://example.com/app/lifeline/ajax        opening and sending
      https://example.com/app/lifeline/ajax/poll   polls
      https://example.com/app/lifeline/reconnect   fresh credentials

The path of the base is a directory whether or not it ends in a slash; its query and fragment play no
part.  The endpoints come about by editing the base: query and fragment are dropped, the path is
closed with a slash, each endpoint's path is joined to that, and the persistent transport's gets its
own scheme.  Every one of these steps is a call of a `UrlKit`, and some of them may fail.

* `derive` -- the steps, by the calls of any kit.
* `derive_joins` -- by the calls of `Url.kit` every join succeeds.
* `derive_kit` -- so the steps by these calls are `ofBase`, which fails for a fault of the base only.
-/
import Tether.Text.Quoted
import Tether.Url.Edit

set_option autoImplicit false

namespace Tether

structure Endpoints (U : Type := Url) where
  webSocket : U
  send : U
  poll : U
  reconnect : U
deriving DecidableEq

namespace Endpoints

/-- What is wrong with a base that has no endpoints. -/
inductive Fault
  | unsupportedScheme (scheme : String)
  | notABase (url : String)
deriving DecidableEq

def Fault.message : Fault → String
  | .unsupportedScheme scheme => "unsupported base URL scheme " ++ Text.quoted scheme
  | .notABase url => "base URL " ++ Text.quoted url ++ " cannot be used as a base"

inductive Failure (F : Type)
  | refused (fault : Fault)
  /-- A path could not be joined to the base. -/
  | unjoined (fault : F)
deriving DecidableEq

/-- The scheme of the persistent transport beside one of polling. -/
def webSocketScheme? : String → Option String
  | "http" => some "ws"
  | "https" => some "wss"
  | _ => none

section Derivation

variable {U F : Type} (kit : UrlKit U F)

def plain (base : U) : U := kit.dropFragment (kit.dropQuery base)

/-- `base` without query and fragment, its path closed with a slash. -/
def root (base : U) : U :=
  if (kit.parts (plain kit base)).path.toList.getLast? = some '/' then plain kit base
  else kit.setPath (plain kit base) ((kit.parts (plain kit base)).path ++ "/")

def joined (root : U) (below : String) : Except (Failure F) U :=
  (kit.join root below).mapError .unjoined

def reschemed (url : U) (scheme : String) : Except (Failure F) U :=
  match kit.setScheme url scheme with
  | some url => .ok url
  | none => .error (.refused (.unsupportedScheme scheme))

/-- The endpoints below `root`, the persistent transport's under a scheme of its own. -/
def mount (scheme : String) (root : U) : Except (Failure F) (Endpoints U) := do
  let socket ← joined kit root "lifeline/ws"
  let webSocket ← reschemed kit socket scheme
  let send ← joined kit root "lifeline/ajax"
  let poll ← joined kit root "lifeline/ajax/poll"
  let reconnect ← joined kit root "lifeline/reconnect"
  pure { webSocket, send, poll, reconnect }

def derive (base : U) : Except (Failure F) (Endpoints U) :=
  match webSocketScheme? (kit.parts base).scheme with
  | none => .error (.refused (.unsupportedScheme (kit.parts base).scheme))
  | some scheme =>
      if kit.isBare base || (kit.parts base).host.isNone then
        .error (.refused (.notABase (kit.text base)))
      else mount kit scheme (root kit base)

end Derivation

def references : List String :=
  ["lifeline/ws", "lifeline/ajax", "lifeline/ajax/poll", "lifeline/reconnect"]

section Joins

variable {U F : Type} {kit : UrlKit U F} {base : U}

theorem joined_error {root : U} {below : String} {failure : Failure F}
    (failed : joined kit root below = .error failure) :
    ∃ fault, failure = .unjoined fault ∧ kit.join root below = .error fault := by
  unfold joined at failed
  cases join : kit.join root below with
  | ok url =>
      rw [join] at failed
      cases failed
  | error fault =>
      rw [join] at failed
      exact ⟨fault, (Except.error.inj failed).symm, rfl⟩

theorem reschemed_error {url : U} {scheme : String} {failure : Failure F}
    (failed : reschemed kit url scheme = .error failure) :
    failure = .refused (.unsupportedScheme scheme) := by
  unfold reschemed at failed
  split at failed
  · cases failed
  · exact (Except.error.inj failed).symm

theorem unjoined_of_mount {scheme : String} {root : U} {fault : F}
    (failed : mount kit scheme root = .error (.unjoined fault)) :
    ∃ below ∈ references, kit.join root below = .error fault := by
  have failing {below : String} {failure : Failure F}
      (stops : joined kit root below = .error failure) (member : below ∈ references)
      (same : (.error failure : Except (Failure F) (Endpoints U)) = .error (.unjoined fault)) :
      ∃ below ∈ references, kit.join root below = .error fault := by
    obtain ⟨found, rfl, join⟩ := joined_error stops
    cases same
    exact ⟨below, member, join⟩
  simp only [mount, bind, Except.bind, pure, Except.pure] at failed
  repeat' split at failed
  · exact failing ‹_› (by simp [references]) failed
  · cases reschemed_error ‹_›
    cases failed
  · exact failing ‹_› (by simp [references]) failed
  · exact failing ‹_› (by simp [references]) failed
  · exact failing ‹_› (by simp [references]) failed
  · cases failed

/-- Where a join may fail: below the root of a base that is served and has a place. -/
theorem unjoined_of_derive {fault : F} (failed : derive kit base = .error (.unjoined fault)) :
    (∃ scheme, webSocketScheme? (kit.parts base).scheme = some scheme) ∧ kit.isBare base = false ∧
      ∃ below ∈ references, kit.join (root kit base) below = .error fault := by
  unfold derive at failed
  split at failed
  · cases failed
  · rename_i scheme served
    split at failed
    · cases failed
    · rename_i place
      exact ⟨⟨scheme, served⟩, (Bool.or_eq_false_iff.1 (Bool.eq_false_iff.2 place)).1,
        unjoined_of_mount failed⟩

end Joins

theorem strict_of_served {scheme webSocket : String}
    (served : webSocketScheme? scheme = some webSocket) : Url.Manner.of scheme = .strict := by
  unfold webSocketScheme? at served
  split at served
  · rfl
  · rfl
  · cases served

theorem root_scheme (base : Url) : (root Url.kit base).scheme = base.scheme := by
  unfold root
  split <;> rfl

theorem root_isBare (base : Url) : (root Url.kit base).isBare = base.isBare := by
  unfold root
  split
  · rfl
  · simp only [Url.kit, plain, Url.setPath, Url.isBare]
    cases base.location <;> rfl

/-- **By the calls of `Url.kit` every join succeeds.** -/
theorem derive_joins (base : Url) (fault : Url.Fault) :
    derive Url.kit base ≠ .error (.unjoined fault) := by
  intro failed
  obtain ⟨⟨scheme, served⟩, place, below, member, join⟩ := unjoined_of_derive failed
  have strict : Url.Manner.of (root Url.kit base).scheme = .strict :=
    (root_scheme base).symm ▸ strict_of_served served
  have joins := fun relative first rest only slash =>
    @Url.join_path _ below ((root_isBare base).trans place) relative first rest (strict ▸ only)
      (strict ▸ slash)
  simp only [references, List.mem_cons, List.not_mem_nil, or_false] at member
  rcases member with rfl | rfl | rfl | rfl
  all_goals cases (joins (by decide) _ _ rfl (by decide)).symm.trans join

/-- The endpoints under `base`. -/
def ofBase (base : Url) : Except Fault Endpoints :=
  match derived : derive Url.kit base with
  | .ok endpoints => .ok endpoints
  | .error (.refused fault) => .error fault
  | .error (.unjoined fault) => absurd derived (derive_joins base fault)

theorem derive_kit (base : Url) : derive Url.kit base = (ofBase base).mapError .refused := by
  unfold ofBase
  split
  · assumption
  · assumption
  · exact absurd ‹_› (derive_joins base _)

end Endpoints

end Tether
