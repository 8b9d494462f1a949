/-
# Tether.Proofs.Client -- configurations in files

A client's configuration is read from its base URL and any of its other keys, in any order, among
whatever else the object holds; the tuning of its session is an object of the same kind inside it.
What is given counts, and the rest is as for a new client of that base.  So what is written of a
configuration is read as that configuration, if its base is read from its own text, and reading and
writing again changes nothing.  All of it holds whatever the calls for JSON and for URLs are, as long
as they keep their laws.

* `SessionConfig.Spelled`, `ClientConfig.Spelled` -- the texts of what a file gives for a key.
* `files_kept` -- files, defaults, and what is written and read again.
-/
import Tether.Client.Stored
import Tether.Proofs.Json.Codec
import Tether.Proofs.Json.Declared

set_option autoImplicit false

namespace Tether

open Json (Declared Holds IsObject IsValue boolText naturalText)
open Json.Declared (Describes overlay)
open JsonKit (Quotes)

variable {U F : Type} {kit : JsonKit U} {urls : UrlKit U F} {takes : kit.Taking}

namespace SessionConfig

/-- Every key of a tuning has a number. -/
def Spelled : (key : Key) → key.Value → List Char → Prop
  | .retryBudget, n, cs => cs = naturalText n.toNat
  | .retryDelay, n, cs => cs = naturalText n.toNat
  | .settleDelay, n, cs => cs = naturalText n.toNat
  | .silenceTimeout, n, cs => cs = naturalText n.toNat

section

variable (lawful : kit.Lawful urls takes)

include lawful

theorem takes_spelled {key : Key} {value : key.Value} {cs : List Char}
    (spelled : Spelled key value cs) : takes _ ((declared kit).codec key) cs value := by
  cases key with
  | retryBudget => exact spelled ▸ lawful.takes_uint32 value
  | retryDelay | settleDelay | silenceTimeout => exact spelled ▸ lawful.takes_uint64 value

theorem takes_given {given : (declared kit).Slots} {entries : List Json.Entry} {cs : List Char}
    (describes : Describes (declared kit) Spelled given entries) (object : IsObject entries cs) :
    takes _ (kit.record (declared kit)) cs (overlay given {}) :=
  Declared.takes_overlay lawful describes (takes_spelled lawful) {} (fun _ _ => rfl) object

theorem kept (config : SessionConfig) : kit.Kept takes (kit.record (declared kit)) config :=
  Declared.kept lawful fun
    | .retryBudget => lawful.kept_uint32 _
    | .retryDelay => lawful.kept_uint64 _
    | .settleDelay => lawful.kept_uint64 _
    | .silenceTimeout => lawful.kept_uint64 _

end

end SessionConfig

namespace ClientConfig

/-- A client of a base, with the defaults for everything else. -/
def new (baseUrl : U) : ClientConfig U := { baseUrl }

/-- The texts of what a file gives for a key. -/
def Spelled (kit : JsonKit U) (urls : UrlKit U F) : (key : Key) → key.Value U → List Char → Prop
  | .baseUrl, url, cs => ∃ text, Quotes text cs ∧ urls.parse text = .ok url
  | .session, tuning, cs => ∃ given entries, IsObject entries cs ∧
      Describes (SessionConfig.declared kit) SessionConfig.Spelled given entries ∧
        tuning = overlay given {}
  | .persistent, b, cs => cs = boolText b
  | .connectTimeout, n, cs => cs = naturalText n.toNat
  | .maxMessageSize, n, cs => cs = naturalText n.toNat
  | .pollTimeout, n, cs => cs = naturalText n.toNat
  | .sendTimeout, n, cs => cs = naturalText n.toNat
  | .reconnectTimeout, n, cs => cs = naturalText n.toNat

section

variable (lawful : kit.Lawful urls takes)

include lawful

theorem takes_spelled {key : Key} {value : key.Value U} {cs : List Char}
    (spelled : Spelled kit urls key value cs) : takes _ ((declared kit).codec key) cs value := by
  cases key with
  | baseUrl =>
      obtain ⟨text, quotes, parsed⟩ := spelled
      exact lawful.takes_url quotes parsed
  | session =>
      obtain ⟨given, entries, object, describes, rfl⟩ := spelled
      exact SessionConfig.takes_given lawful describes object
  | persistent => exact spelled ▸ lawful.takes_bool value
  | connectTimeout | maxMessageSize | pollTimeout | sendTimeout | reconnectTimeout =>
      exact spelled ▸ lawful.takes_uint64 value

theorem takes_given {given : (declared kit).Slots} {url : U} {entries : List Json.Entry}
    {cs : List Char}
    (based : given Key.baseUrl = some url)
    (describes : Describes (declared kit) (Spelled kit urls) given entries)
    (object : IsObject entries cs) :
    takes _ (kit.record (declared kit)) cs (overlay given (new url)) := by
  refine Declared.takes_overlay lawful describes (takes_spelled lawful) (new url)
    (fun key missing => ?_) object
  cases key with
  | baseUrl => cases based.symm.trans missing
  | session | persistent | connectTimeout | maxMessageSize | pollTimeout | sendTimeout
  | reconnectTimeout => rfl

theorem kept {config : ClientConfig U}
    (again : urls.parse (urls.text config.baseUrl) = .ok config.baseUrl) :
    kit.Kept takes (kit.record (declared kit)) config :=
  Declared.kept lawful fun
    | .baseUrl => lawful.kept_url again
    | .session => config.session.kept lawful
    | .persistent => lawful.kept_bool _
    | .connectTimeout => lawful.kept_uint64 _
    | .maxMessageSize => lawful.kept_uint64 _
    | .pollTimeout => lawful.kept_uint64 _
    | .sendTimeout => lawful.kept_uint64 _
    | .reconnectTimeout => lawful.kept_uint64 _

/-- **Files, defaults, and what is written and read again.** -/
theorem files_kept :
    (∀ (given : (declared kit).Slots) (url : U) (entries : List Json.Entry) (text : String),
      given Key.baseUrl = some url → Describes (declared kit) (Spelled kit urls) given entries →
        Holds text entries → parse kit text = .ok (overlay given (new url))) ∧
    (∀ (given : (SessionConfig.declared kit).Slots) (entries : List Json.Entry) (text : String),
      Describes (SessionConfig.declared kit) SessionConfig.Spelled given entries →
        Holds text entries → SessionConfig.parse kit text = .ok (overlay given {})) ∧
    (∀ config : ClientConfig U, urls.parse (urls.text config.baseUrl) = .ok config.baseUrl →
      parse kit (print kit config) = .ok config) ∧
    (∀ config : SessionConfig, SessionConfig.parse kit (config.print kit) = .ok config) ∧
    (∀ text again : String, (parse kit text).map (print kit) = .ok again →
      (∀ config, parse kit text = .ok config →
        urls.parse (urls.text config.baseUrl) = .ok config.baseUrl) →
          (parse kit again).map (print kit) = .ok again) ∧
    (∀ text again : String,
      (SessionConfig.parse kit text).map (SessionConfig.print kit) = .ok again →
        (SessionConfig.parse kit again).map (SessionConfig.print kit) = .ok again) := by
  refine ⟨fun given url entries text based describes held => ?_,
    fun given entries text describes held => ?_, fun config again => ?_, fun config => ?_,
    fun text again once same => ?_, fun text again once => ?_⟩
  · exact lawful.read_held held fun object => takes_given lawful based describes object
  · exact lawful.read_held held fun object => SessionConfig.takes_given lawful describes object
  · exact lawful.read_written (kept lawful again)
  · exact lawful.read_written (config.kept lawful)
  · exact JsonKit.restored_again once fun config read =>
      lawful.read_written (kept lawful (same config read))
  · exact JsonKit.restored_again once fun config _ => lawful.read_written (config.kept lawful)

end

/-- A file with a key of no meaning, a base whose slashes are escaped, and one key of the tuning. -/
def sample : String :=
  "\x7b \"x\": [1.5e3, null],\n \"base_url\": \"http:\\/\\/[::1]/\", \"session\": \x7b\"retry_budget\":5\x7d \x7d\n"

def sampleBase : Url where
  scheme := "http"
  location := .hosted { host := .ipv6 [0, 0, 0, 0, 0, 0, 0, 1] } [""]

def sampleGiven : (declared (Json.kit Url.kit)).Slots
  | .baseUrl => some sampleBase
  | .session => some { retryBudget := 5 }
  | _ => none

def sampleEntries : List Json.Entry :=
  [⟨"x", "[1.5e3, null]".toList⟩, ⟨"base_url", "\"http:\\/\\/[::1]/\"".toList⟩,
    ⟨"session", "\x7b\"retry_budget\":5\x7d".toList⟩]

theorem sample_session :
    Spelled (Json.kit Url.kit) Url.kit .session { retryBudget := 5 }
      "\x7b\"retry_budget\":5\x7d".toList := by
  have object : IsObject [⟨"retry_budget", naturalText 5⟩] "\x7b\"retry_budget\":5\x7d".toList :=
    Json.isObject_compact [("retry_budget", .ofNat 5)]
  let given : (SessionConfig.declared (Json.kit Url.kit)).Slots
    | .retryBudget => some (5 : UInt32)
    | _ => none
  refine ⟨given, _, object, ⟨fun entry member key same => ?_, fun entry member other => ?_,
    fun key => by cases key <;> decide, fun key there => ?_⟩, rfl⟩
  · rw [List.mem_singleton.1 member] at same ⊢
    cases key with
    | retryBudget => exact ⟨(5 : UInt32), rfl, rfl⟩
    | retryDelay | settleDelay | silenceTimeout => exact absurd same (by decide)
  · rw [List.mem_singleton.1 member] at other
    exact absurd rfl (other .retryBudget)
  · cases key with
    | retryBudget => decide
    | retryDelay | settleDelay | silenceTimeout => exact absurd rfl there

theorem sample_describes :
    Describes (declared (Json.kit Url.kit)) (Spelled (Json.kit Url.kit) Url.kit) sampleGiven
      sampleEntries where
  known := by
    have spells : Json.Text.Spells "http://[::1]/".toList "http:\\/\\/[::1]/".toList :=
      (Json.Text.spells_write "http:".toList).append
        (.short rfl (.short rfl (Json.Text.spells_write "[::1]/".toList)))
    intro entry member key same
    simp only [sampleEntries, List.mem_cons, List.not_mem_nil, or_false] at member
    rcases member with rfl | rfl | rfl
    · cases key <;> exact absurd same (by decide)
    · obtain rfl : key = Key.baseUrl := (declared (Json.kit Url.kit)).name_injective same
      exact ⟨sampleBase, rfl, "http://[::1]/", .mk spells, by decide +kernel⟩
    · obtain rfl : key = Key.session := (declared (Json.kit Url.kit)).name_injective same
      exact ⟨_, rfl, sample_session⟩
  unknown := by
    have blank : Json.Blanks [' '] := by simp [Json.Blanks, Json.isBlank]
    have number : Json.Number.IsNumber "1.5e3".toList :=
      @Json.Number.IsNumber.mk [] ['1'] ['.', '5'] ['e', '3'] (.inl rfl)
        (.digits (by decide) (by simp [Json.Number.IsDigits]))
        (.some (by simp [Json.Number.IsDigits]))
        (.some (.inl rfl) (.inl rfl) (by simp [Json.Number.IsDigits]))
    have array : IsValue "[1.5e3, null]".toList :=
      @Json.Grammar.full .array _ (.more (.element Json.blanks_nil (.number number) Json.blanks_nil)
        (.last (.element blank .null Json.blanks_nil)))
    intro entry member other
    simp only [sampleEntries, List.mem_cons, List.not_mem_nil, or_false] at member
    rcases member with rfl | rfl | rfl
    · exact array
    · exact absurd rfl (other Key.baseUrl)
    · exact absurd rfl (other Key.session)
  once := fun key => by cases key <;> decide
  all := fun key there => by
    cases key with
    | baseUrl | session => decide
    | persistent | connectTimeout | maxMessageSize | pollTimeout | sendTimeout | reconnectTimeout =>
        exact absurd rfl there

theorem sample_holds : Holds sample sampleEntries := by
  have blank : Json.Blanks [' '] := by simp [Json.Blanks, Json.isBlank]
  have line : Json.Blanks ['\n', ' '] := by simp [Json.Blanks, Json.isBlank]
  have last : Json.Blanks ['\n'] := by simp [Json.Blanks, Json.isBlank]
  have written : ∀ {after : List Char} (entry : Json.Entry), Json.Blanks after →
      entry.Written ('"' :: (Json.Text.writeBody entry.name.toList ++ '"' :: ([] ++ ':' ::
        ([' '] ++ (entry.value ++ after))))) :=
    fun entry back => .mk (Json.Text.spells_write _) Json.blanks_nil blank back
  refine ⟨[], _, ['\n'], Json.blanks_nil, last, .full (.more blank (written _ Json.blanks_nil)
    (.more line (written _ Json.blanks_nil) (.last blank (written _ blank)))), ?_⟩
  decide

theorem sample_read :
    Describes (declared (Json.kit Url.kit)) (Spelled (Json.kit Url.kit) Url.kit) sampleGiven
        sampleEntries ∧
      Holds sample sampleEntries ∧
        ofJson sample = .ok { new sampleBase with session := { retryBudget := 5 } } :=
  ⟨sample_describes, sample_holds,
    (files_kept (Json.kit_lawful Url.kit)).1 _ _ _ _ rfl sample_describes sample_holds⟩

end ClientConfig

end Tether
