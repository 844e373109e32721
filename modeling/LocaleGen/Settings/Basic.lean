import LocaleGen.Decoding.Object
import LocaleGen.Decoding.Scalar
import LocaleGen.Dialect.Target
import LocaleGen.Unicode.Case

/-!
# Settings

What the settings file may say: the target, the name of the inputs that trigger a pass, how the
service is reached, and where the build log goes. `Settings.decode` accepts structured data with any
of these; what is missing has a default, and what is not known is passed over. `Settings.toJson`
writes settings in the form that `decode` reads.
-/

namespace LocaleGen

open Decoding

/-- How the service is reached. -/
structure ApiSettings where
  baseUrl : Text
  /-- Seconds to wait for a response. -/
  timeout : Binary64
  concurrentFetch : Bool
  deriving DecidableEq

/-- What is reported where. -/
structure LoggingSettings where
  level : Text
  /-- Where the build log goes; there is none if this is empty. -/
  directory : Text
  deriving DecidableEq

structure Settings where
  target : Target
  /-- The base name of the inputs that a pass is run for. -/
  trigger : Text
  api : ApiSettings
  logging : LoggingSettings
  deriving DecidableEq

/-! ## Defaults -/

def ApiSettings.default : ApiSettings := ⟨"https://nstack.io", .ofInt 30, true⟩

def LoggingSettings.default : LoggingSettings := ⟨"INFO", []⟩

def Settings.default : Settings := ⟨.dart, "nstack.json", .default, .default⟩

instance : Inhabited Settings := ⟨Settings.default⟩

/-! ## What values are allowed -/

def checkedText {α : Type} (check : Text → Except Text α) (v : Json) : Except Issue α :=
  match text v with
  | .ok t => (check t).mapError .rejected
  | .error issue => .error issue

namespace Settings

def checkTarget (t : Text) : Except Text Target :=
  match Target.named t with
  | .ok target => .ok target
  | .error _ => .error ("target must be dart/python, got '" ++ t ++ "'")

def jsonExtension : Text := ".json"

def checkTrigger (t : Text) : Except Text Text :=
  if t.isBlank then .error "trigger must not be blank"
  else if !jsonExtension.isSuffixOf t then
    .error ("trigger must name a .json input, got '" ++ t ++ "'")
  else .ok t

def urlStarts : List Text := Text.words ["http://", "https://"]

def checkBaseUrl (t : Text) : Except Text Text :=
  if urlStarts.any fun start => start.isPrefixOf t then .ok (t.trimEnd (· = CodePoint.ofChar '/'))
  else .error ("base_url must be an http(s) URL, got '" ++ t ++ "'")

def levels : List Text :=
  Text.words ["CRITICAL", "FATAL", "ERROR", "WARN", "WARNING", "INFO", "DEBUG", "NOTSET"]

def checkLevel (t : Text) : Except Text Text :=
  if t.upper ∈ levels then .ok t.upper else .error ("unknown log level '" ++ t ++ "'")

/-- A number of seconds above zero; one that is no number passes too. -/
def timeout (v : Json) : Except Issue Binary64 :=
  match number v with
  | .ok x =>
    if x.isNonpositive then .error (.rejected ("timeout must be positive, got " ++ x.render))
    else .ok x
  | .error issue => .error issue

end Settings

/-! ## Decoding -/

def ApiSettings.decode (v : Json) : Decoded ApiSettings := do
  let members ← object "ApiConfig" v
  let d := ApiSettings.default
  (.ok ApiSettings.mk : Decoded _)
    |> andThen (optional (scalar (checkedText Settings.checkBaseUrl)) members "base_url" d.baseUrl)
    |> andThen (optional (scalar Settings.timeout) members "timeout" d.timeout)
    |> andThen (optional (scalar truth) members "concurrent_fetch" d.concurrentFetch)

def LoggingSettings.decode (v : Json) : Decoded LoggingSettings := do
  let members ← object "LoggingConfig" v
  let d := LoggingSettings.default
  (.ok LoggingSettings.mk : Decoded _)
    |> andThen (optional (scalar (checkedText Settings.checkLevel)) members "level" d.level)
    |> andThen (optional (scalar text) members "directory" d.directory)

namespace Settings

def decode (members : List (Text × Json)) : Decoded Settings :=
  let d := Settings.default
  (.ok Settings.mk : Decoded _)
    |> andThen (optional (scalar (checkedText checkTarget)) members "target" d.target)
    |> andThen (optional (scalar (checkedText checkTrigger)) members "trigger" d.trigger)
    |> andThen (optional (nested ApiSettings.decode) members "api" d.api)
    |> andThen (optional (nested LoggingSettings.decode) members "logging" d.logging)

def members (s : Settings) : List (Text × Json) :=
  [("target", .text s.target.name), ("trigger", .text s.trigger),
   ("api", .record [("base_url", .text s.api.baseUrl), ("timeout", .float s.api.timeout),
     ("concurrent_fetch", .bool s.api.concurrentFetch)]),
   ("logging", .record [("level", .text s.logging.level), ("directory", .text s.logging.directory)])]

def toJson (s : Settings) : Json := .object s.members

end Settings

end LocaleGen
