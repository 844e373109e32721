import LocaleGen.Fault
import LocaleGen.Unicode.Basic

/-!
# Credentials

The input of a pass is a JSON object with the project id and the key of the service, both texts that
are not blank. They are kept as they stand. Of two that are missing the project id is reported.
-/

namespace LocaleGen

variable [NestingLimits]

/-- What identifies a project to the service. -/
structure Credentials where
  projectId : Text
  apiKey : Text
  deriving DecidableEq

namespace Credentials

def projectIdField : Text := "nstack_project_id"

def apiKeyField : Text := "nstack_api_key"

/-- The text of a field, unless it is missing, no text or blank. -/
def field (v : Json) (name : Text) : Except Cause Text :=
  match v.member? name with
  | some (.text t) => if t.isBlank then .error (.credentialNotSet name) else .ok t
  | _ => .error (.credentialNotSet name)

def ofJson (v : Json) : Except Cause Credentials := do
  match v.asObject? with
  | none => .error .credentialsNotObject
  | some _ =>
    let projectId ← field v projectIdField
    let apiKey ← field v apiKeyField
    .ok ⟨projectId, apiKey⟩

def ofContent (content : Text) : Except Fault Credentials :=
  match Json.read content with
  | .error (.malformed problem place) =>
    .error (.cause (.credentialsNotJson (Json.describe problem place)))
  | .error e => .error e.fault
  | .ok v => (ofJson v).mapError .cause

end Credentials

end LocaleGen
