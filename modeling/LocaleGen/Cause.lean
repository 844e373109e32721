import LocaleGen.Failure

/-!
# Causes

Everything the generator itself refuses, one constructor per cause. `Cause.kind`, `Cause.message`
and `Cause.context` are the only places where a cause gets its words; `Cause.failure` is the report
of it.
-/

namespace LocaleGen

/-- Why the generator refuses its input. -/
inductive Cause where
  | emptySectionKey
  | emptyTypeName
  | emptyPhraseKey
  | notIdentifier (key name : Text)
  | typeCollision (first key typeName : Text)
  /-- Two phrase keys of a section lead to one accessor. -/
  | memberCollision (sectionKey key member : Text)
  /-- A character survives escaping that no literal can hold. -/
  | unembeddable (c : CodePoint) (position : Nat)
  /-- A literal does not evaluate to what it was made from. -/
  | literalMismatch (literal : Text)
  | unknownTarget (name : Text)
  | registryWithoutDefault (locales : List Text)
  | noDefaultLanguage (locales : List Text)
  | repeatedLocale (locale : Text)
  | missingPayload (locale : Text) (url : Option Text)
  | contentNotJson (detail : Text)
  | contentWithoutData
  /-- A localization has the wrong shape at a place. -/
  | malformedAt (location detail : Text)
  | credentialsNotJson (detail : Text)
  | credentialsNotObject
  /-- A credential is missing, no text or blank. -/
  | credentialNotSet (field : Text)
  | settingsNotYaml (path detail : Text)
  /-- A settings file holds no mapping. -/
  | settingsNotMapping (path : Text)
  /-- A setting has a value that is not allowed. -/
  | invalidSetting (field detail path : Text)
  | requestFailed (url detail : Text)
  /-- A request got an error status. -/
  | errorStatus (url : Text) (status : Nat) (body : Text)
  | indexNotJson (url : Text)
  /-- The language index has no list under `data`. -/
  | indexWithoutData (url : Text)
  | indexMalformed (url detail : Text)
  | noContentUrl (locale : Text)
  | unexpected (name detail : Text)
  deriving DecidableEq

namespace Cause

def kind (c : Cause) : FailureKind :=
  match c with
  | emptySectionKey | emptyTypeName | emptyPhraseKey => .malformedDocument
  | notIdentifier .. | typeCollision .. | memberCollision .. => .invalidIdentifier
  | unembeddable .. | literalMismatch .. => .escapeOverflow
  | unknownTarget .. => .config
  | registryWithoutDefault .. | noDefaultLanguage .. | repeatedLocale .. => .invariantViolation
  | missingPayload .. => .retrieval
  | contentNotJson .. | contentWithoutData | malformedAt .. => .malformedDocument
  | credentialsNotJson .. | credentialsNotObject | credentialNotSet .. => .config
  | settingsNotYaml .. | settingsNotMapping .. | invalidSetting .. => .config
  | requestFailed .. | errorStatus .. | indexNotJson .. | indexWithoutData .. | indexMalformed ..
  | noContentUrl .. => .retrieval
  | unexpected .. => .general

def characterName (c : CodePoint) : Text := "U+" ++ Text.capitalHex 4 c.val

def message (c : Cause) : Text :=
  match c with
  | emptySectionKey => "Section key must not be empty"
  | emptyTypeName => "Type name must not be empty"
  | emptyPhraseKey => "Translation key must not be empty"
  | notIdentifier key name =>
    "Key '" ++ key ++ "' does not form a valid identifier ('" ++ name ++ "')"
  | typeCollision first key typeName =>
    "Section keys '" ++ first ++ "' and '" ++ key ++ "' both map to type '" ++ typeName ++ "'"
  | memberCollision sectionKey _ member =>
    "Section '" ++ sectionKey ++ "' has two keys mapping to accessor '" ++ member ++ "'"
  | unembeddable c _ =>
    "Character " ++ characterName c ++ " cannot be embedded in a string literal"
  | literalMismatch _ => "Escaped literal does not round-trip through the Python parser"
  | unknownTarget name => "Unknown target '" ++ name ++ "', expected one of ['dart', 'python']"
  | registryWithoutDefault _ =>
    "Language registry requires exactly one default language, found none"
  | noDefaultLanguage _ => "No language is flagged as default in the language list"
  | repeatedLocale locale =>
    "Locale '" ++ locale ++ "' appears more than once in the language list"
  | missingPayload locale _ => "No translation payload retrieved for locale '" ++ locale ++ "'"
  | contentNotJson detail => "Localization content is not valid JSON: " ++ detail
  | contentWithoutData => "Localization content must be an object with a 'data' object"
  | malformedAt location detail => "Malformed localization at '" ++ location ++ "': " ++ detail
  | credentialsNotJson detail => "nstack.json is not valid JSON: " ++ detail
  | credentialsNotObject => "nstack.json must contain a JSON object"
  | credentialNotSet field => "\"" ++ field ++ "\" not set"
  | settingsNotYaml path detail => "Invalid YAML in " ++ path ++ ": " ++ detail
  | settingsNotMapping path => path ++ " must contain a mapping"
  | invalidSetting field detail _ => "Invalid setting '" ++ field ++ "': " ++ detail
  | requestFailed url detail => "Request to " ++ url ++ " failed: " ++ detail
  | errorStatus url status _ => "Request to " ++ url ++ " returned HTTP " ++ Text.ofNat status
  | indexNotJson url => "Language index from " ++ url ++ " is not JSON"
  | indexWithoutData url => "Language index from " ++ url ++ " has no 'data' list"
  | indexMalformed url detail => "Language index from " ++ url ++ " is malformed: " ++ detail
  | noContentUrl locale => "Language '" ++ locale ++ "' has no content URL"
  | unexpected name detail => "Unexpected " ++ name ++ ": " ++ detail

/-- The values that the report names. -/
def context (c : Cause) : List (Text × Json) :=
  match c with
  | emptySectionKey | emptyPhraseKey => [("key", .text [])]
  | emptyTypeName | contentNotJson _ | contentWithoutData | credentialsNotJson _
  | credentialsNotObject | unexpected .. => []
  | notIdentifier key name => [("key", .text key), ("identifier", .text name)]
  | typeCollision _ key typeName => [("key", .text key), ("identifier", .text typeName)]
  | memberCollision sectionKey key _ => [("key", .text key), ("section", .text sectionKey)]
  | unembeddable c position => [("character", .text (characterName c)), ("position", .int position)]
  | literalMismatch literal => [("literal", .text (literal.take 80))]
  | unknownTarget _ => [("field", .text "target")]
  | registryWithoutDefault locales | noDefaultLanguage locales =>
    [("locales", .list (locales.map .text))]
  | repeatedLocale locale | noContentUrl locale => [("locale", .text locale)]
  | missingPayload locale url => [("locale", .text locale), ("url", .ofText? url)]
  | malformedAt location _ =>
    [("location", .text location), ("validation_errors", .text "<omitted>")]
  | credentialNotSet field => [("field", .text field)]
  | settingsNotYaml path _ | settingsNotMapping path => [("path", .text path)]
  | invalidSetting field _ path => [("field", .text field), ("path", .text path)]
  | requestFailed url _ | indexNotJson url | indexWithoutData url | indexMalformed url _ =>
    [("url", .text url)]
  | errorStatus url status body =>
    [("url", .text url), ("status_code", .int status), ("response_body", .text (body.take 500))]

/-- The report of a cause that arises at the given time, with more context in front of its own. -/
def failure (c : Cause) (timestamp : Text) (more : List (Text × Json)) : Failure :=
  Failure.new c.kind timestamp c.message (c.context ++ more)

end Cause

end LocaleGen
