import LocaleGen.Credentials
import LocaleGen.Dialect.Target
import LocaleGen.Document
import LocaleGen.Language

/-!
# Generated sources

The text that is generated for a document: the banner, the accessors of every section, the facade
with a field for each of them, the credentials, the registry of languages, the payload of every
language, and the instance that ties them together. The functions here decide what the blocks hold
and in which order; the target spells them.

Nothing but the arguments goes into the text, so equal arguments give equal texts. Of an index entry
only its id and its language are written.
-/

namespace LocaleGen.Artifact

/-! ## Sections -/

/-- The accessors of phrases under their names. -/
def members (target : Target) (names : List Text) (texts : List (Text × Text)) :
    Except Fault (List Member) :=
  match names, texts with
  | name :: names, (key, text) :: texts => do
    let keyLiteral ← target.stringLiteral key
    let textLiteral ← target.stringLiteral text
    .ok (⟨name, keyLiteral, textLiteral⟩ :: (← members target names texts))
  | _, _ => .ok []

def sectionBlock (target : Target) (typeName sectionKey : Text) (texts : Phrases) :
    Except Fault Text := do
  let names ← (Naming.resolveMembers target.namingRules sectionKey texts.keys).mapError .cause
  let members ← members target names texts.entries
  .ok (target.spell (.sectionClass typeName (← target.stringLiteral sectionKey) members))

def sectionNames (target : Target) (document : Document) :
    Except Cause (List Naming.SectionNames) :=
  Naming.resolveSections target.namingRules document.sections.keys

/-- The accessors of the sections with the given names. -/
def sectionBlocks (target : Target) (document : Document) (names : List Naming.SectionNames) :
    Except Fault (List Text) :=
  match names with
  | [] => .ok []
  | n :: rest => do
    let texts := (document.sections.get? n.key).getD .empty
    let block ← sectionBlock target n.typeName n.key texts
    .ok (block :: (← sectionBlocks target document rest))

def sections (target : Target) (document : Document) : Except Fault Text := do
  let names ← (sectionNames target document).mapError .cause
  .ok (Text.join "\n" (← sectionBlocks target document names))

def localization (target : Target) (document : Document) : Except Cause Text := do
  let names ← sectionNames target document
  .ok (target.spell (.localizationClass (names.map fun n => (n.fieldName, n.typeName))))

/-! ## Credentials and languages -/

def config (target : Target) (credentials : Credentials) : Except Fault Text := do
  let projectId ← target.stringLiteral credentials.projectId
  let apiKey ← target.stringLiteral credentials.apiKey
  .ok (target.spell (.config projectId apiKey))

/-- One language of the registry. -/
def languageEntry (target : Target) (e : IndexEntry) : Except Fault Text := do
  let l := e.language
  let name ← target.stringLiteral l.name
  let locale ← target.stringLiteral l.locale
  let direction ← target.stringLiteral l.direction
  .ok (target.spell (.languageEntry (Target.intLiteral e.id)
    { id := Target.intLiteral l.id, name, locale, direction,
      isDefault := target.boolLiteral l.isDefault, isBestFit := target.boolLiteral l.isBestFit }))

def languages (target : Target) (entries : List IndexEntry) : Except Fault Text :=
  if entries.any fun e => e.language.isDefault then do
    .ok (target.spell (.languageList (← entries.mapM (languageEntry target))))
  else .error (.cause (.registryWithoutDefault (IndexEntry.locales entries)))

/-! ## Payloads -/

/-- The payloads of the languages after those with the locales `before`. -/
def bundleEntries (target : Target) (payloads : Dict Text Text) (before : List Text)
    (entries : List IndexEntry) : Except Fault (List (Text × Text)) :=
  match entries with
  | [] => .ok []
  | e :: rest =>
    let locale := e.language.locale
    if locale ∈ before then .error (.cause (.repeatedLocale locale))
    else
      match payloads.get? locale with
      | none => .error (.cause (.missingPayload locale e.url))
      | some payload => do
        let literal ← target.payloadLiteral payload
        let localeLiteral ← target.stringLiteral locale
        .ok ((localeLiteral, literal) :: (← bundleEntries target payloads (locale :: before) rest))

def bundle (target : Target) (entries : List IndexEntry) (payloads : Dict Text Text) :
    Except Fault Text := do
  .ok (target.spell (.bundle (← bundleEntries target payloads [] entries)))

/-! ## The whole text -/

/-- What a source is generated from. -/
structure Inputs where
  credentials : Credentials
  document : Document
  languages : List IndexEntry
  payloads : Dict Text Text

/-- The blocks of the whole text. -/
def blocks (target : Target) (i : Inputs) : Except Fault (List Text) := do
  let sectionsText ← sections target i.document
  let localizationText ← (localization target i.document).mapError .cause
  let configText ← config target i.credentials
  let languagesText ← languages target i.languages
  let bundleText ← bundle target i.languages i.payloads
  .ok [target.spell .header, sectionsText, localizationText, configText, languagesText, bundleText,
    target.spell .facade]

/-- The whole text: the blocks that are not empty, with an empty line between them. -/
def generate (target : Target) (i : Inputs) : Except Fault Text := do
  let blocks ← blocks target i
  .ok (Text.join "\n" (blocks.filter fun b => !b.isEmpty))

end LocaleGen.Artifact
