import LocaleGen.Artifact
import LocaleGen.Artifact.Template
import LocaleGen.Dialect.DartLiteral

/-!
# Reading generated sources

A generated source consists of blocks whose texts are fixed but for what fills their gaps. A
`Layout` has the templates of a target, and `read` reads a source by them, every literal by the
rules of the language: what it finds is a `Reading`, unless anything is left over.

`Reading.expected` is what should be found in the source for given inputs.
-/

namespace LocaleGen

/-! ## Readings -/

/-- What the accessors of a section are made from. -/
structure SectionReading where
  typeName : Text
  key : Text
  members : List (Text × Text × Text)
  deriving DecidableEq

/-- What a generated source is made from. -/
structure Reading where
  sections : List SectionReading
  fields : List (Text × Text)
  credentials : Credentials
  languages : List (Int × Language)
  bundle : List (Text × Text)
  deriving DecidableEq

namespace Reading

def expectedSection (rules : Naming.Rules) (key : Text) (phrases : Phrases) :
    Except Cause SectionReading := do
  let names ← Naming.sectionNames rules key
  let members ← phrases.entries.mapM fun (key, text) => do
    .ok ((← Naming.accessorName rules key), key, text)
  .ok ⟨names.typeName, key, members⟩

def expectedField (rules : Naming.Rules) (key : Text) : Except Cause (Text × Text) := do
  let names ← Naming.sectionNames rules key
  .ok (names.fieldName, names.typeName)

/-- What should be read of the source for given inputs. -/
def expected (target : Target) (i : Artifact.Inputs) : Except Cause Reading := do
  let sections ← i.document.sections.entries.mapM fun (key, phrases) =>
    expectedSection target.namingRules key phrases
  let fields ← i.document.sections.keys.mapM (expectedField target.namingRules)
  .ok {
    sections
    fields
    credentials := i.credentials
    languages := i.languages.map fun e => (e.id, e.language)
    bundle := i.languages.filterMap fun e =>
      (i.payloads.get? e.language.locale).map fun payload => (e.language.locale, payload) }

end Reading

/-! ## Layouts -/

/-- The texts that the blocks of a target consist of. An empty line belongs to the block that it
follows. -/
structure Layout where
  header : Text
  sectionHead : Template
  member : Template
  sectionEnd : Text
  localizationHead : Text
  field : Template
  /-- What stands in place of fields if there are none. -/
  noFields : Text
  localizationEnd : Text
  config : Template
  languagesHead : Text
  language : Template
  languagesEnd : Text
  bundleHead : Text
  payload : Template
  bundleEnd : Text
  facade : Text

def languageGaps (id name locale direction isDefault isBestFit close : Text) : List (Kind × Text) :=
  [(.whole, id), (.whole, name), (.literal, locale), (.literal, direction), (.literal, isDefault),
    (.flag, isBestFit),
   (.flag, close)]

namespace Dart

def lexis : Lexis where
  source := some
  isNamePart := isIdentifierPart
  readLiteral := readLiteral
  yes := "true"
  no := "false"

def layout : Layout where
  header := header ++ "\n"
  sectionHead :=
    ⟨"class _", [(.name, line r" extends SectionKeyDelegate {" ++ "\tconst _"), (.name, "(): super("),
    (.literal, line ");" ++ "\n")]⟩
  member := ⟨"\tString get ", [(.name, " => get("), (.literal, ", "), (.literal, line ");")]⟩
  sectionEnd := line r"}" ++ "\n"
  localizationHead := line r"class Localization {"
  field := ⟨"\tfinal ", [(.name, " = const _"), (.name, line "();")]⟩
  noFields := ""
  localizationEnd := "\n" ++ line "\tconst Localization();" ++ line r"}" ++ "\n"
  config :=
    ⟨"const _config = NStackConfig(projectId: ",
      [(.literal, ", apiKey: "), (.literal, ");\n" ++ line "")]⟩
  languagesHead := "final _languages = [\n"
  language := ⟨"\tLocalizeIndex(id: ", languageGaps
    (", url: null, lastUpdatedAt: null, shouldUpdate: false, " ++ "language: Language(id: ")
      ", name: " ", locale: "
    ", direction: " ", isDefault: " ", isBestFit: " (line ")),")⟩
  languagesEnd := "];\n" ++ line ""
  bundleHead := line r"const _bundledTranslations = {"
  payload := ⟨"\t", [(.literal, ": "), (.literal, line ",")]⟩
  bundleEnd := line r"};" ++ line ""
  facade := facade

end Dart

namespace Python

def lexis : Lexis where
  source t := if isSource t then some t.normalizeNewlines else none
  isNamePart := CodePoint.isIdentifierPart
  readLiteral := readText
  yes := "True"
  no := "False"

def layout : Layout where
  header := header ++ "\n"
  sectionHead :=
    ⟨"class _", [(.name, line "(SectionKeyDelegate):" ++ line "    def __init__(self) -> None:" ++
    "        super().__init__("), (.literal, line ")")]⟩
  member := ⟨"\n" ++ line "    @property" ++ "    def ",
    [(.name, line "(self) -> str:" ++ "        return self.get("), (.literal, ", "),
      (.literal, line ")")]⟩
  sectionEnd := "\n"
  localizationHead := line "class Localization:" ++ line "    def __init__(self) -> None:"
  field := ⟨"        self.", [(.name, " = _"), (.name, line "()")]⟩
  noFields := line "        pass"
  localizationEnd := "\n"
  config :=
    ⟨"_config = NStackConfig(project_id=", [(.literal, ", api_key="), (.literal, ")\n" ++ line "")]⟩
  languagesHead := "_languages = [\n"
  language := ⟨"    LocalizeIndex(id=", languageGaps
    (", url=None, last_updated_at=None, should_update=False, " ++ "language=Language(id=")
      ", name=" ", locale="
    ", direction=" ", is_default=" ", is_best_fit=" (line ")),")⟩
  languagesEnd := "]\n" ++ line ""
  bundleHead := line r"_bundled_translations = {"
  payload := ⟨"    ", [(.literal, ": "), (.literal, line ",")]⟩
  bundleEnd := line r"}" ++ line ""
  facade := facade

end Python

namespace Target

def lexis (target : Target) : Lexis :=
  match target with
  | dart => Dart.lexis
  | python => Python.lexis

def layout (target : Target) : Layout :=
  match target with
  | dart => Dart.layout
  | python => Python.layout

end Target

/-! ## Reading -/

namespace Layout

/-- The type name and the key of a section. A name that is written twice has to be the same. -/
def sectionOf? (fields : List Field) : Option (Text × Text) :=
  match fields with
  | [.name type, .literal key] => some (type, key)
  | [.name type, .name again, .literal key] => if again = type then some (type, key) else none
  | _ => none

def memberOf? (fields : List Field) : Option (Text × Text × Text) :=
  match fields with
  | [.name name, .literal key, .literal text] => some (name, key, text)
  | _ => none

def fieldOf? (fields : List Field) : Option (Text × Text) :=
  match fields with
  | [.name field, .name type] => some (field, type)
  | _ => none

def credentialsOf? (fields : List Field) : Option Credentials :=
  match fields with
  | [.literal projectId, .literal apiKey] => some ⟨projectId, apiKey⟩
  | _ => none

def languageOf? (fields : List Field) : Option (Int × Language) :=
  match fields with
  | [.whole indexId, .whole id, .literal name, .literal locale, .literal direction, .flag isDefault,
      .flag isBestFit] => some (indexId, { id, name, locale, direction, isDefault, isBestFit })
  | _ => none

def payloadOf? (fields : List Field) : Option (Text × Text) :=
  match fields with
  | [.literal locale, .literal payload] => some (locale, payload)
  | _ => none

variable (layout : Layout) (l : Lexis)

def readRow {α : Type} (template : Template) (of? : List Field → Option α) (t : Text) :
    Option (α × Text) := do
  let (fields, left) ← template.read l t
  some (← of? fields, left)

def readRows {α : Type} (template : Template) (of? : List Field → Option α) (t : Text) :
    Option (List α × Text) :=
  readMany template.opening (readRow l template of?) (t.length + 1) t

def readSection (t : Text) : Option (SectionReading × Text) := do
  let ((typeName, key), left) ← readRow l layout.sectionHead sectionOf? t
  let (members, left) ← readRows l layout.member memberOf? left
  some (⟨typeName, key, members⟩, ← Text.dropStart? left layout.sectionEnd)

def readSections (t : Text) : Option (List SectionReading × Text) :=
  readMany layout.sectionHead.opening (layout.readSection l) (t.length + 1) t

def readFields (t : Text) : Option (List (Text × Text) × Text) := do
  let (fields, left) ← readRows l layout.field fieldOf? t
  if fields.isEmpty then some ([], ← Text.dropStart? left layout.noFields) else some (fields, left)

/-- What a source stands for that has been prepared for reading. -/
def readBlocks (t : Text) : Option Reading := do
  let t ← Text.dropStart? t layout.header
  let (sections, t) ← layout.readSections l t
  let t ← Text.dropStart? t layout.localizationHead
  let (fields, t) ← layout.readFields l t
  let t ← Text.dropStart? t layout.localizationEnd
  let (credentials, t) ← readRow l layout.config credentialsOf? t
  let t ← Text.dropStart? t layout.languagesHead
  let (languages, t) ← readRows l layout.language languageOf? t
  let t ← Text.dropStart? t layout.languagesEnd
  let t ← Text.dropStart? t layout.bundleHead
  let (bundle, t) ← readRows l layout.payload payloadOf? t
  let t ← Text.dropStart? t layout.bundleEnd
  if t = layout.facade then some ⟨sections, fields, credentials, languages, bundle⟩ else none

end Layout

def Target.read (target : Target) (source : Text) : Option Reading := do
  target.layout.readBlocks target.lexis (← target.lexis.source source)

end LocaleGen
