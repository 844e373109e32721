import LocaleGen.Dialect.Block
import LocaleGen.Dialect.PythonValue
import LocaleGen.Escape
import LocaleGen.Fault

/-!
# The Python dialect

A module that imports its support classes from `nstackgen.runtime`. Identifiers follow Unicode;
keywords are none, and neither are names that start with two low lines, which a class would mangle.
A type name is emitted after a low line and may not start with another one for the same reason.

A short literal is written by escapes, surrogates by their number, and evaluated before it is used.
A text is embedded raw if the raw literal evaluates to the text. Evaluation takes the raw literal
for any source text, so a text that closes the literal is evaluated from there on, and what it goes
on with may be an obstacle.
-/

namespace LocaleGen.Python

def extension : Text := ".py"

/-! ## Words -/

def keywords : List Text := keywordTokens.map fun keyword => keyword.1

def softKeywords : List Text := Text.words ["_", "case", "match"]

def generatedNames : List Text :=
  Text.words ["Localization", "NStack", "NStackConfig", "Language", "LocalizeIndex",
    "SectionKeyDelegate", "get",
   "section_key", "annotations"]

def reserved : List Text := keywords ++ softKeywords ++ generatedNames

def isIdentifier (name : Text) : Bool :=
  name.isIdentifier && name ∉ keywords && (name.dropStart? "__").isNone

def isTypeName (name : Text) : Bool := isIdentifier name && (name.dropStart? "_").isNone

/-! ## Literals -/

def escapeRules : EscapeRules where
  delimiter := "\""
  backslash := "\\\\"
  others := [("\"", "\\\""), ("\n", "\\n"), ("\r", "\\r"), ("\x00", "\\x00")]
  forbidden := EscapeRules.lineEnds ++ [(0x00, 0x00)]
  encoded := EscapeRules.surrogates

def Obstacle.fault (o : Obstacle) : Fault :=
  match o with
  | unhashable c => .type ("unhashable type: '" ++ c.name ++ "'")
  | tooLarge => .overflow "int too large to convert to float"

def literalEval (source : Text) : Except Fault (Option Value) :=
  match literalValue source with
  | .ok v => .ok (some v)
  | .error .malformed => .ok none
  | .error (.obstacle o) => .error o.fault

def stringLiteral (t : Text) : Except Fault Text := do
  let literal ← (escapeRules.literal t).mapError .cause
  if (← literalEval literal) = some (.text t) then .ok literal
  else .error (.cause (.literalMismatch literal))

def rawLiteral (t : Text) : Text := "r'''" ++ t ++ "'''"

def canEmbedRaw (t : Text) : Except Fault Bool := do
  .ok ((← literalEval (rawLiteral t)) = some (.text t))

def boolLiteral (b : Bool) : Text := if b then "True" else "False"

/-! ## Blocks -/

def header : Text :=
  Text.unlines (Text.words ["\"\"\"",
    "Generated by nstackgen, do not modify this file.",
    "",
    "Update this file by running:",
    "    nstackgen build nstack.json --target python",
    "\"\"\"",
    "",
    "from __future__ import annotations",
    "",
    "from nstackgen.runtime import (",
    "    Language,",
    "    LocalizeIndex,",
    "    NStack,",
    "    NStackConfig,",
    "    SectionKeyDelegate,",
    ")"])

def memberLines (m : Member) : List Text :=
  ["",
   "    @property",
   "    def " ++ m.name ++ "(self) -> str:",
   "        return self.get(" ++ m.key ++ ", " ++ m.default ++ ")"]

def sectionClass (typeName sectionKey : Text) (members : List Member) : Text :=
  Text.unlines (["class _" ++ typeName ++ "(SectionKeyDelegate):",
    "    def __init__(self) -> None:",
    "        super().__init__(" ++ sectionKey ++ ")"] ++ members.flatMap memberLines)

def fieldLine (field : Text × Text) : Text :=
  "        self." ++ field.1 ++ " = _" ++ field.2 ++ "()"

def localizationClass (fields : List (Text × Text)) : Text :=
  Text.unlines (Text.words ["class Localization:", "    def __init__(self) -> None:"] ++
    (if fields.isEmpty then Text.words ["        pass"] else []) ++ fields.map fieldLine)

def config (projectId apiKey : Text) : Text :=
  "_config = NStackConfig(project_id=" ++ projectId ++ ", api_key=" ++ apiKey ++ ")\n"

def languageEntry (indexId : Text) (l : LanguageLiterals) : Text :=
  "    LocalizeIndex(id=" ++ indexId ++ ", url=None, last_updated_at=None, should_update=False, " ++
    "language=Language(id=" ++ l.id ++ ", name=" ++ l.name ++ ", locale=" ++ l.locale ++
    ", direction=" ++ l.direction ++ ", is_default=" ++ l.isDefault ++
      ", is_best_fit=" ++ l.isBestFit ++
    ")),"

def languageList (entries : List Text) : Text := "_languages = [\n" ++ Text.unlines entries ++ "]\n"

def bundleLine (entry : Text × Text) : Text := "    " ++ entry.1 ++ ": " ++ entry.2 ++ ","

def bundle (entries : List (Text × Text)) : Text :=
  r"_bundled_translations = {" ++ "\n" ++ Text.unlines (entries.map bundleLine) ++ r"}" ++ "\n"

def facade : Text :=
  Text.unlines (Text.words ["_nstack = NStack(",
    "    config=_config,",
    "    localization=Localization(),",
    "    available_languages=_languages,",
    "    bundled_translations=_bundled_translations,",
    "    picked_language_locale=\"\",",
    "    debug=__debug__,",
    ")",
    "",
    "nstack = _nstack"])

def spell (b : Block) : Text :=
  match b with
  | .header => header
  | .sectionClass typeName sectionKey members => sectionClass typeName sectionKey members
  | .localizationClass fields => localizationClass fields
  | .config projectId apiKey => config projectId apiKey
  | .languageEntry indexId language => languageEntry indexId language
  | .languageList entries => languageList entries
  | .bundle entries => bundle entries
  | .facade => facade

end LocaleGen.Python
