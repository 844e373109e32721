import LocaleGen.Dialect.Block
import LocaleGen.Escape

/-!
# The Dart dialect

Source for the Flutter package `nstack`. Identifiers are ASCII words. Short literals stand between
double quotes, so the dollar sign is escaped too; a literal cannot hold a surrogate.

A raw literal between triple quotes holds a text as it is. `canEmbedRaw` excludes what such a
literal cannot hold: a triple quote inside, a quote at the end, a carriage return, a surrogate, and
a first line of blanks, which would be dropped.
-/

namespace LocaleGen.Dart

def extension : Text := ".dart"

/-! ## Words -/

/-- Reserved words, built-in identifiers and contextual keywords. -/
def keywords : List Text :=
  Text.words ["assert", "break", "case", "catch", "class", "const", "continue", "default", "do",
    "else", "enum",
   "extends", "false", "final", "finally", "for", "if", "in", "is", "new", "null",
     "rethrow", "return",
   "super", "switch", "this", "throw", "true", "try", "var", "void", "while", "with",
   "abstract", "as", "covariant", "deferred", "dynamic", "export", "extension",
     "external", "factory",
   "Function", "get", "implements", "import", "interface", "late", "library", "mixin",
     "operator", "part",
   "required", "set", "static", "typedef",
   "async", "await", "base", "hide", "of", "on", "sealed", "show", "sync", "when", "yield"]

/-- The names that the generated file declares or imports, and the members of every class. -/
def generatedNames : List Text :=
  Text.words ["Localization", "NStack", "NStackConfig", "Language", "LocalizeIndex",
    "SectionKeyDelegate", "String",
   "bool", "int", "double", "num", "Object", "hashCode", "runtimeType", "toString", "noSuchMethod"]

def reserved : List Text := keywords ++ generatedNames

def isIdentifierStart (c : CodePoint) : Bool := c.isLetter || c = '_' || c = '$'

def isIdentifierPart (c : CodePoint) : Bool := isIdentifierStart c || c.isDigit

def isIdentifier (name : Text) : Bool :=
  match name with
  | [] => false
  | c :: rest => isIdentifierStart c && rest.all isIdentifierPart

/-! ## Literals -/

def escapeRules : EscapeRules where
  delimiter := "\""
  backslash := "\\\\"
  others := [("\"", "\\\""), ("$", "\\$"), ("\n", "\\n"), ("\r", "\\r"), ("\x00", "\\x00")]
  forbidden := EscapeRules.lineEnds ++ EscapeRules.surrogates
  encoded := []

def stringLiteral (t : Text) : Except Cause Text := escapeRules.literal t

def tripleQuote : Text := "'''"

/-- Whether a text starts with a line of blanks and backslashes, which a raw literal would lose. -/
def hasDroppedLine (t : Text) : Bool :=
  match t.dropWhile fun c => c = CodePoint.ofChar ' ' || c = CodePoint.ofChar '\t' || c =
    CodePoint.ofChar '\\' with
  | c :: rest =>
    c = CodePoint.ofChar '\n' || (c = CodePoint.ofChar '\r' && rest.head? =
      some (CodePoint.ofChar '\n'))
  | [] => false

def canEmbedRaw (t : Text) : Bool :=
  !t.contains tripleQuote && t.getLast? ≠ some (CodePoint.ofChar '\'') && !t.contains "\r" &&
    !hasDroppedLine t && !t.any CodePoint.isSurrogate

def rawLiteral (t : Text) : Text := "r'''" ++ t ++ "'''"

def boolLiteral (b : Bool) : Text := if b then "true" else "false"

/-! ## Blocks -/

def header : Text :=
  Text.unlines (Text.words ["/// Generated by NStack, do not modify this file.",
    "",
    "import 'package:flutter/foundation.dart';",
    "import 'package:nstack/models/language.dart';",
    "import 'package:nstack/models/localize_index.dart';",
    "import 'package:nstack/models/nstack_config.dart';",
    "import 'package:nstack/nstack.dart';",
    "import 'package:nstack/partial/section_key_delegate.dart';",
    "",
    "// Update this file by running:",
    "// - `nstackgen build nstack.json`"])

def memberLine (m : Member) : Text :=
  "\tString get " ++ m.name ++ " => get(" ++ m.key ++ ", " ++ m.default ++ ");"

def sectionClass (typeName sectionKey : Text) (members : List Member) : Text :=
  Text.unlines (["class _" ++ typeName ++ r" extends SectionKeyDelegate {",
    "\tconst _" ++ typeName ++ "(): super(" ++ sectionKey ++ ");",
    ""] ++ members.map memberLine ++ Text.words [r"}"])

def fieldLine (field : Text × Text) : Text :=
  "\tfinal " ++ field.1 ++ " = const _" ++ field.2 ++ "();"

def localizationClass (fields : List (Text × Text)) : Text :=
  Text.unlines (Text.words [r"class Localization {"] ++ fields.map fieldLine ++
    Text.words ["", "\tconst Localization();", r"}"])

def config (projectId apiKey : Text) : Text :=
  "const _config = NStackConfig(projectId: " ++ projectId ++ ", apiKey: " ++ apiKey ++ ");\n"

def languageEntry (indexId : Text) (l : LanguageLiterals) : Text :=
  "\tLocalizeIndex(id: " ++ indexId ++ ", url: null, lastUpdatedAt: null, shouldUpdate: false, " ++
    "language: Language(id: " ++ l.id ++ ", name: " ++ l.name ++ ", locale: " ++ l.locale ++
    ", direction: " ++ l.direction ++ ", isDefault: " ++ l.isDefault ++
      ", isBestFit: " ++ l.isBestFit ++
    ")),"

def languageList (entries : List Text) : Text :=
  "final _languages = [\n" ++ Text.unlines entries ++ "];\n"

def bundleLine (entry : Text × Text) : Text := "\t" ++ entry.1 ++ ": " ++ entry.2 ++ ","

def bundle (entries : List (Text × Text)) : Text :=
  r"const _bundledTranslations = {" ++ "\n" ++ Text.unlines (entries.map bundleLine) ++
    r"};" ++ "\n"

def facade : Text :=
  Text.unlines (Text.words ["final _nstack = NStack<Localization>(",
    "\tconfig: _config,",
    "\tlocalization: const Localization(),",
    "\tavailableLanguages: _languages,",
    "\tbundledTranslations: _bundledTranslations,",
    "\tpickedLanguageLocale: '',",
    "\tdebug: kDebugMode,",
    ");",
    "",
    "NStack<Localization> get nstack => _nstack;"])

def spell (b : Block) : Text :=
  match b with
  | .header => header
  | .sectionClass typeName sectionKey members => sectionClass typeName sectionKey members
  | .localizationClass fields => localizationClass fields
  | .config projectId apiKey => config projectId apiKey
  | .languageEntry indexId language => languageEntry indexId language
  | .languageList entries => languageList entries
  | .bundle entries => bundle entries
  | .facade => facade

end LocaleGen.Dart
