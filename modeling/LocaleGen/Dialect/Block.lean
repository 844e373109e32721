import LocaleGen.Text.Basic

/-!
# Blocks

The blocks that a generated file consists of, before a dialect spells them. Names and literals in a
block are finished source text.
-/

namespace LocaleGen

/-- An accessor: its name, the literal of its key and the literal of its default. -/
structure Member where
  name : Text
  key : Text
  default : Text
  deriving DecidableEq

/-- The literals that describe a language. -/
structure LanguageLiterals where
  id : Text
  name : Text
  locale : Text
  direction : Text
  isDefault : Text
  isBestFit : Text
  deriving DecidableEq

/-- A block of a generated file, or one entry of a list in it. -/
inductive Block where
  /-- The banner and the imports. -/
  | header
  | sectionClass (typeName sectionKey : Text) (members : List Member)
  /-- The facade with a field for each section: field name and type name. -/
  | localizationClass (fields : List (Text × Text))
  | config (projectId apiKey : Text)
  | languageEntry (indexId : Text) (language : LanguageLiterals)
  | languageList (entries : List Text)
  | bundle (entries : List (Text × Text))
  | facade
  deriving DecidableEq

end LocaleGen
