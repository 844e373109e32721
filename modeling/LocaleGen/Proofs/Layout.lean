import LocaleGen.Artifact.Reader
import Mathlib

/-!
# Blocks as filled templates

What a target spells for a block, with the empty line after it, is what its layout has for the
block: fixed texts, and templates filled with the names and literals of the block.
-/

namespace LocaleGen

open Text

/-! ## Lines -/

namespace Text

@[simp] theorem ofString_empty : Text.ofString "" = [] := rfl

@[simp] theorem unlines_nil : unlines [] = [] := rfl

@[simp] theorem unlines_cons (first : Text) (lines : List Text) :
    unlines (first :: lines) = first ++ ("\n" ++ unlines lines) := by
  simp [unlines]

@[simp] theorem unlines_append (lines more : List Text) :
    unlines (lines ++ more) = unlines lines ++ unlines more := by
  simp [unlines]

@[simp] theorem unlines_map {α : Type} (row : α → Text) (xs : List α) :
    unlines (xs.map row) = (xs.map fun x => row x ++ "\n").flatten := by
  simp [unlines, List.flatMap_def, Function.comp_def]

theorem unlines_flatMap {α : Type} (rows : α → List Text) (xs : List α) :
    unlines (xs.flatMap rows) = (xs.map fun x => unlines (rows x)).flatten := by
  simp [unlines, List.flatMap_assoc, ← List.flatMap_def]

end Text

/-! ## Blocks -/

namespace Target

def sectionPieces (target : Target) (type key : Text) : List Text :=
  match target with
  | dart => [type, type, key]
  | python => [type, key]

variable (target : Target)

theorem spell_header : target.spell .header ++ "\n" = target.layout.header := by
  cases target <;> rfl

theorem spell_sectionClass (type key : Text) (members : List Member) :
    target.spell (.sectionClass type key members) ++ "\n" =
      target.layout.sectionHead.fill (target.sectionPieces type key) ++
        ((members.map fun m => target.layout.member.fill [m.name, m.key, m.default]).flatten ++
          target.layout.sectionEnd) := by
  cases target with
  | dart =>
    simp [spell, Dart.spell, Dart.sectionClass, Dart.memberLine, layout, Dart.layout, sectionPieces,
      words, line,
      Template.fill, Template.fillGaps]
  | python =>
    simp [spell, Python.spell, Python.sectionClass, Python.memberLines, layout, Python.layout,
      sectionPieces,
      unlines_flatMap, line, Template.fill, Template.fillGaps]

theorem spell_localizationClass (fields : List (Text × Text)) :
    target.spell (.localizationClass fields) ++ "\n" = target.layout.localizationHead ++
      ((if fields = [] then target.layout.noFields
        else (fields.map fun f => target.layout.field.fill [f.1, f.2]).flatten) ++
          target.layout.localizationEnd) := by
  cases target with
  | dart =>
    cases fields <;> simp [spell, Dart.spell, Dart.localizationClass, Dart.fieldLine, layout,
      Dart.layout, words, line,
      Template.fill, Template.fillGaps]
  | python =>
    cases fields <;> simp [spell, Python.spell, Python.localizationClass, Python.fieldLine, layout,
      Python.layout,
      words, line, Template.fill, Template.fillGaps]

theorem spell_config (projectId apiKey : Text) :
    target.spell (.config projectId apiKey) ++ "\n" =
      target.layout.config.fill [projectId, apiKey] := by
  cases target <;> simp [spell, Dart.spell, Dart.config, Python.spell, Python.config, layout,
    Dart.layout,
    Python.layout, line, Template.fill, Template.fillGaps]

theorem spell_languageEntry (indexId : Text) (e : LanguageLiterals) :
    target.spell (.languageEntry indexId e) ++ "\n" = target.layout.language.fill
      [indexId, e.id, e.name, e.locale, e.direction, e.isDefault, e.isBestFit] := by
  cases target <;> simp [spell, Dart.spell, Dart.languageEntry, Python.spell,
    Python.languageEntry, layout,
    Dart.layout, Python.layout, languageGaps, line, Template.fill, Template.fillGaps]

theorem spell_languageList (entries : List Text) :
    target.spell (.languageList entries) ++ "\n" =
      target.layout.languagesHead ++ (unlines entries ++ target.layout.languagesEnd) := by
  cases target <;> simp [spell, Dart.spell, Dart.languageList, Python.spell, Python.languageList,
    layout, Dart.layout,
    Python.layout, line]

theorem spell_bundle (pairs : List (Text × Text)) :
    target.spell (.bundle pairs) ++ "\n" = target.layout.bundleHead ++
      ((pairs.map fun p => target.layout.payload.fill [p.1, p.2]).flatten ++
        target.layout.bundleEnd) := by
  cases target <;> simp [spell, Dart.spell, Dart.bundle, Dart.bundleLine, Python.spell,
    Python.bundle,
    Python.bundleLine, layout, Dart.layout, Python.layout, line, Template.fill, Template.fillGaps]

theorem spell_facade : target.spell .facade = target.layout.facade := by
  cases target <;> rfl

theorem spell_ne_nil (b : Block) : target.spell b ≠ [] := by
  cases target <;> cases b <;> exact List.cons_ne_nil _ _

end Target

end LocaleGen
