import LocaleGen.Proofs.Emission
import LocaleGen.Proofs.SectionNames
import Mathlib

/-!
# What a source declares

The names that a source declares at its top level are those of its classes, one for each section,
and those that the fixed texts of its layout declare, line by line. They are all different, no class
has a name that the source imports, and the facade has one field for each class:
`Artifact.generate_declares`.
-/

namespace LocaleGen

open Text Layout

/-! ## Lines that give names -/

def Lexis.nameBetween? (l : Lexis) (words : Text × Text) (line : Text) : Option Text := do
  let (name, left) ← l.readName (← Text.dropStart? line words.1)
  let _ ← Text.dropStart? left words.2
  some name

def Lexis.namesBetween (l : Lexis) (words : List (Text × Text)) (t : Text) : List Text :=
  (t.splitOn '\n').filterMap fun line => words.findSome? fun w => l.nameBetween? w line

namespace Target

/-- The words around the name that a line of the top level declares. -/
def declarers (target : Target) : List (Text × Text) :=
  match target with
  | dart => [("class ", " "), ("const ", " "), ("final ", " "), ("NStack<Localization> get ", " ")]
  | python => [("class ", ""), ("", " = ")]

/-- The names that a layout declares after the header, which only imports, and beside the
sections. -/
def fixedNames (target : Target) : List Text :=
  let layout := target.layout
  [layout.localizationHead, layout.config.opening, layout.languagesHead, layout.bundleHead,
    layout.facade].flatMap
    (target.lexis.namesBetween target.declarers)

def classNames (target : Target) (r : Reading) : List Text :=
  r.sections.filterMap fun s =>
    target.lexis.nameBetween? (classWord,
      []) (target.layout.sectionHead.fill (target.sectionPieces s.typeName []))

def declaredNames (target : Target) (r : Reading) : List Text :=
  target.classNames r ++ target.fixedNames

def importedNames : List Text :=
  python.lexis.namesBetween [("    ", ","), ("from __future__ import ", "")] Python.header

/-- Whether a name can be one that the source imports. A library that is imported as a whole gives
all names but those that start with a low line. -/
def imports (target : Target) (name : Text) : Bool :=
  match target with
  | dart => name.head? ≠ some (CodePoint.ofChar '_')
  | python => name ∈ importedNames

/-! ## Classes -/

def className (type : Text) : Text := "_" ++ type

variable {target : Target}

theorem isNamePart_lowLine (target : Target) : target.lexis.isNamePart '_' = true := by
  cases target <;> decide +kernel

theorem nameBetween?_sectionHead {type : Text} (h : target.isIdentifier type = true) (key : Text) :
    target.lexis.nameBetween? (classWord, [])
    (target.layout.sectionHead.fill (target.sectionPieces type key)) =
      some (className type) := by
  obtain ⟨-, hparts, -⟩ := all_of_isIdentifier h
  have hname : ∀ c ∈ className type, target.lexis.isNamePart c = true :=
    List.forall_mem_cons.mpr ⟨isNamePart_lowLine target, List.all_eq_true.mp hparts⟩
  obtain ⟨c, left, hfill, hc⟩ : ∃ c left,
    target.layout.sectionHead.fill (target.sectionPieces type key) =
      classWord ++ (className type ++ c :: left) ∧ target.lexis.isNamePart c = false := by
    cases target with
    | dart => exact ⟨' ', _, rfl, by decide +kernel⟩
    | python => exact ⟨'(', _, rfl, by decide +kernel⟩
  have hne : className type ≠ [] := List.cons_ne_nil _ _
  rw [hfill, Lexis.nameBetween?, dropStart?_append]
  simp [readName_append hne hname hc, dropStart?]

theorem classNames_eq {r : Reading} (h : ∀ s ∈ r.sections, target.isIdentifier s.typeName = true) :
    target.classNames r = (r.sections.map SectionReading.typeName).map className := by
  rw [classNames, List.map_map, ← List.filterMap_eq_map]
  exact List.filterMap_congr fun s hs => nameBetween?_sectionHead (h s hs) []

theorem fixedNames_eq (target : Target) : target.fixedNames =
    words ["Localization", "_config", "_languages",
      if target = dart then "_bundledTranslations" else "_bundled_translations",
      "_nstack", "nstack"] := by
  cases target <;> decide +kernel

theorem importedNames_eq : importedNames =
    words ["annotations", "Language", "LocalizeIndex", "NStack", "NStackConfig",
      "SectionKeyDelegate"] := by
  decide +kernel

/-- Fixed names are different, and one that starts with a low line goes on with a small letter. -/
theorem fixedNames_spec (target : Target) : target.fixedNames.Nodup ∧
    ∀ name ∈ target.fixedNames, name.head? = some (CodePoint.ofChar '_') →
      name.tail.head?.any (fun c => 0x61 ≤ c.val && c.val ≤ 0x7A) = true := by
  rw [fixedNames_eq]
  cases target <;> decide +kernel

/-- What the sections of a document are called is no other name of the source, since no type name
starts with a small letter. -/
theorem className_spec {key : Text} (hne : key ≠ []) :
    className (Naming.typeOf target.namingRules key) ∉ target.fixedNames ∧
      target.imports (className (Naming.typeOf target.namingRules key)) = false := by
  constructor
  · obtain ⟨c, h, more, rest, hupper, htype⟩ := Naming.exists_head_typeOf target.namingRules hne
    intro hmem
    have hsmall := (fixedNames_spec target).2 _ hmem rfl
    rw [htype] at hsmall
    have hin : 0x61 ≤ h.val ∧ h.val ≤ 0x7A := by simpa [className, ofString] using hsmall
    have hnot := CodePoint.notSmall_of_head hupper
    omega
  · cases target with
    | dart => simp [imports, className, ofString]
    | python =>
      have hpublic : ∀ name ∈ importedNames, name.head? ≠ some (CodePoint.ofChar '_') := by
        rw [importedNames_eq]
        decide
      rw [imports, decide_eq_false_iff_not]
      exact fun hmem => hpublic _ hmem rfl

end Target

/-! ## Sources -/

namespace Artifact

/-- The names that a generated source declares are all different. Each class is declared once and
has no name that the source imports, and the fields of the facade instantiate the classes, one each
and in their order. -/
theorem generate_declares {target : Target} {i : Inputs} {text : Text}
    (h : generate target i = .ok text) :
    ∃ r, target.read text = some r ∧ r.Conveys i ∧ (target.declaredNames r).Nodup ∧
      (∀ name ∈ target.classNames r, (target.declaredNames r).count name = 1 ∧
        target.imports name = false) ∧
      r.fields.map (fun field => Target.className field.2) = target.classNames r := by
  obtain ⟨ns, _, _, _, _, hns, -⟩ := generate_eq_ok h
  obtain ⟨rows, r, rfl, stand, conveys, named⟩ := exists_stand h
  have hkeys : ∀ key ∈ i.document.sections.keys, key ≠ [] ∧
      target.isTypeName (Naming.typeOf target.namingRules key) = true := by
    intro key hkey
    obtain ⟨n, -, hn⟩ := exists_of_mem_left (Naming.resolveSectionsAfter_eq_ok hns) hkey
    obtain ⟨hne, rfl, htype, -⟩ := Naming.sectionNames_eq_ok hn
    exact ⟨hne, htype⟩
  have hclasses : target.classNames r =
      (i.document.sections.keys.map (Naming.typeOf target.namingRules)).map Target.className := by
    rw [Target.classNames_eq, named.types]
    intro s hs
    have htype := List.mem_map_of_mem (f := SectionReading.typeName) hs
    rw [named.types] at htype
    obtain ⟨key, hkey, heq⟩ := List.mem_map.mp htype
    exact heq ▸ isIdentifier_of_isTypeName (hkeys key hkey).2
  have hspec : ∀ name ∈ target.classNames r, name ∉ target.fixedNames ∧
      target.imports name = false := by
    rw [hclasses, List.forall_mem_map, List.forall_mem_map]
    exact fun key hkey => Target.className_spec (hkeys key hkey).1
  have hnodup : (target.declaredNames r).Nodup := by
    refine List.nodup_append.mpr ⟨?_, (Target.fixedNames_spec target).1, ?_⟩
    · rw [hclasses]
      exact (Naming.nodup_of_resolveSectionsAfter hns).1.map (List.append_right_injective _)
    · rintro name hname _ hfixed rfl
      exact (hspec name hname).1 hfixed
  refine ⟨r, stand.read, conveys, hnodup, fun name hname => ?_, ?_⟩
  · exact ⟨List.count_eq_one_of_mem hnodup (List.mem_append_left _ hname), (hspec name hname).2⟩
  · rw [hclasses, named.fields, List.map_map, List.map_map]
    rfl

theorem generate_declares_quotingInputs : ∃ text r, generate .python quotingInputs = .ok text ∧
    Target.python.read text = some r ∧ (Target.python.declaredNames r).Nodup ∧
      r.fields.map (fun field => Target.className field.2) = Target.python.classNames r := by
  have hok : (generate .python quotingInputs).isOk = true := by decide +kernel
  cases htext : generate .python quotingInputs with
  | error fault =>
    rw [htext] at hok
    cases hok
  | ok text =>
    obtain ⟨r, hread, -, hnodup, -, hfields⟩ := generate_declares htext
    exact ⟨text, r, rfl, hread, hnodup, hfields⟩

end Artifact

end LocaleGen
