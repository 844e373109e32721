import LocaleGen.Proofs.Generation
import Mathlib

/-!
# What an emitted source conveys

`Reading.Conveys` says of what has been read in a source that it is what the inputs hold, whatever
the types and accessors are called: every section with its phrases in their order, the credentials,
the languages and their payloads. So much can be read in every source that has been generated:
`Artifact.exists_conveying`. `Reading.Named` says what the types and the fields are called, and
`Artifact.exists_stand` has both.
-/

namespace LocaleGen

open Layout

namespace Reading

def OfSection (e : Text × Phrases) (s : SectionReading) : Prop :=
  s.key = e.1 ∧ s.members.map Prod.snd = e.2.entries

theorem ofSection_of_expectedSection {rules : Naming.Rules} {e : Text × Phrases}
    {s : SectionReading} (h : expectedSection rules e.1 e.2 = .ok s) :
    OfSection e s ∧ s.typeName = Naming.typeOf rules e.1 := by
  simp only [expectedSection, bind_eq_ok, mapM_eq_ok] at h
  obtain ⟨n, hn, members, hmembers, heq⟩ := h
  cases heq
  refine ⟨⟨rfl, ?_⟩, by rw [(Naming.sectionNames_eq_ok hn).2.1]⟩
  rw [← List.forall₂_eq_eq_eq, List.forall₂_map_left_iff]
  refine hmembers.flip.imp fun row phrase hrow => ?_
  obtain ⟨name, -, heq⟩ := hrow
  cases heq
  rfl

/-- What is read is what the inputs hold. -/
structure Conveys (i : Artifact.Inputs) (r : Reading) : Prop where
  sections : List.Forall₂ OfSection i.document.sections.entries r.sections
  credentials : r.credentials = i.credentials
  languages : r.languages = i.languages.map fun e => (e.id, e.language)
  bundle : r.bundle = i.languages.filterMap fun e =>
    (i.payloads.get? e.language.locale).map fun payload => (e.language.locale, payload)

/-- The types and the fields that are read are those that the section keys lead to. -/
structure Named (target : Target) (i : Artifact.Inputs) (r : Reading) : Prop where
  types : r.sections.map SectionReading.typeName =
    i.document.sections.keys.map (Naming.typeOf target.namingRules)
  fields : r.fields = i.document.sections.keys.map fun key =>
    ((Naming.typeOf target.namingRules key).lowerFirst, Naming.typeOf target.namingRules key)

variable {i : Artifact.Inputs} {r : Reading}

theorem Conveys.mem_section (h : Conveys i r) {s : SectionReading} (hs : s ∈ r.sections) :
    ∃ phrases, (s.key, phrases) ∈ i.document.sections.entries ∧
    s.members.map Prod.snd = phrases.entries := by
  obtain ⟨⟨key, phrases⟩, he, rfl, hmembers⟩ := exists_of_mem_left h.sections.flip hs
  exact ⟨phrases, he, hmembers⟩

end Reading

namespace Artifact

variable {target : Target} {i : Inputs} {ns : List Naming.SectionNames}

/-- The rows of a source that is generated, and what each of them is made from. -/
theorem generate_eq_ok {text : Text} (h : generate target i = .ok text) :
    ∃ ns sections config languages pairs,
      sectionNames target i.document = .ok ns ∧ sectionBlocks target i.document ns = .ok sections ∧
      Artifact.config target i.credentials = .ok config ∧
      List.Forall₂ (fun e t => languageEntry target e = .ok t) i.languages languages ∧
      bundleEntries target i.payloads [] i.languages = .ok pairs ∧
      text = (rowsOf target sections ns config languages pairs).text target := by
  simp only [generate, blocks, localization, bundle, bind_eq_ok, mapError_eq_ok] at h
  obtain ⟨_, ⟨_, hsections, _, ⟨again, hagain, heqLocalization⟩, config, hconfig, _, hlanguages, _,
    ⟨pairs, hpairs, heqBundle⟩, heq⟩, htext⟩ := h
  obtain ⟨ns, sections, hns, hblocks, rfl⟩ := sections_eq_ok hsections
  obtain ⟨languages, hentries, rfl⟩ := languages_eq_ok hlanguages
  cases hns.symm.trans hagain
  cases heqLocalization
  cases heqBundle
  cases heq
  cases htext
  exact ⟨_, sections, config, languages, pairs, hns, hblocks, hconfig, hentries, hpairs,
    text_rowsOf (sectionBlocks_ne_nil hblocks) (config_ne_nil hconfig)⟩

theorem exists_bundleEntries {text : Text} (h : generate target i = .ok text) :
    ∃ pairs, bundleEntries target i.payloads [] i.languages = .ok pairs := by
  obtain ⟨_, _, _, _, pairs, -, -, -, -, hpairs, -⟩ := generate_eq_ok h
  exact ⟨pairs, hpairs⟩

/-- The sections of a source stand for those of the document. -/
theorem exists_sections {sections : List Text} (hns : sectionNames target i.document = .ok ns)
    (h : sectionBlocks target i.document ns = .ok sections) :
    ∃ readings, List.Forall₂ Reading.OfSection i.document.sections.entries readings ∧
      readings.map SectionReading.typeName =
        i.document.sections.keys.map (Naming.typeOf target.namingRules) ∧
      List.Forall₂ (IsSection target) (sections.map fun t => t ++ "\n") readings := by
  have hnames := List.forall₂_map_left_iff.mp (Naming.resolveSectionsAfter_eq_ok hns)
  obtain ⟨readings, hreadings, hrows⟩ := forall₂_exists
    (fun e block hblock => hblock.imp fun s hs => ⟨Reading.ofSection_of_expectedSection hs.1, hs.2⟩)
    (sectionBlocks_eq_ok (fun _ he => he) hnames h)
  refine ⟨readings, hreadings.imp fun _ _ hs => hs.1, ?_, List.forall₂_map_left_iff.mpr hrows⟩
  rw [Dict.keys, List.map_map, ← List.forall₂_eq_eq_eq, List.forall₂_map_left_iff,
    List.forall₂_map_right_iff]
  exact hreadings.flip.imp fun _ _ hs => hs.2

/-- The fields of a source stand for those that the section keys lead to. -/
theorem isRow_fields (hns : sectionNames target i.document = .ok ns) :
    List.Forall₂ (IsRow target target.layout.field fieldOf?)
      (ns.map fun n => target.layout.field.fill [n.fieldName, n.typeName])
      (i.document.sections.keys.map fun key =>
        ((Naming.typeOf target.namingRules key).lowerFirst,
          Naming.typeOf target.namingRules key)) := by
  refine List.forall₂_map_left_iff.mpr (List.forall₂_map_right_iff.mpr ?_)
  refine (Naming.resolveSectionsAfter_eq_ok hns).flip.imp fun n key hn => ?_
  have hrow := isRow_field hn
  rwa [(Naming.sectionNames_eq_ok hn).2.1] at hrow ⊢

/-- The payloads of a source stand for those of the languages. -/
theorem isRow_payloads {pairs : List (Text × Text)}
    (h : bundleEntries target i.payloads [] i.languages = .ok pairs) :
    List.Forall₂ (IsRow target target.layout.payload payloadOf?)
      (pairs.map fun pair => target.layout.payload.fill [pair.1, pair.2])
      (i.languages.filterMap fun e =>
        (i.payloads.get? e.language.locale).map fun payload => (e.language.locale, payload)) := by
  obtain ⟨-, -, hembeds⟩ := bundleEntries_eq_ok.mp h
  obtain ⟨bundle, hbundle, hrows⟩ := forall₂_exists (fun _ _ h => embeds_isRow h) hembeds
  rw [filterMap_eq_of_forall₂ hbundle]
  exact List.forall₂_map_left_iff.mpr hrows

/-- A source that is generated consists of rows that stand for what it has been generated from. -/
theorem exists_stand {text : Text} (h : generate target i = .ok text) :
    ∃ rows r, text = Rows.text target rows ∧ rows.Stand target r ∧ r.Conveys i ∧
    r.Named target i := by
  obtain ⟨ns, sections, config, languages, pairs, hns, hsections, hconfig, hlanguages, hpairs,
    rfl⟩ := generate_eq_ok h
  obtain ⟨readings, hreadings, htypes, hsectionRows⟩ := exists_sections hns hsections
  refine ⟨_, ⟨readings, _, i.credentials, i.languages.map fun e => (e.id, e.language), _⟩, rfl, ?_,
    ⟨hreadings, rfl, rfl, rfl⟩, ⟨htypes, rfl⟩⟩
  exact {
    sections := hsectionRows
    fields := isRow_fields hns
    config := config_isRow hconfig
    languages := List.forall₂_map_left_iff.mpr (List.forall₂_map_right_iff.mpr
      (hlanguages.flip.imp fun _ _ h => languageEntry_isRow h))
    payloads := isRow_payloads hpairs }

theorem exists_conveying {text : Text} (h : generate target i = .ok text) :
    ∃ r, target.read text = some r ∧ r.Conveys i := by
  obtain ⟨rows, r, rfl, stand, conveys, -⟩ := exists_stand h
  exact ⟨r, stand.read, conveys⟩

theorem isPlain_of_generate {text : Text} (h : generate target i = .ok text) :
    text.all target.isPlain = true := by
  obtain ⟨rows, r, rfl, stand, -⟩ := exists_stand h
  exact stand.isPlain

end Artifact

end LocaleGen
