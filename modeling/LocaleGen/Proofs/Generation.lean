import LocaleGen.Proofs.Naming
import LocaleGen.Proofs.Reading
import Mathlib

/-!
# Generated sources read back

A source that is generated consists of rows that stand for its inputs, so it is read as these:
`read_generate`.
-/

namespace LocaleGen

open Text Layout

namespace Artifact

variable {target : Target}

/-! ## Sections -/

/-- An accessor that is made for a phrase. -/
structure IsMember (target : Target) (phrase : Text × Text) (m : Member) : Prop where
  name : Naming.accessorName target.namingRules phrase.1 = .ok m.name
  key : target.stringLiteral phrase.1 = .ok m.key
  default : target.stringLiteral phrase.2 = .ok m.default

theorem members_eq_ok {names : List Text} {phrases : List (Text × Text)} {ms : List Member}
    (hnames : List.Forall₂ (fun phrase name => Naming.accessorName target.namingRules phrase.1 =
      .ok name) phrases names)
    (h : members target names phrases = .ok ms) : List.Forall₂ (IsMember target) phrases ms := by
  induction hnames generalizing ms with
  | nil =>
    cases h
    exact .nil
  | cons hname _ ih =>
    simp only [members, bind_eq_ok] at h
    obtain ⟨key, hkey, text, htext, more, hmore, heq⟩ := h
    cases heq
    exact .cons ⟨hname, hkey, htext⟩ (ih hmore)

/-- What a section that is emitted consists of. -/
theorem sectionBlock_eq_ok {type key block : Text} {phrases : Phrases}
    (h : sectionBlock target type key phrases = .ok block) :
    ∃ names ms keyLiteral, Naming.resolveMembers target.namingRules key phrases.keys = .ok names ∧
      List.Forall₂ (IsMember target) phrases.entries ms ∧
      target.stringLiteral key = .ok keyLiteral ∧
      block = target.spell (.sectionClass type keyLiteral ms) := by
  simp only [sectionBlock, bind_eq_ok, mapError_eq_ok] at h
  obtain ⟨names, hnames, ms, hms, keyLiteral, hkey, heq⟩ := h
  cases heq
  have haccessors := List.forall₂_map_left_iff.mp (Naming.resolveMembersAfter_eq_ok hnames)
  exact ⟨names, ms, keyLiteral, hnames, members_eq_ok haccessors hms, hkey, rfl⟩

theorem IsMember.isRow {phrase : Text × Text} {m : Member} (h : IsMember target phrase m) :
    IsRow target target.layout.member memberOf? (target.layout.member.fill [m.name, m.key, m.default])
      (m.name, phrase.1, phrase.2) := by
  obtain ⟨a, b, c, hgaps⟩ : ∃ a b c, target.layout.member.gaps =
      [(.name, a), (.literal, b), (.literal, c)] := by
    cases target <;> exact ⟨_, _, _, rfl⟩
  refine ⟨_, [.name m.name, .literal phrase.1, .literal phrase.2], rfl, ?_, rfl⟩
  rw [hgaps]
  exact .cons (spells_name (Naming.accessorName_eq_ok h.name).2.2)
    (.cons (spells_stringLiteral h.key)
    (.cons (spells_stringLiteral h.default) .nil))

theorem isRow_sectionHead {type key keyLiteral : Text} (htype : target.isTypeName type = true)
    (hkey : target.stringLiteral key = .ok keyLiteral) :
    IsRow target target.layout.sectionHead sectionOf?
      (target.layout.sectionHead.fill (target.sectionPieces type keyLiteral)) (type, key) := by
  have hname := spells_name (isIdentifier_of_isTypeName htype)
  have hliteral := spells_stringLiteral hkey
  cases target with
  | dart =>
    exact ⟨_, [.name type, .name type, .literal key], rfl,
      .cons hname (.cons hname (.cons hliteral .nil)),
      by simp [sectionOf?]⟩
  | python => exact ⟨_, [.name type, .literal key], rfl, .cons hname (.cons hliteral .nil), rfl⟩

/-- A section that is emitted stands for what should be read of it. -/
theorem sectionBlock_isSection {n : Naming.SectionNames} {key block : Text} {phrases : Phrases}
    (hn : Naming.sectionNames target.namingRules key = .ok n)
    (h : sectionBlock target n.typeName key phrases = .ok block) :
    ∃ s, Reading.expectedSection target.namingRules key phrases = .ok s ∧
    IsSection target (block ++ "\n") s := by
  obtain ⟨names, ms, keyLiteral, -, hmembers, hkey, rfl⟩ := sectionBlock_eq_ok h
  obtain ⟨rows, hexpected, hrows⟩ := forall₂_exists
    (S := fun phrase row =>
      (do .ok ((← Naming.accessorName target.namingRules phrase.1), phrase.1, phrase.2)) =
      (.ok row : Except Cause (Text × Text × Text)))
    (T := fun m row => IsRow target target.layout.member memberOf?
      (target.layout.member.fill [m.name, m.key, m.default]) row)
    (fun phrase m hm => ⟨(m.name, phrase.1, phrase.2), by rw [hm.name]; rfl, hm.isRow⟩) hmembers
  refine ⟨⟨n.typeName, key, rows⟩, ?_, ?_⟩
  · exact bind_eq_ok.mpr ⟨n, hn, bind_eq_ok.mpr ⟨rows, mapM_eq_ok.mpr hexpected, rfl⟩⟩
  · exact ⟨_, _, target.spell_sectionClass n.typeName keyLiteral ms,
      isRow_sectionHead (Naming.sectionNames_eq_ok hn).2.2.1 hkey,
        List.forall₂_map_left_iff.mpr hrows⟩

theorem sectionBlocks_eq_ok {document : Document} {entries : List (Text × Phrases)}
    {ns : List Naming.SectionNames} {blocks : List Text}
    (hentries : ∀ e ∈ entries, e ∈ document.sections.entries)
    (hns : List.Forall₂ (fun e n => Naming.sectionNames target.namingRules e.1 = .ok n) entries ns)
    (h : sectionBlocks target document ns = .ok blocks) :
    List.Forall₂ (fun e block => ∃ s, Reading.expectedSection target.namingRules e.1 e.2 = .ok s ∧
      IsSection target (block ++ "\n") s) entries blocks := by
  induction hns generalizing blocks with
  | nil =>
    cases h
    exact .nil
  | @cons e n _ _ hn _ ih =>
    have hkey : n.key = e.1 := by rw [(Naming.sectionNames_eq_ok hn).2.1]
    have hphrases : document.sections.get? e.1 = some e.2 :=
      Dict.get?_of_mem (hentries e List.mem_cons_self)
    simp only [sectionBlocks, bind_eq_ok, hkey, hphrases, Option.getD_some] at h
    obtain ⟨block, hblock, more, hmore, heq⟩ := h
    cases heq
    exact .cons (sectionBlock_isSection hn hblock)
      (ih (fun e he => hentries e (List.mem_cons_of_mem _ he)) hmore)

/-! ## The other rows -/

theorem isRow_field {key : Text} {n : Naming.SectionNames}
    (h : Naming.sectionNames target.namingRules key = .ok n) :
    IsRow target target.layout.field fieldOf? (target.layout.field.fill [n.fieldName, n.typeName])
      (n.fieldName, n.typeName) := by
  obtain ⟨a, b, hgaps⟩ : ∃ a b, target.layout.field.gaps = [(.name, a), (.name, b)] := by
    cases target <;> exact ⟨_, _, rfl⟩
  obtain ⟨-, -, htype, hfield⟩ := Naming.sectionNames_eq_ok h
  refine ⟨_, [.name n.fieldName, .name n.typeName], rfl, ?_, rfl⟩
  rw [hgaps]
  exact .cons (spells_name hfield) (.cons (spells_name (isIdentifier_of_isTypeName htype)) .nil)

theorem isRow_literals {α : Type} {template : Template} {of? : List Field → Option α}
    {s t sLiteral tLiteral : Text} {a : α}
    (hgaps : ∃ b c, template.gaps = [(.literal, b), (.literal, c)])
    (hs : Spells target.lexis target.isPlain .literal sLiteral (.literal s))
    (ht : Spells target.lexis target.isPlain .literal tLiteral (.literal t))
    (hof : of? [.literal s, .literal t] = some a) :
    IsRow target template of? (template.fill [sLiteral, tLiteral]) a := by
  obtain ⟨b, c, hgaps⟩ := hgaps
  refine ⟨_, _, rfl, ?_, hof⟩
  rw [hgaps]
  exact .cons hs (.cons ht .nil)

theorem config_isRow {credentials : Credentials} {text : Text}
    (h : config target credentials = .ok text) :
    IsRow target target.layout.config credentialsOf? (text ++ "\n") credentials := by
  simp only [config, bind_eq_ok] at h
  obtain ⟨projectId, hproject, apiKey, hkey, heq⟩ := h
  cases heq
  rw [Target.spell_config]
  exact isRow_literals (by cases target <;> exact ⟨_, _, rfl⟩) (spells_stringLiteral hproject)
    (spells_stringLiteral hkey) rfl

theorem languageEntry_isRow {e : IndexEntry} {text : Text} (h : languageEntry target e = .ok text) :
    IsRow target target.layout.language languageOf? (text ++ "\n") (e.id, e.language) := by
  simp only [languageEntry, bind_eq_ok] at h
  obtain ⟨name, hname, locale, hlocale, direction, hdirection, heq⟩ := h
  cases heq
  obtain ⟨a, b, c, d, e', f, g, hgaps⟩ : ∃ a b c d e f g,
      target.layout.language.gaps = languageGaps a b c d e f g := by
    cases target <;> exact ⟨_, _, _, _, _, _, _, rfl⟩
  rw [Target.spell_languageEntry]
  refine ⟨_, [.whole e.id, .whole e.language.id, .literal e.language.name, .literal e.language.locale,
    .literal e.language.direction, .flag e.language.isDefault, .flag e.language.isBestFit],
      rfl, ?_, rfl⟩
  rw [hgaps]
  exact .cons (spells_whole target _) (.cons (spells_whole target _) (.cons (spells_stringLiteral hname)
    (.cons (spells_stringLiteral hlocale)
      (.cons (spells_stringLiteral hdirection) (.cons (spells_flag target _)
    (.cons (spells_flag target _) .nil))))))

theorem embeds_isRow {payloads : Dict Text Text} {e : IndexEntry} {pair : Text × Text}
    (h : Embeds target payloads e pair) :
    ∃ row, ((payloads.get? e.language.locale).map fun payload =>
      (e.language.locale, payload)) = some row ∧
      IsRow target target.layout.payload payloadOf? (target.layout.payload.fill [pair.1, pair.2]) row := by
  obtain ⟨payload, hpayload, hlocale, hliteral⟩ := h
  refine ⟨(e.language.locale, payload), by rw [hpayload]; rfl, ?_⟩
  exact isRow_literals (by cases target <;> exact ⟨_, _, rfl⟩) (spells_stringLiteral hlocale)
    (spells_payloadLiteral hliteral) rfl

/-! ## Whole sources -/

theorem join_append_line {lines : List Text} (h : lines ≠ []) :
    Text.join "\n" lines ++ "\n" = unlines lines := by
  fun_induction Text.join "\n" lines with
  | case1 => exact absurd rfl h
  | case2 piece => simp
  | case3 piece rest hrest ih =>
    have hne : rest ≠ [] := hrest
    rw [List.append_assoc, ih hne, unlines_cons, List.append_assoc]

theorem join_ne_nil {lines : List Text} (h : lines ≠ []) (hlines : ∀ t ∈ lines, t ≠ []) :
    Text.join "\n" lines ≠ [] := by
  fun_cases Text.join "\n" lines with
  | case1 => exact absurd rfl h
  | case2 piece => exact hlines piece List.mem_cons_self
  | case3 piece rest => simp [hlines piece List.mem_cons_self]

/-- The blocks with an empty line after each of them but the last, the sections being blocks of
their own. -/
theorem join_blocks {header localization config languages bundle facade : Text}
    {sections : List Text} (hsections : ∀ t ∈ sections, t ≠ [])
    (hblocks : ∀ b ∈ [header, localization, config, languages, bundle, facade], b ≠ []) :
    Text.join "\n" ([header, Text.join "\n" sections, localization, config, languages, bundle,
      facade].filter
        fun b => !b.isEmpty) =
      header ++ "\n" ++ (unlines sections ++
        (localization ++ "\n" ++ (config ++ "\n" ++ (languages ++ "\n" ++
        (bundle ++ "\n" ++ facade))))) := by
  simp only [List.forall_mem_cons] at hblocks
  obtain ⟨hheader, hlocalization, hconfig, hlanguages, hbundle, hfacade, -⟩ := hblocks
  by_cases hnil : sections = []
  · subst hnil
    simp [*, Text.join]
  · rw [← join_append_line hnil]
    have hne := join_ne_nil hnil hsections
    simp [*, Text.join]

theorem sectionBlock_ne_nil {type key block : Text} {phrases : Phrases}
    (h : sectionBlock target type key phrases = .ok block) : block ≠ [] := by
  simp only [sectionBlock, bind_eq_ok] at h
  obtain ⟨_, _, _, _, _, _, heq⟩ := h
  cases heq
  exact target.spell_ne_nil _

theorem sectionBlocks_ne_nil {document : Document} {ns : List Naming.SectionNames}
    {texts : List Text} (h : sectionBlocks target document ns = .ok texts) :
    ∀ t ∈ texts, t ≠ [] := by
  induction ns generalizing texts with
  | nil =>
    cases h
    simp
  | cons n rest ih =>
    simp only [sectionBlocks, bind_eq_ok] at h
    obtain ⟨block, hblock, more, hmore, heq⟩ := h
    cases heq
    exact List.forall_mem_cons.mpr ⟨sectionBlock_ne_nil hblock, ih hmore⟩

theorem sections_eq_ok {document : Document} {text : Text}
    (h : sections target document = .ok text) :
    ∃ ns texts, sectionNames target document = .ok ns ∧
    sectionBlocks target document ns = .ok texts ∧
      text = Text.join "\n" texts := by
  simp only [sections, bind_eq_ok, mapError_eq_ok] at h
  obtain ⟨ns, hns, texts, htexts, heq⟩ := h
  cases heq
  exact ⟨ns, texts, hns, htexts, rfl⟩

theorem languages_eq_ok {entries : List IndexEntry} {text : Text}
    (h : languages target entries = .ok text) :
    ∃ texts, List.Forall₂ (fun e text => languageEntry target e = .ok text) entries texts ∧
      text = target.spell (.languageList texts) := by
  unfold languages at h
  split at h
  · obtain ⟨texts, htexts, heq⟩ := bind_eq_ok.mp h
    cases heq
    exact ⟨texts, mapM_eq_ok.mp htexts, rfl⟩
  · cases h

theorem config_ne_nil {credentials : Credentials} {text : Text}
    (h : config target credentials = .ok text) : text ≠ [] := by
  simp only [config, bind_eq_ok] at h
  obtain ⟨_, _, _, _, heq⟩ := h
  cases heq
  exact target.spell_ne_nil _

def rowsOf (target : Target) (sections : List Text) (ns : List Naming.SectionNames) (config : Text)
    (languages : List Text) (pairs : List (Text × Text)) : Rows where
  sections := sections.map fun t => t ++ "\n"
  fields := ns.map fun n => target.layout.field.fill [n.fieldName, n.typeName]
  config := config ++ "\n"
  languages := languages.map fun t => t ++ "\n"
  payloads := pairs.map fun pair => target.layout.payload.fill [pair.1, pair.2]

theorem text_rowsOf {sections languages : List Text} {ns : List Naming.SectionNames} {config : Text}
    {pairs : List (Text × Text)} (hsections : ∀ t ∈ sections, t ≠ []) (hconfig : config ≠ []) :
    Text.join "\n" ([target.spell .header, Text.join "\n" sections,
        target.spell (.localizationClass (ns.map fun n => (n.fieldName, n.typeName))), config,
        target.spell (.languageList languages), target.spell (.bundle pairs),
        target.spell .facade].filter
        fun b => !b.isEmpty) = (rowsOf target sections ns config languages pairs).text target := by
  rw [join_blocks hsections (by simp [target.spell_ne_nil, hconfig]), target.spell_header,
    target.spell_localizationClass, target.spell_languageList, target.spell_bundle,
      target.spell_facade]
  simp only [Rows.text, rowsOf, fieldsText, unlines, List.flatMap_def, List.append_assoc,
    List.map_map,
    List.map_eq_nil_iff, Function.comp_def]

/-- What is read in a source that has been generated is what should be, in the order of the inputs:
the type name, the key and the accessors of every section, the fields of the facade, the
credentials, the languages, and the payload of every language. Nothing is left over. -/
theorem read_generate {target : Target} {i : Inputs} {text : Text}
    (h : generate target i = .ok text) :
    ∃ r, Reading.expected target i = .ok r ∧ target.read text = some r := by
  simp only [generate, blocks, bind_eq_ok, mapError_eq_ok] at h
  obtain ⟨_, ⟨sectionsText, hsections, localizationText, hlocalization, configText, hconfig,
    languagesText, hlanguages, bundleText, hbundle, heq⟩, htext⟩ := h
  cases heq
  cases htext
  obtain ⟨ns, sectionTexts, hns, hsectionTexts, rfl⟩ := sections_eq_ok hsections
  obtain ⟨languageTexts, hlanguageTexts, rfl⟩ := languages_eq_ok hlanguages
  simp only [localization, bind_eq_ok] at hlocalization
  obtain ⟨ns', hns', heq⟩ := hlocalization
  cases heq
  cases hns.symm.trans hns'
  simp only [bundle, bind_eq_ok] at hbundle
  obtain ⟨pairs, hpairs, heq⟩ := hbundle
  cases heq
  -- What stands in each place, and the rows that stand for it.
  have hnames := List.forall₂_map_left_iff.mp (Naming.resolveSectionsAfter_eq_ok hns)
  obtain ⟨sections, hexpected, hsectionRows⟩ :=
    forall₂_exists (fun _ _ h => h) (sectionBlocks_eq_ok (fun _ he => he) hnames hsectionTexts)
  obtain ⟨fields, hexpectedFields, hfieldRows⟩ := forall₂_exists
    (S := fun key field => Reading.expectedField target.namingRules key = .ok field)
    (T := fun (n : Naming.SectionNames) field => IsRow target target.layout.field fieldOf?
      (target.layout.field.fill [n.fieldName, n.typeName]) field)
    (fun key n hn => ⟨(n.fieldName, n.typeName), bind_eq_ok.mpr ⟨n, hn, rfl⟩, isRow_field hn⟩)
    (Naming.resolveSectionsAfter_eq_ok hns)
  obtain ⟨-, -, hembeds⟩ := bundleEntries_eq_ok.mp hpairs
  obtain ⟨bundle, hexpectedBundle, hpayloadRows⟩ :=
    forall₂_exists (fun _ _ h => embeds_isRow h) hembeds
  refine ⟨⟨sections, fields, i.credentials, i.languages.map fun e => (e.id, e.language), bundle⟩,
    ?_, ?_⟩
  · refine bind_eq_ok.mpr ⟨sections, mapM_eq_ok.mpr hexpected,
      bind_eq_ok.mpr ⟨fields, mapM_eq_ok.mpr hexpectedFields, ?_⟩⟩
    rw [← filterMap_eq_of_forall₂ hexpectedBundle]
  · rw [text_rowsOf (sectionBlocks_ne_nil hsectionTexts) (config_ne_nil hconfig)]
    exact Rows.Stand.read {
      sections := List.forall₂_map_left_iff.mpr hsectionRows
      fields := List.forall₂_map_left_iff.mpr hfieldRows
      config := config_isRow hconfig
      languages := List.forall₂_map_left_iff.mpr (List.forall₂_map_right_iff.mpr
        (hlanguageTexts.flip.imp fun _ _ h => languageEntry_isRow h))
      payloads := List.forall₂_map_left_iff.mpr hpayloadRows }

/-- Inputs whose texts all hold something that a literal has to escape. -/
def quotingInputs : Inputs where
  credentials := ⟨"pro\"ject", "$key"⟩
  document := ⟨.ofList [("default", .ofList [("title", "\"$\\x00'''")])]⟩
  languages := [⟨1, none, none, false, ⟨2, "\n", "en-GB", "LRM", true, false⟩⟩]
  payloads := .ofList [("en-GB", "'''\n_nstack = 1\nr'''")]

theorem read_generate_quotingInputs : ∃ text r, generate .python quotingInputs = .ok text ∧
    Reading.expected .python quotingInputs = .ok r ∧ Target.python.read text = some r := by
  have hok : (generate .python quotingInputs).isOk = true := by decide +kernel
  cases htext : generate .python quotingInputs with
  | error fault =>
    rw [htext] at hok
    cases hok
  | ok text =>
    obtain ⟨r, hexpected, hread⟩ := read_generate htext
    exact ⟨text, r, rfl, hexpected, hread⟩

end Artifact

end LocaleGen
