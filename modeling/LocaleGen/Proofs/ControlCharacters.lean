import LocaleGen.Proofs.Emission
import Mathlib

/-!
# Control characters in generated sources

A character of a generated source stands in the fixed words of its target, in a piece that fills a
gap, or in the literal of a payload (`Artifact.mem_generate`). NUL is in no fixed words and in no
piece: names and numbers do not hold it, and literals by escapes write it otherwise. So it comes
from the raw literal of a payload, which in Python never holds it and in Dart may:
`Artifact.control_mem_generate`.
-/

namespace LocaleGen

/-! ## Fixed words and pieces -/

def Template.wording (template : Template) : Text :=
  template.opening ++ template.gaps.flatMap Prod.snd

def Layout.wording (layout : Layout) : Text :=
  layout.texts.flatten ++ layout.templates.flatMap Template.wording

/-- What a target writes into a gap, the literals of payloads apart. -/
inductive Piece (target : Target) : Text → Prop where
  | name {t : Text} : target.isIdentifier t = true → Piece target t
  | literal {t literal : Text} : target.stringLiteral t = .ok literal → Piece target literal
  | whole (i : Int) : Piece target (Target.intLiteral i)
  | flag (b : Bool) : Piece target (target.boolLiteral b)

def Target.Writes (target : Target) (c : CodePoint) : Prop :=
  c ∈ target.layout.wording ∨ ∃ piece, Piece target piece ∧ c ∈ piece

section

variable {target : Target} {template : Template} {c : CodePoint}

theorem Template.mem_fillGaps {gaps : List (Kind × Text)} {pieces : List Text}
    (h : c ∈ fillGaps gaps pieces) : c ∈ gaps.flatMap Prod.snd ∨ ∃ piece ∈ pieces, c ∈ piece := by
  fun_induction fillGaps gaps pieces with
  | case1 kind after gaps piece pieces ih =>
    simp only [List.mem_append] at h
    rcases h with h | h | h
    · exact .inr ⟨piece, by simp, h⟩
    · exact .inl (by simp [h])
    · rcases ih h with h | ⟨other, hother, h⟩
      · exact .inl (by rw [List.flatMap_cons]; exact List.mem_append_right _ h)
      · exact .inr ⟨other, by simp [hother], h⟩
  | case2 => cases h

theorem Template.mem_fill {pieces : List Text} (h : c ∈ template.fill pieces) :
    c ∈ template.wording ∨ ∃ piece ∈ pieces, c ∈ piece := by
  rcases List.mem_append.mp h with h | h
  · exact .inl (List.mem_append_left _ h)
  · exact (mem_fillGaps h).imp_left (List.mem_append_right _)

theorem mem_wording_of_template (hmem : template ∈ target.layout.templates)
    (h : c ∈ template.wording) : c ∈ target.layout.wording :=
  List.mem_append_right _ (List.mem_flatMap.mpr ⟨template, hmem, h⟩)

theorem mem_wording_of_text {t : Text} (hmem : t ∈ target.layout.texts) (h : c ∈ t) :
    c ∈ target.layout.wording :=
  List.mem_append_left _ (List.mem_flatten.mpr ⟨t, hmem, h⟩)

theorem Target.writes_of_text {t : Text} (hmem : t ∈ target.layout.texts) (h : c ∈ t) :
    target.Writes c :=
  .inl (mem_wording_of_text hmem h)

theorem Target.writes_of_fill {pieces : List Text} (hmem : template ∈ target.layout.templates)
    (hpieces : ∀ piece ∈ pieces, Piece target piece) (h : c ∈ template.fill pieces) :
    target.Writes c := by
  rcases Template.mem_fill h with h | ⟨piece, hpiece, h⟩
  · exact .inl (mem_wording_of_template hmem h)
  · exact .inr ⟨piece, hpieces piece hpiece, h⟩

/-! ## No NUL is written -/

theorem Dart.nul_notMem_image (c : CodePoint) : CodePoint.ofChar '\x00' ∉ escapeRules.image c := by
  by_cases hc : [c] ∈ escapeRules.replaced
  · rcases mem_replaced.mp hc with rfl | rfl | rfl | rfl | rfl | rfl <;> decide
  · rw [image_unlisted hc, List.mem_singleton]
    rintro rfl
    exact hc (mem_replaced.mpr (by simp))

theorem Dart.nul_notMem_stringLiteral {t literal : Text} (h : stringLiteral t = .ok literal) :
    CodePoint.ofChar '\x00' ∉ literal := by
  obtain ⟨-, rfl⟩ := stringLiteral_eq_ok.mp h
  have hquote : CodePoint.ofChar '\x00' ∉ ("\"" : Text) := by decide
  simp only [List.mem_append, not_or]
  refine ⟨⟨hquote, fun hbody => ?_⟩, hquote⟩
  obtain ⟨d, -, hd⟩ := mem_escaped.mp hbody
  exact nul_notMem_image d hd

theorem nul_notMem_of_isPlain {t : Text} (h : t.all Target.python.isPlain = true) :
    CodePoint.ofChar '\x00' ∉ t := by
  intro hmem
  cases List.all_eq_true.mp h _ hmem

theorem nul_notMem_stringLiteral {t literal : Text} (h : target.stringLiteral t = .ok literal) :
    CodePoint.ofChar '\x00' ∉ literal := by
  cases target with
  | dart => exact Dart.nul_notMem_stringLiteral (mapError_eq_ok.mp h)
  | python => exact nul_notMem_of_isPlain (spells_stringLiteral h).plain

theorem nul_notMem_name {name : Text} (h : target.isIdentifier name = true) :
    CodePoint.ofChar '\x00' ∉ name := by
  intro hmem
  have hpart := List.all_eq_true.mp (all_of_isIdentifier h).2.1 _ hmem
  cases target <;> revert hpart <;> decide +kernel

theorem nul_notMem_piece {piece : Text} (h : Piece target piece) :
    CodePoint.ofChar '\x00' ∉ piece := by
  cases h with
  | name h => exact nul_notMem_name h
  | literal h => exact nul_notMem_stringLiteral h
  | whole i =>
    -- numerals are the same for both targets, and for Python they are plain
    exact nul_notMem_of_isPlain (spells_whole .python i).plain
  | flag b => cases target <;> cases b <;> decide

theorem isPlain_of_mem_wording (h : c ∈ target.layout.wording) : target.isPlain c = true := by
  rcases List.mem_append.mp h with h | h
  · obtain ⟨t, ht, h⟩ := List.mem_flatten.mp h
    exact List.all_eq_true.mp (isPlain_of_mem ht) c h
  · obtain ⟨template, ht, h⟩ := List.mem_flatMap.mp h
    have hsound := isSound_of_mem ht
    simp only [Template.isSound, Bool.and_eq_true] at hsound
    rcases List.mem_append.mp h with h | h
    · exact List.all_eq_true.mp hsound.1.2 c h
    · obtain ⟨gap, hgap, h⟩ := List.mem_flatMap.mp h
      have hafter := List.all_eq_true.mp hsound.2 gap hgap
      simp only [Bool.and_eq_true] at hafter
      exact List.all_eq_true.mp hafter.1 c h

theorem nul_notMem_wording : CodePoint.ofChar '\x00' ∉ target.layout.wording := by
  cases target with
  | dart => decide +kernel
  | python =>
    intro h
    cases isPlain_of_mem_wording h

theorem Target.not_writes_nul : ¬ target.Writes (CodePoint.ofChar '\x00') := by
  rintro (h | ⟨piece, hpiece, h⟩)
  · exact nul_notMem_wording h
  · exact nul_notMem_piece hpiece h

end

/-! ## Where the characters of a source come from -/

namespace Artifact

variable {target : Target} {i : Inputs} {text : Text} {c : CodePoint}

theorem writes_of_sectionBlock {n : Naming.SectionNames} {key block : Text} {phrases : Phrases}
    (hn : Naming.sectionNames target.namingRules key = .ok n)
    (h : sectionBlock target n.typeName key phrases = .ok block) (hc : c ∈ block ++ "\n") :
    target.Writes c := by
  obtain ⟨names, ms, keyLiteral, -, hmembers, hkey, rfl⟩ := sectionBlock_eq_ok h
  have htype : Piece target n.typeName :=
    .name (isIdentifier_of_isTypeName (Naming.sectionNames_eq_ok hn).2.2.1)
  rw [Target.spell_sectionClass, List.mem_append, List.mem_append] at hc
  rcases hc with hc | hc | hc
  · refine Target.writes_of_fill (by simp [Layout.templates]) (fun piece hpiece => ?_) hc
    have hpiece : piece = n.typeName ∨ piece = keyLiteral := by
      cases target <;> simpa [Target.sectionPieces] using hpiece
    rcases hpiece with rfl | rfl
    · exact htype
    · exact .literal hkey
  · simp only [List.mem_flatten, List.mem_map] at hc
    obtain ⟨_, ⟨m, hm, rfl⟩, hc⟩ := hc
    obtain ⟨phrase, -, hphrase⟩ := exists_of_mem_left hmembers.flip hm
    refine Target.writes_of_fill (by simp [Layout.templates]) (fun piece hpiece => ?_) hc
    simp only [List.mem_cons, List.not_mem_nil, or_false] at hpiece
    rcases hpiece with rfl | rfl | rfl
    · exact .name (Naming.accessorName_eq_ok hphrase.name).2.2
    · exact .literal hphrase.key
    · exact .literal hphrase.default
  · exact Target.writes_of_text (by simp [Layout.texts]) hc

theorem writes_of_sectionBlocks {document : Document} {keys : List Text}
    {ns : List Naming.SectionNames} {blocks : List Text}
    (hns : List.Forall₂ (fun key n => Naming.sectionNames target.namingRules key = .ok n) keys ns)
    (h : sectionBlocks target document ns = .ok blocks)
    (hc : c ∈ (blocks.map fun (t : Text) => t ++ "\n").flatten) : target.Writes c := by
  induction hns generalizing blocks with
  | nil =>
    cases h
    cases hc
  | @cons key n keys ns hn _ ih =>
    simp only [sectionBlocks, bind_eq_ok] at h
    obtain ⟨block, hblock, more, hmore, heq⟩ := h
    cases heq
    rw [List.map_cons, List.flatten_cons, List.mem_append] at hc
    rcases hc with hc | hc
    · have hkey : n.key = key := by rw [(Naming.sectionNames_eq_ok hn).2.1]
      rw [hkey] at hblock
      exact writes_of_sectionBlock hn hblock hc
    · exact ih hmore hc

theorem writes_of_fields {keys : List Text} {ns : List Naming.SectionNames}
    (hns : List.Forall₂ (fun key n => Naming.sectionNames target.namingRules key = .ok n) keys ns)
    (hc : c ∈ fieldsText target (ns.map fun n => target.layout.field.fill [n.fieldName, n.typeName])) :
    target.Writes c := by
  unfold fieldsText at hc
  split at hc
  · exact Target.writes_of_text (by simp [Layout.texts]) hc
  · simp only [List.mem_flatten, List.mem_map] at hc
    obtain ⟨_, ⟨n, hn, rfl⟩, hc⟩ := hc
    obtain ⟨key, -, hkey⟩ := exists_of_mem_left hns.flip hn
    obtain ⟨-, -, htype, hfield⟩ := Naming.sectionNames_eq_ok hkey
    refine Target.writes_of_fill (by simp [Layout.templates]) (fun piece hpiece => ?_) hc
    simp only [List.mem_cons, List.not_mem_nil, or_false] at hpiece
    rcases hpiece with rfl | rfl
    · exact .name hfield
    · exact .name (isIdentifier_of_isTypeName htype)

theorem writes_of_config {credentials : Credentials} {t : Text}
    (h : config target credentials = .ok t) (hc : c ∈ t ++ "\n") : target.Writes c := by
  simp only [config, bind_eq_ok] at h
  obtain ⟨projectId, hproject, apiKey, hkey, heq⟩ := h
  cases heq
  rw [Target.spell_config] at hc
  refine Target.writes_of_fill (by simp [Layout.templates]) (fun piece hpiece => ?_) hc
  simp only [List.mem_cons, List.not_mem_nil, or_false] at hpiece
  rcases hpiece with rfl | rfl
  · exact .literal hproject
  · exact .literal hkey

theorem writes_of_languageEntry {e : IndexEntry} {t : Text} (h : languageEntry target e = .ok t)
    (hc : c ∈ t ++ "\n") : target.Writes c := by
  simp only [languageEntry, bind_eq_ok] at h
  obtain ⟨name, hname, locale, hlocale, direction, hdirection, heq⟩ := h
  cases heq
  rw [Target.spell_languageEntry] at hc
  refine Target.writes_of_fill (by simp [Layout.templates]) (fun piece hpiece => ?_) hc
  simp only [List.mem_cons, List.not_mem_nil, or_false] at hpiece
  rcases hpiece with rfl | rfl | rfl | rfl | rfl | rfl | rfl
  · exact .whole _
  · exact .whole _
  · exact .literal hname
  · exact .literal hlocale
  · exact .literal hdirection
  · exact .flag _
  · exact .flag _

def IsPayloadLiteral (target : Target) (i : Inputs) (literal : Text) : Prop :=
  ∃ e ∈ i.languages, ∃ payload, i.payloads.get? e.language.locale = some payload ∧
    target.payloadLiteral payload = .ok literal

theorem mem_of_bundleEntries {pairs : List (Text × Text)}
    (hpairs : bundleEntries target i.payloads [] i.languages = .ok pairs)
    (hc : c ∈ (pairs.map fun pair => target.layout.payload.fill [pair.1, pair.2]).flatten) :
    target.Writes c ∨ ∃ literal, IsPayloadLiteral target i literal ∧ c ∈ literal := by
  obtain ⟨-, -, hembeds⟩ := bundleEntries_eq_ok.mp hpairs
  simp only [List.mem_flatten, List.mem_map] at hc
  obtain ⟨_, ⟨pair, hpair, rfl⟩, hc⟩ := hc
  obtain ⟨e, he, payload, hpayload, hlocale, hliteral⟩ := exists_of_mem_left hembeds.flip hpair
  rcases Template.mem_fill hc with hc | ⟨piece, hpiece, hc⟩
  · exact .inl (.inl (mem_wording_of_template (by simp [Layout.templates]) hc))
  · simp only [List.mem_cons, List.not_mem_nil, or_false] at hpiece
    rcases hpiece with rfl | rfl
    · exact .inl (.inr ⟨_, .literal hlocale, hc⟩)
    · exact .inr ⟨_, ⟨e, he, payload, hpayload, hliteral⟩, hc⟩

/-- Where a character of a generated source comes from. -/
theorem mem_generate (h : generate target i = .ok text) (hc : c ∈ text) :
    target.Writes c ∨ ∃ literal, IsPayloadLiteral target i literal ∧ c ∈ literal := by
  obtain ⟨ns, sections, config, languages, pairs, hns, hsections, hconfig, hlanguages, hpairs,
    rfl⟩ := generate_eq_ok h
  have hnames := Naming.resolveSectionsAfter_eq_ok hns
  simp only [Rows.text, rowsOf, List.mem_append] at hc
  have fixed : ∀ t ∈ target.layout.texts, c ∈ t → target.Writes c := fun t => Target.writes_of_text
  simp only [Layout.texts, List.forall_mem_cons] at fixed
  obtain ⟨header, -, localization, -, localizationEnd, languagesHead, languagesEnd, bundleHead,
      bundleEnd, facade, -⟩ :=
    fixed
  rcases hc with hc | hc | hc | hc | hc | hc | hc | hc | hc | hc | hc | hc | hc
  · exact .inl (header hc)
  · exact .inl (writes_of_sectionBlocks hnames hsections hc)
  · exact .inl (localization hc)
  · exact .inl (writes_of_fields hnames hc)
  · exact .inl (localizationEnd hc)
  · exact .inl (writes_of_config hconfig (List.mem_append.mpr hc))
  · exact .inl (languagesHead hc)
  · simp only [List.mem_flatten, List.mem_map] at hc
    obtain ⟨_, ⟨t, ht, rfl⟩, hc⟩ := hc
    obtain ⟨e, -, he⟩ := exists_of_mem_left hlanguages.flip ht
    exact .inl (writes_of_languageEntry he hc)
  · exact .inl (languagesEnd hc)
  · exact .inl (bundleHead hc)
  · exact mem_of_bundleEntries hpairs hc
  · exact .inl (bundleEnd hc)
  · exact .inl (facade hc)

theorem payloadLiteral_subset_generate (h : generate target i = .ok text) {e : IndexEntry}
    (he : e ∈ i.languages) {payload : Text}
    (hpayload : i.payloads.get? e.language.locale = some payload) :
    ∃ literal, target.payloadLiteral payload = .ok literal ∧ literal ⊆ text := by
  obtain ⟨ns, sections, config, languages, pairs, -, -, -, -, hpairs, rfl⟩ := generate_eq_ok h
  obtain ⟨-, -, hembeds⟩ := bundleEntries_eq_ok.mp hpairs
  obtain ⟨pair, hpair, found, hfound, -, hliteral⟩ := exists_of_mem_left hembeds he
  cases hpayload.symm.trans hfound
  refine ⟨pair.2, hliteral, fun c hc => ?_⟩
  obtain ⟨b, d, hgaps⟩ : ∃ b d, target.layout.payload.gaps = [(.literal, b), (.literal, d)] := by
    cases target <;> exact ⟨_, _, rfl⟩
  have hrow : c ∈ target.layout.payload.fill [pair.1, pair.2] := by
    simp [Template.fill, Template.fillGaps, hgaps, hc]
  have hrows : c ∈ (pairs.map fun pair => target.layout.payload.fill [pair.1, pair.2]).flatten :=
    List.mem_flatten.mpr ⟨_, List.mem_map.mpr ⟨pair, hpair, rfl⟩, hrow⟩
  simp only [Rows.text, rowsOf, List.mem_append, hrows, true_or, or_true]

end Artifact

/-! ## Raw literals -/

/-- What both ways of embedding keep out of a source: of the control characters that escapes write
otherwise, the line feed apart, only NUL gets into a raw literal, and only into one of Dart. -/
theorem mem_raw_of_replaced {target : Target} {payload : Text} {c : CodePoint}
    (hraw : target.canEmbedRaw payload = .ok true) (hreplaced : [c] ∈ target.escapeRules.replaced)
    (hcontrol : c.val < 0x20) (hline : c ≠ CodePoint.ofChar '\n') (hc : c ∈ payload) :
    target = .dart ∧ c = CodePoint.ofChar '\x00' := by
  have hlisted : c = CodePoint.ofChar '\r' ∨ c = CodePoint.ofChar '\x00' := by
    cases target with
    | dart =>
      rcases Dart.mem_replaced.mp hreplaced with rfl | rfl | rfl | rfl | rfl | rfl <;> simp_all
    | python =>
      have hall : c = '\\' ∨ c = '"' ∨ c = '\n' ∨ c = '\r' ∨ c = '\x00' := by
        simpa [Target.escapeRules, Python.escapeRules, EscapeRules.replaced, EscapeRules.table,
          Text.ofString]
          using hreplaced
      rcases hall with rfl | rfl | rfl | rfl | rfl <;> simp_all
  cases target with
  | dart =>
    have hplain := Dart.isPlain_rawLiteral (Except.ok.inj hraw)
    refine ⟨rfl, hlisted.resolve_left fun hreturn => ?_⟩
    have hmem : c ∈ Dart.rawLiteral payload := List.mem_append_left _ (List.mem_append_right _ hc)
    exact Target.ne_return_of_isPlain (List.all_eq_true.mp hplain c hmem) hreturn
  | python =>
    have hplain := Python.isPlain_rawLiteral (Python.canEmbedRaw_eq_true.mp hraw)
    have hmem : c ∈ Python.rawLiteral payload := List.mem_append_left _ (List.mem_append_right _ hc)
    have hc := List.all_eq_true.mp hplain c hmem
    rcases hlisted with rfl | rfl <;> cases hc

theorem Dart.nul_mem_payloadLiteral {payload literal : Text}
    (h : Target.dart.payloadLiteral payload = .ok literal) :
    CodePoint.ofChar '\x00' ∈ literal ↔
    canEmbedRaw payload = true ∧ CodePoint.ofChar '\x00' ∈ payload := by
  rw [payloadLiteral_eq] at h
  split at h
  · next hraw =>
    cases h
    have hopening : CodePoint.ofChar '\x00' ∉ ("r'''" : Text) := by decide
    have hclosing : CodePoint.ofChar '\x00' ∉ ("'''" : Text) := by decide
    simp [rawLiteral, hraw, hopening, hclosing]
  · next hraw =>
    have hnone := nul_notMem_stringLiteral (mapError_eq_ok.mp h)
    simp [hraw, hnone]

namespace Artifact

/-- No generated source holds a carriage return. It holds a NUL just if it is one of Dart and a
payload with a NUL is embedded raw in it; the line feed apart, no other control character that
literals by escapes write otherwise gets into a raw literal, and into one of Python none does. -/
theorem control_mem_generate {target : Target} {i : Inputs} {text : Text}
    (h : generate target i = .ok text) :
    CodePoint.ofChar '\r' ∉ text ∧
    (CodePoint.ofChar '\x00' ∈ text ↔ target = .dart ∧ ∃ e ∈ i.languages, ∃ payload,
      i.payloads.get? e.language.locale = some payload ∧ Dart.canEmbedRaw payload = true ∧
        CodePoint.ofChar '\x00' ∈ payload) ∧
    ∀ (payload : Text) (c : CodePoint), target.canEmbedRaw payload = .ok true →
      [c] ∈ target.escapeRules.replaced → c.val < 0x20 → c ≠ CodePoint.ofChar '\n' → c ∈ payload →
        target = .dart ∧ c = CodePoint.ofChar '\x00' := by
  have hplain := isPlain_of_generate h
  refine ⟨fun hc => Target.ne_return_of_isPlain (List.all_eq_true.mp hplain _ hc) rfl, ?_,
    fun payload c => mem_raw_of_replaced⟩
  constructor
  · intro hnul
    cases target with
    | python => exact absurd hnul (nul_notMem_of_isPlain hplain)
    | dart =>
      obtain ⟨literal, ⟨e, he, payload, hpayload, hliteral⟩, hc⟩ :=
        (mem_generate h hnul).resolve_left Target.not_writes_nul
      obtain ⟨hraw, hmem⟩ := (Dart.nul_mem_payloadLiteral hliteral).mp hc
      exact ⟨rfl, e, he, payload, hpayload, hraw, hmem⟩
  · rintro ⟨rfl, e, he, payload, hpayload, hraw, hmem⟩
    obtain ⟨literal, hliteral, hsubset⟩ := payloadLiteral_subset_generate h he hpayload
    exact hsubset ((Dart.nul_mem_payloadLiteral hliteral).mpr ⟨hraw, hmem⟩)

def nulInputs : Inputs where
  credentials := ⟨"project", "key"⟩
  document := ⟨.ofList [("general", .ofList [("ok", "OK")])]⟩
  languages := [⟨1, none, none, false, ⟨2, "English", "en-GB", "LRM", true, false⟩⟩]
  payloads := .ofList [("en-GB", "a\x00b")]

theorem exists_generate_nulInputs : ∃ text, generate .dart nulInputs = .ok text :=
  isOk_eq_true.mp (by decide +kernel)

theorem control_mem_generate_nulInputs : ∃ text, generate .dart nulInputs = .ok text ∧
    CodePoint.ofChar '\r' ∉ text ∧ CodePoint.ofChar '\x00' ∈ text := by
  obtain ⟨text, htext⟩ := exists_generate_nulInputs
  obtain ⟨hreturn, hnul, -⟩ := control_mem_generate htext
  refine ⟨text, htext, hreturn, hnul.mpr ⟨rfl, _, List.mem_singleton_self _, "a\x00b", ?_⟩⟩
  decide +kernel

/-- The raw literal of the payload brings its NUL into the source. -/
theorem generate_keeps_nul : ∃ text, generate .dart nulInputs = .ok text ∧
    Target.dart.canEmbedRaw "a\x00b" = .ok true ∧ CodePoint.ofChar '\x00' ∈ text := by
  obtain ⟨text, htext⟩ := exists_generate_nulInputs
  have hpayload : nulInputs.payloads.get? "en-GB" = some "a\x00b" := by decide +kernel
  obtain ⟨literal, hliteral, hsubset⟩ :=
    payloadLiteral_subset_generate htext (List.mem_singleton_self _) hpayload
  have hraw : Dart.canEmbedRaw "a\x00b" = true := by decide +kernel
  rw [Dart.payloadLiteral_eq, if_pos hraw] at hliteral
  cases hliteral
  exact ⟨text, htext, congrArg Except.ok hraw, hsubset (by decide +kernel)⟩

end Artifact

end LocaleGen
