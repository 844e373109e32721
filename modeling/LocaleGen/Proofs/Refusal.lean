import LocaleGen.Proofs.Emission
import LocaleGen.Proofs.Naming
import Mathlib

/-!
# Why no source is generated

`Artifact.Refusal` lists why inputs are refused, each reason with the fault that tells it and said
without the generator. A fault always has one of these reasons (`Artifact.explained_generate`):
block by block, a computation is `Explained` if the ones that it consists of are. Where a source is
generated there is no reason (`Artifact.not_refusal_of_generate`), so one is generated just if there
is none: `Artifact.exists_source_iff`.
-/

namespace LocaleGen

open IndexEntry (locales)

/-! ## Literals that cannot be made -/

/-- Evaluating the raw literal of a payload fails with a fault: the payload closes the literal and
goes on with an obstacle. -/
def Python.Obstructs (p : Text) (f : Fault) : Prop :=
  Closing p.normalizeNewlines ∧ ∃ o : Obstacle,
    literalValue (rawLiteral p) = .error (.obstacle o) ∧ f = o.fault

theorem Python.obstructs_of_canEmbedRaw {p : Text} {f : Fault} (h : canEmbedRaw p = .error f) :
    Obstructs p f := by
  refine ⟨?_, canEmbedRaw_eq_error h⟩
  by_contra hclosing
  obtain ⟨raw, hok⟩ := canEmbedRaw_of_not_closing hclosing
  cases h.symm.trans hok

theorem Python.not_obstructs_of_payloadLiteral {p literal : Text} {f : Fault}
    (h : Target.python.payloadLiteral p = .ok literal) : ¬ Obstructs p f := by
  rintro ⟨-, o, hvalue, -⟩
  rw [payloadLiteral_eq, canEmbedRaw, literalEval, hvalue] at h
  cases h

namespace Dart

theorem isScalar_of_stringLiteral {t literal : Text}
    (h : Target.dart.stringLiteral t = .ok literal) : t.IsScalar :=
  (stringLiteral_eq_ok.mp (mapError_eq_ok.mp h)).1

theorem isScalar_of_payloadLiteral {p literal : Text}
    (h : Target.dart.payloadLiteral p = .ok literal) : p.IsScalar := by
  rw [payloadLiteral_eq] at h
  split at h
  · next hraw =>
    simp only [canEmbedRaw, Bool.and_eq_true, Bool.not_eq_true'] at hraw
    intro c hc
    simpa using List.any_eq_false.mp hraw.2 c hc
  · exact isScalar_of_stringLiteral h

end Dart

namespace Target

variable {target : Target} {t : Text} {f : Fault}

theorem stringLiteral_eq_error (h : target.stringLiteral t = .error f) :
    target = .dart ∧ ∃ c ∈ t, c.isSurrogate = true ∧ ∃ place,
    f = .cause (.unembeddable c place) := by
  cases target with
  | dart =>
    obtain ⟨cause, hcause, rfl⟩ := mapError_eq_error.mp h
    by_cases hscalar : t.IsScalar
    · rw [Dart.stringLiteral_of_isScalar hscalar] at hcause
      cases hcause
    · obtain ⟨c, hc, hsurrogate⟩ : ∃ c ∈ t, c.isSurrogate = true := by
        simpa [Text.IsScalar] using hscalar
      obtain ⟨d, hd, hsurrogate, place, hrefused⟩ := Dart.stringLiteral_of_surrogate hc hsurrogate
      cases hcause.symm.trans hrefused
      exact ⟨rfl, d, hd, hsurrogate, place, rfl⟩
  | python =>
    have hok : Target.python.stringLiteral t = .ok (Python.literalOf t) := Python.stringLiteral_eq t
    rw [hok] at h
    cases h

theorem payloadLiteral_eq_error (h : target.payloadLiteral t = .error f) :
    target.stringLiteral t = .error f ∨ target = .python ∧ Python.Obstructs t f := by
  cases target with
  | dart =>
    rw [Dart.payloadLiteral_eq] at h
    split at h
    · cases h
    · exact .inl h
  | python =>
    rw [Python.payloadLiteral_eq] at h
    cases hraw : Python.canEmbedRaw t with
    | ok raw =>
      rw [hraw] at h
      cases h
    | error f =>
      rw [hraw] at h
      cases h
      exact .inr ⟨rfl, Python.obstructs_of_canEmbedRaw hraw⟩

theorem isTypeName_nil (target : Target) : target.isTypeName [] = false := by cases target <;> rfl

end Target

namespace Artifact

/-! ## Reasons -/

/-- A text that a source is made to hold. -/
inductive Embedded (i : Inputs) : Text → Prop
  | sectionKey {key : Text} {phrases : Phrases} :
      (key, phrases) ∈ i.document.sections.entries → Embedded i key
  | phraseKey {key phrase default : Text} {phrases : Phrases} :
      (key, phrases) ∈ i.document.sections.entries →
      (phrase, default) ∈ phrases.entries → Embedded i phrase
  | default {key phrase default : Text} {phrases : Phrases} :
      (key, phrases) ∈ i.document.sections.entries →
      (phrase, default) ∈ phrases.entries → Embedded i default
  | projectId : Embedded i i.credentials.projectId
  | apiKey : Embedded i i.credentials.apiKey
  | name {e : IndexEntry} : e ∈ i.languages → Embedded i e.language.name
  | locale {e : IndexEntry} : e ∈ i.languages → Embedded i e.language.locale
  | direction {e : IndexEntry} : e ∈ i.languages → Embedded i e.language.direction
  | payload {e : IndexEntry} {payload : Text} :
      e ∈ i.languages → i.payloads.get? e.language.locale = some payload →
      Embedded i payload

/-- Why inputs are refused, and the fault that says so. -/
inductive Refusal (target : Target) (i : Inputs) : Fault → Prop
  | key {c : Cause} : Naming.KeyFault target.namingRules i.document c → Refusal target i (.cause c)
  | surrogate {t : Text} {c : CodePoint} {place : Nat} : target = .dart → Embedded i t → c ∈ t →
      c.isSurrogate = true → Refusal target i (.cause (.unembeddable c place))
  | noDefault : (∀ e ∈ i.languages, e.language.isDefault = false) →
      Refusal target i (.cause (.registryWithoutDefault (locales i.languages)))
  | repeated {locale : Text} : 2 ≤ (locales i.languages).count locale →
      Refusal target i (.cause (.repeatedLocale locale))
  | missing {e : IndexEntry} : e ∈ i.languages → i.payloads.get? e.language.locale = none →
      Refusal target i (.cause (.missingPayload e.language.locale e.url))
  | obstacle {e : IndexEntry} {payload : Text} {f : Fault} : target = .python → e ∈ i.languages →
      i.payloads.get? e.language.locale = some payload → Python.Obstructs payload f →
        Refusal target i f

def Explained (target : Target) (i : Inputs) {α : Type} (x : Except Fault α) : Prop :=
  ∀ f, x = .error f → Refusal target i f

variable {target : Target} {i : Inputs} {f : Fault} {α β : Type}

namespace Explained

theorem ok (a : α) : Explained target i (.ok a) := fun _ h => nomatch h

theorem error (h : Refusal target i f) : Explained target i (α := α) (.error f) := fun _ heq =>
  Except.error.inj heq ▸ h

theorem bind {x : Except Fault α} {g : α → Except Fault β} (hx : Explained target i x)
    (hg : ∀ a, x = .ok a → Explained target i (g a)) : Explained target i (x >>= g) := by
  intro f h
  rcases bind_eq_error.mp h with hfirst | ⟨a, ha, hrest⟩
  · exact hx f hfirst
  · exact hg a ha f hrest

theorem mapError {x : Except Cause α} (h : ∀ c, x = .error c → Refusal target i (.cause c)) :
    Explained target i (x.mapError .cause) := by
  intro f hf
  obtain ⟨c, hc, rfl⟩ := mapError_eq_error.mp hf
  exact h c hc

theorem mapM {as : List α} {g : α → Except Fault β} (h : ∀ a ∈ as, Explained target i (g a)) :
    Explained target i (as.mapM g) := by
  intro f hf
  obtain ⟨a, ha, hfails⟩ := exists_of_mapM_eq_error hf
  exact h a ha f hfails

end Explained

/-! ## Literals -/

theorem explained_stringLiteral {t : Text} (embedded : Embedded i t) :
    Explained target i (target.stringLiteral t) := by
  intro f h
  obtain ⟨hdart, c, hc, hsurrogate, place, rfl⟩ := Target.stringLiteral_eq_error h
  exact .surrogate hdart embedded hc hsurrogate

theorem explained_payloadLiteral {e : IndexEntry} {payload : Text} (he : e ∈ i.languages)
    (hpayload : i.payloads.get? e.language.locale = some payload) :
    Explained target i (target.payloadLiteral payload) := by
  intro f h
  rcases Target.payloadLiteral_eq_error h with hstring | ⟨hpython, obstructs⟩
  · exact explained_stringLiteral (.payload he hpayload) f hstring
  · exact .obstacle hpython he hpayload obstructs

/-! ## Sections -/

theorem explained_members {names : List Text} {phrases : List (Text × Text)}
    (hphrases : ∀ phrase ∈ phrases, Embedded i phrase.1 ∧ Embedded i phrase.2) :
    Explained target i (members target names phrases) := by
  induction phrases generalizing names with
  | nil => cases names <;> exact .ok []
  | cons phrase rest ih =>
    obtain ⟨⟨hkey, hdefault⟩, hrest⟩ := List.forall_mem_cons.mp hphrases
    cases names with
    | nil => exact .ok []
    | cons name names =>
      rw [members]
      refine (explained_stringLiteral hkey).bind fun _ _ => ?_
      refine (explained_stringLiteral hdefault).bind fun _ _ => ?_
      exact (ih hrest).bind fun _ _ => .ok _

theorem explained_sectionBlock {type key : Text} {phrases : Phrases}
    (hsection : (key, phrases) ∈ i.document.sections.entries) :
    Explained target i (sectionBlock target type key phrases) := by
  have hphrases : ∀ phrase ∈ phrases.entries, Embedded i phrase.1 ∧ Embedded i phrase.2 :=
    fun _ hphrase =>
    ⟨.phraseKey hsection hphrase, .default hsection hphrase⟩
  rw [sectionBlock]
  refine (Explained.mapError fun c hc => .key (Naming.keyFault_of_resolveMembers hsection hc)).bind
    fun _ _ => ?_
  refine (explained_members hphrases).bind fun _ _ => ?_
  exact (explained_stringLiteral (.sectionKey hsection)).bind fun _ _ => .ok _

theorem explained_sectionBlocks {entries : List (Text × Phrases)} {ns : List Naming.SectionNames}
    (hentries : ∀ e ∈ entries, e ∈ i.document.sections.entries)
    (hns : List.Forall₂ (fun e n => Naming.sectionNames target.namingRules e.1 = .ok n) entries ns) :
    Explained target i (sectionBlocks target i.document ns) := by
  induction hns with
  | nil => exact .ok []
  | @cons e n entries ns hn _ ih =>
    obtain ⟨hentry, hrest⟩ := List.forall_mem_cons.mp hentries
    have hkey : n.key = e.1 := by rw [(Naming.sectionNames_eq_ok hn).2.1]
    have hphrases : i.document.sections.get? e.1 = some e.2 := Dict.get?_of_mem hentry
    simp only [sectionBlocks, hkey, hphrases, Option.getD_some]
    refine (explained_sectionBlock hentry).bind fun _ _ => ?_
    exact (ih hrest).bind fun _ _ => .ok _

theorem refusal_of_sectionNames {c : Cause} (h : sectionNames target i.document = .error c) :
    Refusal target i (.cause c) :=
  .key (Naming.keyFault_of_resolveSections target.isTypeName_nil h)

theorem explained_sections : Explained target i (sections target i.document) := by
  rw [sections]
  refine (Explained.mapError fun _ => refusal_of_sectionNames).bind fun ns hns => ?_
  have hresolved := Naming.resolveSectionsAfter_eq_ok (mapError_eq_ok.mp hns)
  exact (explained_sectionBlocks (fun _ he => he) (List.forall₂_map_left_iff.mp hresolved)).bind
    fun _ _ => .ok _

theorem explained_localization :
    Explained target i ((localization target i.document).mapError .cause) := by
  refine Explained.mapError fun c hc => ?_
  rcases bind_eq_error.mp hc with hnames | ⟨ns, -, hc⟩
  · exact refusal_of_sectionNames hnames
  · cases hc

/-! ## Credentials and languages -/

theorem explained_config : Explained target i (config target i.credentials) :=
  (explained_stringLiteral .projectId).bind fun _ _ =>
    (explained_stringLiteral .apiKey).bind fun _ _ => .ok _

theorem explained_languageEntry {e : IndexEntry} (he : e ∈ i.languages) :
    Explained target i (languageEntry target e) := by
  rw [languageEntry]
  refine (explained_stringLiteral (.name he)).bind fun _ _ => ?_
  refine (explained_stringLiteral (.locale he)).bind fun _ _ => ?_
  exact (explained_stringLiteral (.direction he)).bind fun _ _ => .ok _

theorem explained_languages : Explained target i (languages target i.languages) := by
  unfold languages
  split
  · exact (Explained.mapM fun _ => explained_languageEntry).bind fun _ _ => .ok _
  · next hnone => exact .error (.noDefault (by simpa using hnone))

/-! ## Payloads -/

/-- The locales before the entries that are left are those of the entries that came first. -/
theorem explained_bundleEntries {before : List Text} {entries : List IndexEntry}
    (hentries : ∀ e ∈ entries, e ∈ i.languages)
    (hlocales : before.reverse ++ locales entries = locales i.languages) :
    Explained target i (bundleEntries target i.payloads before entries) := by
  induction entries generalizing before with
  | nil => exact .ok []
  | cons e rest ih =>
    obtain ⟨he, hrest⟩ := List.forall_mem_cons.mp hentries
    have hsplit : before.reverse ++ e.language.locale :: locales rest =
      locales i.languages := hlocales
    rw [bundleEntries]
    split
    · next hmem =>
      have hbefore : 0 < before.reverse.count e.language.locale :=
        List.count_pos_iff.mpr (List.mem_reverse.mpr hmem)
      refine .error (.repeated ?_)
      rw [← hsplit, List.count_append, List.count_cons_self]
      omega
    · split
      · next hnone => exact .error (.missing he hnone)
      · next payload hpayload =>
        refine (explained_payloadLiteral he hpayload).bind fun _ _ => ?_
        refine (explained_stringLiteral (.locale he)).bind fun _ _ => ?_
        refine (ih hrest ?_).bind fun _ _ => .ok _
        rw [List.reverse_cons, List.append_assoc]
        exact hsplit

theorem explained_bundle : Explained target i (bundle target i.languages i.payloads) :=
  (explained_bundleEntries (fun _ he => he) rfl).bind fun _ _ => .ok _

/-! ## Whole sources -/

theorem explained_blocks : Explained target i (blocks target i) := by
  rw [blocks]
  refine explained_sections.bind fun _ _ => ?_
  refine explained_localization.bind fun _ _ => ?_
  refine explained_config.bind fun _ _ => ?_
  refine explained_languages.bind fun _ _ => ?_
  exact explained_bundle.bind fun _ _ => .ok _

theorem explained_generate : Explained target i (generate target i) :=
  explained_blocks.bind fun _ _ => .ok _

/-! ## Sources that are generated -/

theorem any_isDefault_of_generate {text : Text} (h : generate target i = .ok text) :
    (i.languages.any fun e => e.language.isDefault) = true := by
  rw [generate] at h
  obtain ⟨texts, hblocks, -⟩ := bind_eq_ok.mp h
  simp only [blocks, bind_eq_ok] at hblocks
  obtain ⟨-, -, -, -, -, -, registry, hlanguages, -⟩ := hblocks
  unfold languages at hlanguages
  split at hlanguages
  · next hdefault => exact hdefault
  · cases hlanguages

theorem sectionBlock_of_sectionBlocks {entries : List (Text × Phrases)}
    {ns : List Naming.SectionNames} {texts : List Text}
    (hentries : ∀ e ∈ entries, e ∈ i.document.sections.entries)
    (hns : List.Forall₂ (fun e n => Naming.sectionNames target.namingRules e.1 = .ok n) entries ns)
    (h : sectionBlocks target i.document ns = .ok texts) :
    ∀ e ∈ entries, ∃ type text, sectionBlock target type e.1 e.2 = .ok text := by
  induction hns generalizing texts with
  | nil => simp
  | @cons e n entries ns hn _ ih =>
    obtain ⟨hentry, hrest⟩ := List.forall_mem_cons.mp hentries
    have hkey : n.key = e.1 := by rw [(Naming.sectionNames_eq_ok hn).2.1]
    have hphrases : i.document.sections.get? e.1 = some e.2 := Dict.get?_of_mem hentry
    simp only [sectionBlocks, hkey, hphrases, Option.getD_some] at h
    obtain ⟨text, htext, h⟩ := bind_eq_ok.mp h
    obtain ⟨more, hmore, -⟩ := bind_eq_ok.mp h
    exact List.forall_mem_cons.mpr ⟨⟨n.typeName, text, htext⟩, ih hrest hmore⟩

theorem exists_sectionBlock {text key : Text} {phrases : Phrases} (h : generate target i = .ok text)
    (hsection : (key, phrases) ∈ i.document.sections.entries) :
    ∃ type block, sectionBlock target type key phrases = .ok block := by
  obtain ⟨ns, sections, -, -, -, hns, hblocks, -⟩ := generate_eq_ok h
  have hnames := List.forall₂_map_left_iff.mp (Naming.resolveSectionsAfter_eq_ok hns)
  exact sectionBlock_of_sectionBlocks (fun _ he => he) hnames hblocks _ hsection

theorem literals_of_sectionBlock {type key block : Text} {phrases : Phrases}
    (h : sectionBlock target type key phrases = .ok block) :
    (∃ literal, target.stringLiteral key = .ok literal) ∧ ∀ phrase ∈ phrases.entries,
      (∃ literal, target.stringLiteral phrase.1 = .ok literal) ∧
        ∃ literal, target.stringLiteral phrase.2 = .ok literal := by
  simp only [sectionBlock, bind_eq_ok, mapError_eq_ok, Naming.resolveMembers] at h
  obtain ⟨names, hnames, ms, hms, keyLiteral, hkey, -⟩ := h
  have haccessors := List.forall₂_map_left_iff.mp (Naming.resolveMembersAfter_eq_ok hnames)
  refine ⟨⟨keyLiteral, hkey⟩, fun phrase hphrase => ?_⟩
  obtain ⟨m, -, hm⟩ := exists_of_mem_left (members_eq_ok haccessors hms) hphrase
  exact ⟨⟨m.key, hm.key⟩, m.default, hm.default⟩

theorem literals_of_languageEntry {e : IndexEntry} {text : Text}
    (h : languageEntry target e = .ok text) :
    (∃ literal, target.stringLiteral e.language.name = .ok literal) ∧
      (∃ literal, target.stringLiteral e.language.locale = .ok literal) ∧
        ∃ literal, target.stringLiteral e.language.direction = .ok literal := by
  simp only [languageEntry, bind_eq_ok] at h
  obtain ⟨name, hname, locale, hlocale, direction, hdirection, -⟩ := h
  exact ⟨⟨name, hname⟩, ⟨locale, hlocale⟩, direction, hdirection⟩

/-- Every text that a source holds has been spelled by a literal. -/
theorem literal_of_embedded {text t : Text} (h : generate target i = .ok text)
    (embedded : Embedded i t) :
    (∃ literal, target.stringLiteral t = .ok literal) ∨
    ∃ literal, target.payloadLiteral t = .ok literal := by
  obtain ⟨ns, sections, registry, entries, pairs, -, -, hconfig, hentries, hpairs, -⟩ :=
    generate_eq_ok h
  have listed : ∀ e ∈ i.languages, ∃ entry, languageEntry target e = .ok entry := fun e he =>
    (exists_of_mem_left hentries he).imp fun _ hentry => hentry.2
  cases embedded with
  | sectionKey hsection =>
    obtain ⟨type, block, hblock⟩ := exists_sectionBlock h hsection
    exact .inl (literals_of_sectionBlock hblock).1
  | phraseKey hsection hphrase =>
    obtain ⟨type, block, hblock⟩ := exists_sectionBlock h hsection
    exact .inl ((literals_of_sectionBlock hblock).2 _ hphrase).1
  | default hsection hphrase =>
    obtain ⟨type, block, hblock⟩ := exists_sectionBlock h hsection
    exact .inl ((literals_of_sectionBlock hblock).2 _ hphrase).2
  | projectId =>
    simp only [config, bind_eq_ok] at hconfig
    obtain ⟨projectId, hproject, -⟩ := hconfig
    exact .inl ⟨projectId, hproject⟩
  | apiKey =>
    simp only [config, bind_eq_ok] at hconfig
    obtain ⟨-, -, apiKey, hkey, -⟩ := hconfig
    exact .inl ⟨apiKey, hkey⟩
  | name he =>
    obtain ⟨entry, hentry⟩ := listed _ he
    exact .inl (literals_of_languageEntry hentry).1
  | locale he =>
    obtain ⟨entry, hentry⟩ := listed _ he
    exact .inl (literals_of_languageEntry hentry).2.1
  | direction he =>
    obtain ⟨entry, hentry⟩ := listed _ he
    exact .inl (literals_of_languageEntry hentry).2.2
  | payload he hpayload =>
    obtain ⟨pair, -, payload, hfound, -, hliteral⟩ :=
      exists_of_mem_left (bundleEntries_eq_ok.mp hpairs).2.2 he
    obtain rfl := Option.some.inj (hpayload.symm.trans hfound)
    exact .inr ⟨pair.2, hliteral⟩

/-- Where a source is generated, there is no reason to refuse the inputs. -/
theorem not_refusal_of_generate {text : Text} (h : generate target i = .ok text) :
    ¬ Refusal target i f := by
  obtain ⟨ns, sections, registry, entries, pairs, hns, -, -, -, hpairs, -⟩ := generate_eq_ok h
  obtain ⟨hdistinct, -, hembeds⟩ := bundleEntries_eq_ok.mp hpairs
  intro refusal
  cases refusal with
  | key fault =>
    rcases fault with fault | ⟨hsection, fault⟩
    · exact Naming.not_sectionFault_of_resolveSections hns fault
    · obtain ⟨type, block, hblock⟩ := exists_sectionBlock h hsection
      simp only [sectionBlock, bind_eq_ok, mapError_eq_ok] at hblock
      obtain ⟨names, hnames, -⟩ := hblock
      exact Naming.not_phraseFault_of_resolveMembers hnames fault
  | @surrogate t c place hdart embedded hc hsurrogate =>
    subst hdart
    have hscalar : t.IsScalar := by
      rcases literal_of_embedded h embedded with ⟨literal, hliteral⟩ | ⟨literal, hliteral⟩
      · exact Dart.isScalar_of_stringLiteral hliteral
      · exact Dart.isScalar_of_payloadLiteral hliteral
    cases (hscalar _ hc).symm.trans hsurrogate
  | noDefault hnone =>
    obtain ⟨e, he, hdefault⟩ := List.any_eq_true.mp (any_isDefault_of_generate h)
    cases (hnone e he).symm.trans hdefault
  | @repeated locale hcount =>
    have honce := List.nodup_iff_count_le_one.mp hdistinct locale
    omega
  | missing he hnone =>
    obtain ⟨pair, -, payload, hfound, -⟩ := exists_of_mem_left hembeds he
    cases hnone.symm.trans hfound
  | obstacle hpython he hpayload obstructs =>
    subst hpython
    obtain ⟨pair, -, payload, hfound, -, hliteral⟩ := exists_of_mem_left hembeds he
    obtain rfl := Option.some.inj (hpayload.symm.trans hfound)
    exact Python.not_obstructs_of_payloadLiteral hliteral obstructs

/-- A source is generated just if there is no reason to refuse the inputs. -/
theorem exists_source_iff : (∃ text, generate target i = .ok text) ↔ ∀ f, ¬ Refusal target i f := by
  constructor
  · rintro ⟨text, h⟩ f
    exact not_refusal_of_generate h
  · intro none
    cases h : generate target i with
    | ok text => exact ⟨text, rfl⟩
    | error f => exact absurd (explained_generate f h) (none f)

end Artifact

end LocaleGen
