import LocaleGen.Proofs.Layout
import LocaleGen.Proofs.Lexis
import Mathlib

/-!
# Rows of sources read back

A source consists of rows of filled templates, each of which stands for something (`IsRow`,
`IsSection`), between fixed texts. By the layout of its target the whole source is read as what its
rows stand for, in their order, and nothing is left over: `Rows.Stand.read`.
-/

namespace LocaleGen

open Text Layout

/-! ## Layouts -/

namespace Layout

def templates (layout : Layout) : List Template :=
  [layout.sectionHead, layout.member, layout.field, layout.config, layout.language, layout.payload]

def texts (layout : Layout) : List Text :=
  [layout.header, layout.sectionEnd, layout.localizationHead, layout.noFields,
    layout.localizationEnd,
   layout.languagesHead, layout.languagesEnd, layout.bundleHead, layout.bundleEnd, layout.facade]

end Layout

theorem isSound_of_mem {target : Target} {template : Template}
    (h : template ∈ target.layout.templates) :
    template.isSound target.lexis target.isPlain = true := by
  have hall : ∀ template ∈ target.layout.templates,
      template.isSound target.lexis target.isPlain = true := by
    cases target <;> decide +kernel
  exact hall template h

theorem isPlain_of_mem {target : Target} {t : Text} (h : t ∈ target.layout.texts) :
    t.all target.isPlain = true := by
  have hall : ∀ t ∈ target.layout.texts, t.all target.isPlain = true := by
    cases target <;> decide +kernel
  exact hall t h

/-! ## Rows -/

section

variable {α : Type} {target : Target} {template : Template} {of? : List Field → Option α}
    {u : Text} {a : α} {us : List Text} {as : List α}

def IsRow (target : Target) (template : Template) (of? : List Field → Option α)
    (u : Text) (a : α) : Prop :=
  ∃ pieces fields, u = template.fill pieces ∧
    Fits target.lexis target.isPlain template.gaps pieces fields ∧
    of? fields = some a

theorem IsRow.start (h : IsRow target template of? u a) : template.opening <+: u := by
  obtain ⟨pieces, -, rfl, -, -⟩ := h
  exact List.prefix_append _ _

theorem IsRow.read (h : IsRow target template of? u a) (hmem : template ∈ target.layout.templates)
    (left : Text) : readRow target.lexis template of? (u ++ left) = some (a, left) := by
  obtain ⟨pieces, fields, rfl, hfits, hof⟩ := h
  rw [readRow, Template.read_fill (isSound_of_mem hmem) hfits]
  simp [hof]

theorem IsRow.isPlain (h : IsRow target template of? u a)
    (hmem : template ∈ target.layout.templates) : u.all target.isPlain = true := by
  obtain ⟨pieces, fields, rfl, hfits, -⟩ := h
  exact Template.all_fill (isSound_of_mem hmem) hfits

theorem isPlain_flatten (h : ∀ u ∈ us, u.all target.isPlain = true) :
    us.flatten.all target.isPlain = true := by
  rw [List.all_flatten]
  exact List.all_eq_true.mpr h

theorem isPlain_rows (h : List.Forall₂ (IsRow target template of?) us as)
    (hmem : template ∈ target.layout.templates) : us.flatten.all target.isPlain = true := by
  refine isPlain_flatten fun u hu => ?_
  obtain ⟨a, -, ha⟩ := exists_of_mem_left h hu
  exact ha.isPlain hmem

theorem ne_nil_of_start {opening : Text} (hopening : opening ≠ []) (h : opening <+: u) :
    u ≠ [] := by
  rintro rfl
  exact hopening (List.prefix_nil.mp h)

theorem readRows_flatten (h : List.Forall₂ (IsRow target template of?) us as)
    (hmem : template ∈ target.layout.templates) {next : Text}
    (hnext : diverges template.opening next = true) (left : Text) :
    readRows target.lexis template of? (us.flatten ++ (next ++ left)) =
      some (as, next ++ left) := by
  have hitem : List.Forall₂ (fun u a => template.opening <+: u ∧
      ∀ left, True → readRow target.lexis template of? (u ++ left) = some (a, left)) us as :=
    h.imp fun u a hu => ⟨hu.start, fun left _ => hu.read hmem left⟩
  have hopening : template.opening ≠ [] := by
    intro hnil
    rw [hnil] at hnext
    cases hnext
  have hlength : us.length ≤ us.flatten.length := by
    refine length_le_flatten fun u hu => ?_
    obtain ⟨a, -, ha⟩ := exists_of_mem_left h hu
    exact ne_nil_of_start hopening ha.start
  refine readMany_flatten hitem (fun _ _ _ => trivial) trivial (not_start_of_diverges hnext left) ?_
  simp only [List.length_append]
  omega

end

/-! ## Sections -/

section

variable {target : Target} {u left : Text} {s : SectionReading}

def classWord : Text := "class "

def IsSection (target : Target) (u : Text) (s : SectionReading) : Prop :=
  ∃ head rows, u = head ++ (List.flatten rows ++ target.layout.sectionEnd) ∧
    IsRow target target.layout.sectionHead sectionOf? head (s.typeName, s.key) ∧
    List.Forall₂ (IsRow target target.layout.member memberOf?) rows s.members

theorem IsSection.start (h : IsSection target u s) : target.layout.sectionHead.opening <+: u := by
  obtain ⟨head, rows, rfl, hhead, -⟩ := h
  exact hhead.start.trans (List.prefix_append _ _)

/-- A section is read in front of the next class. -/
theorem IsSection.read (h : IsSection target u s) (hleft : classWord <+: left) :
    target.layout.readSection target.lexis (u ++ left) = some (s, left) := by
  obtain ⟨head, rows, rfl, hhead, hrows⟩ := h
  obtain ⟨more, rfl⟩ := hleft
  have hnext : diverges target.layout.member.opening (target.layout.sectionEnd ++ classWord) =
      true := by
    cases target <;> decide +kernel
  have hread := readRows_flatten hrows (by simp [templates]) hnext more
  simp only [List.append_assoc] at hread ⊢
  rw [readSection, hhead.read (by simp [templates])]
  simp [hread]

theorem IsSection.isPlain (h : IsSection target u s) : u.all target.isPlain = true := by
  obtain ⟨head, rows, rfl, hhead, hrows⟩ := h
  have hend : target.layout.sectionEnd.all target.isPlain = true := isPlain_of_mem (by simp [texts])
  rw [List.all_append, List.all_append, hhead.isPlain (by simp [templates]),
    isPlain_rows hrows (by simp [templates]),
    hend]
  rfl

theorem readSections_flatten {us : List Text} {sections : List SectionReading}
    (h : List.Forall₂ (IsSection target) us sections) (left : Text) :
    target.layout.readSections target.lexis (us.flatten ++ (target.layout.localizationHead ++ left)) =
      some (sections, target.layout.localizationHead ++ left) := by
  have hopening : classWord <+: target.layout.sectionHead.opening := by
    cases target <;> decide +kernel
  have hhead : classWord <+: target.layout.localizationHead := by cases target <;> decide +kernel
  have hstop : diverges target.layout.sectionHead.opening target.layout.localizationHead =
      true := by
    cases target <;> decide +kernel
  have hitem := h.imp fun u s hu => (⟨hu.start, fun left hleft => hu.read hleft⟩ :
    target.layout.sectionHead.opening <+: u ∧ ∀ left, classWord <+: left →
      target.layout.readSection target.lexis (u ++ left) = some (s, left))
  have hword : ∀ u ∈ us, classWord <+: u := by
    intro u hu
    obtain ⟨s, -, hs⟩ := exists_of_mem_left h hu
    exact hopening.trans hs.start
  have hlength : us.length ≤ us.flatten.length :=
    length_le_flatten fun u hu => ne_nil_of_start (by decide) (hword u hu)
  refine readMany_flatten hitem (fun u hu left => (hword u hu).trans (List.prefix_append _ _))
    (hhead.trans (List.prefix_append _ _)) (not_start_of_diverges hstop left) ?_
  simp only [List.length_append]
  omega

end

/-! ## Fields -/

section

variable {target : Target} {rows : List Text} {fields : List (Text × Text)}

def fieldsText (target : Target) (rows : List Text) : Text :=
  if rows = [] then target.layout.noFields else rows.flatten

theorem readFields_fieldsText (h : List.Forall₂ (IsRow target target.layout.field fieldOf?) rows fields)
    (left : Text) : target.layout.readFields target.lexis
      (fieldsText target rows ++ (target.layout.localizationEnd ++ left)) =
    some (fields, target.layout.localizationEnd ++ left) := by
  cases h with
  | nil =>
    have hnext : diverges target.layout.field.opening (target.layout.noFields ++
        target.layout.localizationEnd) = true := by
      cases target <;> decide +kernel
    have hnone : List.Forall₂ (IsRow target target.layout.field fieldOf?) [] [] := .nil
    have hread := readRows_flatten hnone (by simp [templates]) hnext left
    simp only [List.flatten_nil, List.nil_append, List.append_assoc] at hread
    rw [fieldsText, if_pos rfl, readFields, hread]
    simp
  | @cons row field rows fields hrow hrows =>
    have hnext : diverges target.layout.field.opening target.layout.localizationEnd = true := by
      cases target <;> decide +kernel
    have hread := readRows_flatten (.cons hrow hrows) (by simp [templates]) hnext left
    rw [fieldsText, if_neg (by simp), readFields, hread]
    rfl

end

/-! ## Whole sources -/

/-- The rows that a source consists of. -/
structure Rows where
  sections : List Text
  fields : List Text
  config : Text
  languages : List Text
  payloads : List Text

def Rows.text (target : Target) (rows : Rows) : Text :=
  let layout := target.layout
  layout.header ++ (rows.sections.flatten ++ (layout.localizationHead ++ (fieldsText target rows.fields ++
    (layout.localizationEnd ++ (rows.config ++ (layout.languagesHead ++ (rows.languages.flatten ++
    (layout.languagesEnd ++ (layout.bundleHead ++ (rows.payloads.flatten ++ (layout.bundleEnd ++
    layout.facade)))))))))))

/-- Rows that stand for what a reading says. -/
structure Rows.Stand (target : Target) (rows : Rows) (r : Reading) : Prop where
  sections : List.Forall₂ (IsSection target) rows.sections r.sections
  fields : List.Forall₂ (IsRow target target.layout.field fieldOf?) rows.fields r.fields
  config : IsRow target target.layout.config credentialsOf? rows.config r.credentials
  languages : List.Forall₂ (IsRow target target.layout.language languageOf?)
    rows.languages r.languages
  payloads : List.Forall₂ (IsRow target target.layout.payload payloadOf?) rows.payloads r.bundle

namespace Rows.Stand

variable {target : Target} {rows : Rows} {r : Reading}

theorem isPlain (h : rows.Stand target r) : (rows.text target).all target.isPlain = true := by
  have hsections : rows.sections.flatten.all target.isPlain = true := by
    refine isPlain_flatten fun u hu => ?_
    obtain ⟨s, -, hs⟩ := exists_of_mem_left h.sections hu
    exact hs.isPlain
  have hfields : (fieldsText target rows.fields).all target.isPlain = true := by
    unfold fieldsText
    split
    · exact isPlain_of_mem (by simp [texts])
    · exact isPlain_rows h.fields (by simp [templates])
  have htexts : ∀ t ∈ target.layout.texts, t.all target.isPlain = true := fun t => isPlain_of_mem
  simp only [texts, List.forall_mem_cons] at htexts
  obtain ⟨hheader, -, hlocalization, -, hlocalizationEnd, hlanguages, hlanguagesEnd, hbundle,
      hbundleEnd, hfacade, -⟩ :=
    htexts
  simp only [Rows.text, List.all_append, Bool.and_eq_true]
  exact ⟨hheader, hsections, hlocalization, hfields, hlocalizationEnd,
    h.config.isPlain (by simp [templates]),
    hlanguages, isPlain_rows h.languages (by simp [templates]), hlanguagesEnd, hbundle,
    isPlain_rows h.payloads (by simp [templates]), hbundleEnd, hfacade⟩

theorem readBlocks (h : rows.Stand target r) :
    target.layout.readBlocks target.lexis (rows.text target) = some r := by
  have hlanguages : diverges target.layout.language.opening target.layout.languagesEnd = true := by
    cases target <;> decide +kernel
  have hpayloads : diverges target.layout.payload.opening target.layout.bundleEnd = true := by
    cases target <;> decide +kernel
  simp only [Layout.readBlocks, Rows.text, dropStart?_append, readSections_flatten h.sections,
    readFields_fieldsText h.fields, h.config.read (by simp [templates]),
    readRows_flatten h.languages (by simp [templates]) hlanguages,
    readRows_flatten h.payloads (by simp [templates]) hpayloads, Option.bind_eq_bind,
      Option.bind_some, if_true]

theorem read (h : rows.Stand target r) : target.read (rows.text target) = some r := by
  rw [Target.read, Target.source_of_isPlain h.isPlain]
  exact h.readBlocks

end Rows.Stand

end LocaleGen
