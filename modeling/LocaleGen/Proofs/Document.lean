import LocaleGen.Document
import LocaleGen.Proofs.Result
import Mathlib

/-!
# Documents in payloads

A payload holds a document if it is an object whose `data` maps section keys to mappings of phrase
keys to texts (`Document.Within`), and that is when a document is read from it:
`Document.exists_ofContent_iff`. All other payloads are refused as malformed, unless they are beyond
what can be read as JSON: `Document.name_of_ofContent`.
-/

namespace LocaleGen

def Json.IsObjectOf (condition : Json → Prop) (v : Json) : Prop :=
  ∃ members, v.asObject? = some members ∧ ∀ m ∈ members, condition m.2

namespace Document

/-- A value that maps section keys to mappings of phrase keys to texts. -/
def IsShape (v : Json) : Prop := v.IsObjectOf fun texts => texts.IsObjectOf fun text => ∃ t,
    text.asText? = some t

variable [NestingLimits]

def Within (content : Text) : Prop :=
  ∃ payload data, Json.read content = .ok payload ∧ payload.member? "data" = some data ∧
    IsShape data

omit [NestingLimits] in
theorem exists_textsOfJson_iff {path : List Text} {members : List (Text × Json)} :
    (∃ texts, textsOfJson path members = .ok texts) ↔ ∀ m ∈ members, ∃ t, m.2.asText? = some t := by
  induction members with
  | nil => simp [textsOfJson]
  | cons m rest ih =>
    obtain ⟨key, v⟩ := m
    rw [List.forall_mem_cons, ← ih, textsOfJson]
    cases v.asText? with
    | none => simp
    | some t => simp

omit [NestingLimits] in
theorem exists_sectionsOfJson_iff {members : List (Text × Json)} :
    (∃ sections, sectionsOfJson members = .ok sections) ↔
      ∀ m ∈ members, m.2.IsObjectOf fun text => ∃ t, text.asText? = some t := by
  induction members with
  | nil => simp [sectionsOfJson]
  | cons m rest ih =>
    obtain ⟨key, v⟩ := m
    rw [List.forall_mem_cons, ← ih, sectionsOfJson, Json.IsObjectOf]
    cases v.asObject? with
    | none => simp
    | some texts =>
      simp only [bind_eq_ok, Option.some.injEq, exists_eq_left', ← @exists_textsOfJson_iff [key]]
      constructor
      · rintro ⟨-, phrases, hphrases, sections, hsections, -⟩
        exact ⟨⟨phrases, hphrases⟩, sections, hsections⟩
      · rintro ⟨⟨phrases, hphrases⟩, sections, hsections⟩
        exact ⟨_, phrases, hphrases, sections, hsections, rfl⟩

omit [NestingLimits] in
theorem exists_decode_iff {v : Json} : (∃ document, decode v = .ok document) ↔ IsShape v := by
  rw [decode, IsShape, Json.IsObjectOf]
  cases v.asObject? with
  | none => simp
  | some members =>
    simp only [bind_eq_ok, Option.some.injEq, exists_eq_left', ← exists_sectionsOfJson_iff]
    constructor
    · rintro ⟨-, sections, hsections, -⟩
      exact ⟨sections, hsections⟩
    · rintro ⟨sections, hsections⟩
      exact ⟨_, sections, hsections, rfl⟩

omit [NestingLimits] in
theorem data?_eq_some {payload data : Json} :
    data? payload = some data ↔ payload.member? "data" = some data ∧
    ∃ members, data = .object members := by
  rw [data?]
  cases payload.member? "data" with
  | none => simp
  | some v => cases v <;> simp <;> grind

theorem exists_ofContent_iff {content : Text} : (∃ document, ofContent content = .ok document) ↔
    Within content := by
  rw [ofContent, Within]
  cases Json.read content with
  | error e => cases e <;> simp
  | ok payload =>
    constructor
    · rintro ⟨document, h⟩
      dsimp only at h
      split at h
      · cases h
      · next data hdata =>
        have hdecode := mapError_eq_ok.mp (mapError_eq_ok.mp h)
        exact ⟨payload, data, rfl, (data?_eq_some.mp hdata).1,
          exists_decode_iff.mp ⟨document, hdecode⟩⟩
    · rintro ⟨_, data, heq, hmember, shape⟩
      cases heq
      obtain ⟨members, hobject, -⟩ := id shape
      have hdata : data? payload = some data := by
        refine data?_eq_some.mpr ⟨hmember, ?_⟩
        cases data <;> simp [Json.asObject?] at hobject ⊢
      obtain ⟨document, hdocument⟩ := exists_decode_iff.mpr shape
      dsimp only
      rw [hdata]
      exact ⟨document, mapError_eq_ok.mpr (mapError_eq_ok.mpr hdocument)⟩

/-- A payload that holds no document is malformed, unless it cannot be read for something else than
its form. -/
theorem name_or_read_of_ofContent {content : Text} {f : Fault} (h : ofContent content = .error f) :
    f.name = "MalformedDocumentError" ∨
      ∃ e : Json.ReadError, Json.read content = .error e ∧
      (∀ problem place, e ≠ .malformed problem place) ∧ f = e.fault := by
  unfold ofContent at h
  split at h
  · cases h
    exact .inl rfl
  · next e hnot hread =>
    cases h
    exact .inr ⟨e, hread, hnot, rfl⟩
  · split at h
    · cases h
      exact .inl rfl
    · next data _ =>
      unfold ofJson at h
      cases hdecode : decode data with
      | error finding =>
        rw [hdecode] at h
        cases h
        exact .inl rfl
      | ok document =>
        rw [hdecode] at h
        cases h

/-- A payload that holds no document is malformed, or JSON that is too deep or has too many
digits. -/
theorem name_of_ofContent {content : Text} {f : Fault} (h : ofContent content = .error f) :
    f.name = "MalformedDocumentError" ∨ (∃ inList, f = .tooDeep inList) ∨
    ∃ count, f = .tooManyDigits count := by
  rcases name_or_read_of_ofContent h with hname | ⟨e, -, hnot, rfl⟩
  · exact .inl hname
  · cases e with
    | malformed problem place => exact absurd rfl (hnot problem place)
    | tooDeep inList => exact .inr (.inl ⟨inList, rfl⟩)
    | tooManyDigits count => exact .inr (.inr ⟨count, rfl⟩)

end Document

end LocaleGen
