import LocaleGen.Proofs.Gathering
import LocaleGen.Proofs.Locale
import Mathlib

/-!
# The locale that suits best

What a session finds for a locale falls into tiers: the same locale in another spelling, one of the
same language, that of the default language (`Locale.best?_cases`,
`Session.defaultLocale?_eq_some`). A tier counts just if those before it have nothing, and within
the second one the earliest normal form does: `Session.resolve_meets_tiers`.
-/

namespace LocaleGen

namespace Locale

variable {known : List Text} {wanted found : Text}

def SameForm (a b : Text) : Prop := normal a = normal b

def SameLanguage (a b : Text) : Prop := code (normal a) = code (normal b)

instance (a b : Text) : Decidable (SameLanguage a b) := inferInstanceAs (Decidable (_ = _))

theorem SameForm.sameLanguage {a b : Text} (h : SameForm a b) : SameLanguage a b := congrArg code h

/-- The first normal form with a property is that of the first locale whose normal form has it. -/
theorem find?_keys_table (q : Text → Bool) :
    (table known).keys.find? q = (known.find? fun l => q (normal l)).map normal := by
  rw [table, Dict.find?_keys_ofList, List.map_map, List.find?_map]
  rfl

theorem of_mem_table {form : Text} (h : (form, found) ∈ (table known).entries) :
    found ∈ known ∧ normal found = form := by
  have hget := Dict.get?_of_mem h
  rw [get?_table] at hget
  exact ⟨List.mem_reverse.mp (List.mem_of_find?_eq_some hget), by simpa using List.find?_some hget⟩

theorem best?_cases (known : List Text) (wanted : Text) :
    (∃ found ∈ known, best? known wanted = some found ∧ SameForm found wanted) ∨
    ((∀ locale ∈ known, ¬ SameForm locale wanted) ∧
      ∃ first, IsFirst (SameLanguage · wanted) known first ∧
        ∃ found ∈ known, best? known wanted = some found ∧ SameForm found first) ∨
    ((∀ locale ∈ known, ¬ SameLanguage locale wanted) ∧ best? known wanted = none) := by
  unfold best?
  cases hexact : (table known).get? (normal wanted) with
  | some found =>
    rw [get?_table] at hexact
    have same : normal found = normal wanted := by simpa using List.find?_some hexact
    exact .inl ⟨found, List.mem_reverse.mp (List.mem_of_find?_eq_some hexact), rfl, same⟩
  | none =>
    have other : ∀ locale ∈ known, ¬ SameForm locale wanted := by
      rw [get?_table] at hexact
      simpa [SameForm] using hexact
    have hkeys : (table known).keys.find? (fun form => decide (code form = code (normal wanted))) =
      _ := find?_keys_table _
    rw [Dict.keys, List.find?_map, Function.comp_def] at hkeys
    cases hentry : (table known).entries.find? fun e =>
      decide (code e.1 = code (normal wanted)) with
    | some entry =>
      obtain ⟨form, found⟩ := entry
      rw [hentry, Option.map_some, eq_comm, Option.map_eq_some_iff] at hkeys
      obtain ⟨first, hfirst, hform⟩ := hkeys
      obtain ⟨hmem, hfound⟩ := of_mem_table (List.mem_of_find?_eq_some hentry)
      exact .inr (.inl ⟨other, first, find?_eq_some_iff_isFirst.mp hfirst, found, hmem, rfl,
        hfound.trans hform.symm⟩)
    | none =>
      rw [hentry, Option.map_none, eq_comm, Option.map_eq_none_iff] at hkeys
      exact .inr (.inr ⟨by simpa [SameLanguage] using hkeys, rfl⟩)

theorem best?_congr {other : Text} (h : SameForm other wanted) :
    best? known other = best? known wanted := by
  have hform : normal other = normal wanted := h
  rw [best?, best?, hform]

end Locale

def IndexEntry.IsDefault (languages : List IndexEntry) (e : IndexEntry) : Prop :=
  IsFirst (fun e => e.language.isDefault = true) languages e

theorem IndexEntry.map_findDefault? (entries : List IndexEntry) :
    (findDefault? entries).map Prod.snd = entries.find? fun e => e.language.isDefault := by
  induction entries with
  | nil => rfl
  | cons e rest ih =>
    rw [findDefault?, List.find?_cons, ← ih]
    cases e.language.isDefault
    · cases findDefault? rest <;> rfl
    · rfl

open LocaleGen.Locale (SameForm SameLanguage)
open IndexEntry (IsDefault)

namespace Session

theorem defaultLanguage?_eq_some {s : Session} {language : Language} :
    s.defaultLanguage? = some language ↔ ∃ e, IsDefault s.languages e ∧ e.language = language := by
  have hfind := IndexEntry.map_findDefault? s.languages
  have hbool : (s.languages.find? fun e => e.language.isDefault) = s.languages.find? fun e =>
      decide (e.language.isDefault = true) := by
    simp
  have hmap : s.defaultLanguage? = ((IndexEntry.findDefault? s.languages).map Prod.snd).map
      IndexEntry.language := by
    rw [Option.map_map]
    rfl
  rw [hmap, hfind, hbool, Option.map_eq_some_iff]
  simp only [find?_eq_some_iff_isFirst, IsDefault]

/-- The locale of the default language counts if it has a payload in this very spelling. -/
theorem defaultLocale?_eq_some {s : Session} {locale : Text} :
    s.defaultLocale? = some locale ↔ locale ∈ s.bundled.keys ∧
    ∃ e, IsDefault s.languages e ∧ e.language.locale = locale := by
  have hlanguage : (∃ e, IsDefault s.languages e ∧ e.language.locale = locale) ↔
      ∃ language, s.defaultLanguage? = some language ∧ language.locale = locale := by
    simp only [defaultLanguage?_eq_some]
    exact ⟨fun ⟨e, he, hlocale⟩ => ⟨e.language, ⟨e, he, rfl⟩, hlocale⟩,
      fun ⟨_, ⟨e, he, rfl⟩, hlocale⟩ => ⟨e, he, hlocale⟩⟩
  rw [hlanguage, defaultLocale?, Dict.mem_keys_iff]
  cases s.defaultLanguage? with
  | none => simp
  | some language =>
    simp only [Option.some.injEq, exists_eq_left']
    constructor
    · intro h
      split at h
      · next hcontains =>
        cases h
        exact ⟨hcontains, rfl⟩
      · cases h
    · rintro ⟨hcontains, rfl⟩
      exact if_pos hcontains

theorem defaultLocale?_eq_none {s : Session} :
    s.defaultLocale? = none ↔ ∀ e, IsDefault s.languages e →
    e.language.locale ∉ s.bundled.keys := by
  rw [Option.eq_none_iff_forall_ne_some]
  constructor
  · intro none e he hmem
    exact none _ (defaultLocale?_eq_some.mpr ⟨hmem, e, he, rfl⟩)
  · intro absent locale hlocale
    obtain ⟨hmem, e, he, rfl⟩ := defaultLocale?_eq_some.mp hlocale
    exact absent e he hmem

/-! ## Tiers -/

variable {s : Session} {wanted : Text}

theorem exists_resolve_of_sameForm (h : ∃ locale ∈ s.bundled.keys, SameForm locale wanted) :
    ∃ found, s.resolve wanted = some found ∧ SameForm found wanted := by
  obtain ⟨locale, hlocale, same⟩ := h
  obtain ⟨found, -, hbest, hfound⟩ | ⟨other, -⟩ | ⟨other, -⟩ :=
    Locale.best?_cases s.bundled.keys wanted
  · exact ⟨found, by rw [resolve, hbest], hfound⟩
  · exact absurd same (other locale hlocale)
  · exact absurd same.sameLanguage (other locale hlocale)

theorem exists_resolve_of_sameLanguage (different : ∀ locale ∈ s.bundled.keys,
    ¬ SameForm locale wanted)
    (h : ∃ locale ∈ s.bundled.keys, SameLanguage locale wanted) :
    ∃ found first, s.resolve wanted = some found ∧ SameLanguage found wanted ∧
    SameForm found first ∧
      IsFirst (SameLanguage · wanted) s.bundled.keys first := by
  obtain ⟨locale, hlocale, same⟩ := h
  obtain ⟨found, hmem, -, hfound⟩ | ⟨-, first, hfirst, found, -, hbest, hform⟩ | ⟨other, -⟩ :=
    Locale.best?_cases s.bundled.keys wanted
  · exact absurd hfound (different found hmem)
  · exact ⟨found, first, by rw [resolve, hbest], hform.sameLanguage.trans hfirst.prop,
      hform, hfirst⟩
  · exact absurd same (other locale hlocale)

theorem resolve_of_foreign (different : ∀ locale ∈ s.bundled.keys, ¬ SameLanguage locale wanted) :
    s.resolve wanted = s.defaultLocale? := by
  obtain ⟨found, hmem, -, hfound⟩ | ⟨-, first, hfirst, -⟩ | ⟨-, hbest⟩ :=
    Locale.best?_cases s.bundled.keys wanted
  · exact absurd hfound.sameLanguage (different found hmem)
  · exact absurd hfirst.prop (different first hfirst.mem)
  · rw [resolve, hbest]

/-- A session finds a locale that it has a payload for, or none. If some locale has the wanted
normal form, so has what is found. Otherwise, if some locale has the wanted language code, what is
found has the earliest normal form with this code. Otherwise it is the locale of the first language
that is flagged as default, if that locale has a payload. Of the wanted locale only the normal form
counts. -/
theorem resolve_meets_tiers (s : Session) (wanted : Text) :
    (∀ found, s.resolve wanted = some found → found ∈ s.bundled.keys) ∧
    ((∃ locale ∈ s.bundled.keys, SameForm locale wanted) →
      ∃ found, s.resolve wanted = some found ∧ SameForm found wanted) ∧
    ((∀ locale ∈ s.bundled.keys, ¬ SameForm locale wanted) →
      (∃ locale ∈ s.bundled.keys, SameLanguage locale wanted) →
      ∃ found first, s.resolve wanted = some found ∧ SameLanguage found wanted ∧
      SameForm found first ∧
        IsFirst (SameLanguage · wanted) s.bundled.keys first) ∧
    ((∀ locale ∈ s.bundled.keys, ¬ SameLanguage locale wanted) →
      (∀ found, s.resolve wanted = some found ↔
        found ∈ s.bundled.keys ∧ ∃ e, IsDefault s.languages e ∧ e.language.locale = found) ∧
      (s.resolve wanted = none ↔ ∀ e, IsDefault s.languages e →
        e.language.locale ∉ s.bundled.keys)) ∧
    ∀ other, SameForm other wanted → s.resolve other = s.resolve wanted := by
  refine ⟨fun found h => mem_keys_of_resolve h, exists_resolve_of_sameForm,
    exists_resolve_of_sameLanguage,
    fun different => ?_, fun other h => ?_⟩
  · rw [resolve_of_foreign different]
    exact ⟨fun found => defaultLocale?_eq_some, defaultLocale?_eq_none⟩
  · rw [resolve, resolve, Locale.best?_congr h]

end Session

end LocaleGen
