import LocaleGen.Artifact
import Mathlib

/-!
# What a source does not disclose

Where a payload is fetched from, when it was changed and whether it should be updated stands in the
same entries that sources are generated from. None of it can be told from a source, nor from the
words of a failure, and neither can a payload that no language asks for:
`generate_discloses_nothing`.

The proof runs the generator on two inputs that differ in nothing else (`Alike`). Up to the payloads
all blocks are equal; where a payload is missing, the two faults differ in the address that they
carry, which no word of them is about.
-/

namespace LocaleGen

/-! ## Faults and results with the same words -/

/-- Faults that differ in the address of a missing payload at most. -/
inductive Fault.Agree : Fault → Fault → Prop
  | same (f : Fault) : Agree f f
  | missing (locale : Text) (url url' : Option Text) :
      Agree (.cause (.missingPayload locale url)) (.cause (.missingPayload locale url'))

theorem Fault.Agree.name {f f' : Fault} (h : f.Agree f') : f.name = f'.name := by
  cases h <;> rfl

theorem Fault.Agree.message {f f' : Fault} (h : f.Agree f') : f.message = f'.message := by
  cases h <;> rfl

/-- The same result, or faults that agree. -/
inductive Fault.AgreeOn {α : Type} : Except Fault α → Except Fault α → Prop
  | ok (a : α) : AgreeOn (.ok a) (.ok a)
  | error {f f' : Fault} (h : f.Agree f') : AgreeOn (.error f) (.error f')

namespace Fault.AgreeOn

variable {α β : Type} {x y : Except Fault α}

theorem refl (x : Except Fault α) : AgreeOn x x := by
  cases x with
  | error f => exact .error (.same f)
  | ok a => exact .ok a

theorem bind {f g : α → Except Fault β} (h : AgreeOn x y) (hfg : ∀ a, AgreeOn (f a) (g a)) :
    AgreeOn (x >>= f) (y >>= g) := by
  cases h with
  | ok a => exact hfg a
  | error h => exact .error h

theorem bind_same (x : Except Fault α) {f g : α → Except Fault β} (hfg : ∀ a, AgreeOn (f a) (g a)) :
    AgreeOn (x >>= f) (x >>= g) := (refl x).bind hfg

end Fault.AgreeOn

namespace Artifact

open Fault

/-! ## Inputs that differ in how payloads are retrieved -/

def Relists (e e' : IndexEntry) : Prop := e.id = e'.id ∧ e.language = e'.language

/-- Inputs that differ in what is told about the retrieval of payloads, and in payloads that no
language asks for. -/
structure Alike (i i' : Inputs) : Prop where
  credentials : i.credentials = i'.credentials
  document : i.document = i'.document
  languages : List.Forall₂ Relists i.languages i'.languages
  payloads : ∀ locale ∈ IndexEntry.locales i.languages,
    i.payloads.get? locale = i'.payloads.get? locale

variable {target : Target} {es es' : List IndexEntry}

/-! ## The registry -/

theorem locales_congr (h : List.Forall₂ Relists es es') :
    IndexEntry.locales es = IndexEntry.locales es' := by
  induction h with
  | nil => rfl
  | @cons e e' rest rest' he _ ih =>
    show e.language.locale :: IndexEntry.locales rest =
      e'.language.locale :: IndexEntry.locales rest'
    rw [he.2, ih]

theorem any_isDefault_congr (h : List.Forall₂ Relists es es') :
    (es.any fun e => e.language.isDefault) = es'.any fun e => e.language.isDefault := by
  induction h with
  | nil => rfl
  | cons he _ ih => rw [List.any_cons, List.any_cons, he.2, ih]

theorem languageEntry_congr {e e' : IndexEntry} (h : Relists e e') :
    languageEntry target e = languageEntry target e' := by
  unfold languageEntry
  rw [h.1, h.2]

theorem mapM_languageEntry_congr (h : List.Forall₂ Relists es es') :
    es.mapM (languageEntry target) = es'.mapM (languageEntry target) := by
  induction h with
  | nil => rfl
  | cons he _ ih => rw [List.mapM_cons, List.mapM_cons, languageEntry_congr he, ih]

theorem languages_congr (h : List.Forall₂ Relists es es') :
    languages target es = languages target es' := by
  unfold languages
  rw [any_isDefault_congr h, mapM_languageEntry_congr h, locales_congr h]

/-! ## The payloads -/

theorem bundleEntries_agree {payloads payloads' : Dict Text Text} {before : List Text}
    (h : List.Forall₂ Relists es es')
    (hpayloads : ∀ locale ∈ IndexEntry.locales es, payloads.get? locale = payloads'.get? locale) :
    AgreeOn (bundleEntries target payloads before es)
    (bundleEntries target payloads' before es') := by
  induction h generalizing before with
  | nil => exact .ok []
  | @cons e e' rest rest' he hrest ih =>
    obtain ⟨hfound, hmore⟩ := List.forall_mem_cons.mp hpayloads
    rw [bundleEntries, bundleEntries, ← he.2, ← hfound]
    by_cases hmem : e.language.locale ∈ before
    · rw [if_pos hmem, if_pos hmem]
      exact .error (.same _)
    · rw [if_neg hmem, if_neg hmem]
      cases payloads.get? e.language.locale with
      | none => exact .error (.missing _ e.url e'.url)
      | some payload =>
        refine .bind_same _ fun literal => .bind_same _ fun locale => ?_
        exact (ih hmore).bind fun _ => .ok _

theorem bundle_agree {payloads payloads' : Dict Text Text} (h : List.Forall₂ Relists es es')
    (hpayloads : ∀ locale ∈ IndexEntry.locales es, payloads.get? locale = payloads'.get? locale) :
    AgreeOn (bundle target es payloads) (bundle target es' payloads') :=
  (bundleEntries_agree h hpayloads).bind fun _ => .ok _

/-! ## Whole sources -/

variable {i i' : Inputs}

theorem blocks_agree (h : Alike i i') : AgreeOn (blocks target i) (blocks target i') := by
  unfold blocks
  rw [← h.document, ← h.credentials, ← languages_congr h.languages]
  refine .bind_same _ fun sections => .bind_same _ fun localization => .bind_same _ fun config =>
    .bind_same _ fun languages => ?_
  exact (bundle_agree h.languages h.payloads).bind fun _ => .ok _

theorem generate_agree (target : Target) (h : Alike i i') :
    AgreeOn (generate target i) (generate target i') :=
  (blocks_agree h).bind fun _ => .ok _

/-- Inputs that differ in nothing but the retrieval of payloads, and in payloads that no language
asks for, lead to the same source or to failures with the same words. -/
theorem generate_discloses_nothing (target : Target) {i i' : Inputs} (h : Alike i i') :
    (∃ text, generate target i = .ok text ∧ generate target i' = .ok text) ∨
      ∃ f f', generate target i = .error f ∧ generate target i' = .error f' ∧
        f.name = f'.name ∧ f.message = f'.message := by
  have agree := generate_agree target h
  generalize generate target i = x, generate target i' = y at agree ⊢
  cases agree with
  | ok text => exact .inl ⟨text, rfl, rfl⟩
  | error agree => exact .inr ⟨_, _, rfl, rfl, agree.name, agree.message⟩

/-- Inputs with one language, which is at the given address and was changed at the given time. -/
def retrievedInputs (url changed : Option Text) (update : Bool) (payloads : List (Text × Text)) :
    Inputs where
  credentials := ⟨"project", "key"⟩
  document := ⟨.ofList [("default", .ofList [("title", "Titel")])]⟩
  languages := [⟨1, url, changed, update, ⟨2, "Dansk", "da-DK", "LRM", true, false⟩⟩]
  payloads := .ofList payloads

/-- A secret in an address shows neither in a source nor in the words for a payload that is
missing. -/
theorem generate_discloses_nothing_retrievedInputs :
    (∃ text,
      generate .python (retrievedInputs (some "https://cdn/da?token=1") none true [("sv", "s"),
        ("da-DK", "d")]) =
        .ok text ∧
      generate .python (retrievedInputs none (some "2024-01-01") false [("da-DK", "d"),
        ("nb", "n")]) = .ok text) ∧
    ∃ f f', generate .dart (retrievedInputs (some "https://cdn/da?token=1") none true
      [("sv", "s")]) = .error f ∧
      generate .dart (retrievedInputs none none false []) = .error f' ∧ f.name = f'.name ∧
      f.message = f'.message := by
  constructor
  · have alike : Alike (retrievedInputs (some "https://cdn/da?token=1") none true [("sv", "s"),
      ("da-DK", "d")])
        (retrievedInputs none (some "2024-01-01") false [("da-DK", "d"), ("nb", "n")]) :=
      ⟨rfl, rfl, .cons ⟨rfl, rfl⟩ .nil, by decide +kernel⟩
    have ok :
      (generate .python (retrievedInputs none (some "2024-01-01") false [("da-DK", "d"),
        ("nb", "n")])).isOk =
        true := by decide +kernel
    rcases generate_discloses_nothing .python alike with same | ⟨f, f', -, failed, -⟩
    · exact same
    · rw [failed] at ok
      cases ok
  · have alike : Alike (retrievedInputs (some "https://cdn/da?token=1") none true [("sv", "s")])
        (retrievedInputs none none false []) := ⟨rfl, rfl, .cons ⟨rfl, rfl⟩ .nil, by decide +kernel⟩
    have failed : (generate .dart (retrievedInputs none none false [])).isOk = false := by
      decide +kernel
    rcases generate_discloses_nothing .dart alike with ⟨text, -, ok⟩ | same
    · rw [ok] at failed
      cases failed
    · exact same

end Artifact

end LocaleGen
