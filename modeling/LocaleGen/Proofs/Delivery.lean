import LocaleGen.Proofs.Fetching
import LocaleGen.Proofs.Refusal
import Mathlib

/-!
# The last stage before the output

Once a pass has its payloads, it has a default language and a payload for every locale. Of the
reasons to refuse its inputs, keys are left, locales that are listed twice, surrogates and payloads
that cannot be evaluated: `refusals_after_delivery`. The last of them is no fault of the generator's
own: `emission_unhashable`.
-/

namespace LocaleGen

open IndexEntry (locales)

/-! ## Passes that have their payloads -/

namespace World

variable {w : World} {b : Bundling} {e : IndexEntry} {target : Target} {f : Fault}

theorem Opens.exists_default [NestingLimits] (opens : w.Opens b e) :
    ∃ e ∈ b.languages, e.language.isDefault = true := by
  have hfound := IndexEntry.findDefault?_of_findDefault opens.default
  exact ⟨e, List.mem_of_getElem? (IndexEntry.getElem?_of_findDefault? hfound),
    IndexEntry.isDefault_of_findDefault? hfound⟩

theorem Delivers.exists_payload (delivers : w.Delivers b) {e : IndexEntry} (he : e ∈ b.languages) :
    ∃ payload, (w.payloads b).get? e.language.locale = some payload :=
  Option.isSome_iff_exists.mp (((carries_payloads delivers).locales e.language.locale).mpr
    (List.mem_map_of_mem he))

variable [NestingLimits]

/-- A pass that has its payloads lacks neither a default language nor a payload. -/
theorem refusal_cases (opens : w.Opens b e) (delivers : w.Delivers b)
    (h : Artifact.Refusal target (w.inputs b) f) :
    (∃ c, f = .cause c ∧ Naming.KeyFault target.namingRules b.document c) ∨
    (target = .dart ∧ ∃ t c place, Artifact.Embedded (w.inputs b) t ∧ ¬ t.IsScalar ∧
      f = .cause (.unembeddable c place)) ∨
    (∃ locale, 2 ≤ (locales b.languages).count locale ∧ f = .cause (.repeatedLocale locale)) ∨
    (target = .python ∧ ∃ e' ∈ b.languages, ∃ payload,
      (w.payloads b).get? e'.language.locale = some payload ∧
      Python.Obstructs payload f) := by
  cases h with
  | key fault => exact .inl ⟨_, rfl, fault⟩
  | surrogate hdart embedded hc hsurrogate =>
    refine .inr (.inl ⟨hdart, _, _, _, embedded, fun hscalar => ?_, rfl⟩)
    cases (hscalar _ hc).symm.trans hsurrogate
  | noDefault hnone =>
    obtain ⟨e', he', hdefault⟩ := opens.exists_default
    cases (hnone e' he').symm.trans hdefault
  | repeated hcount => exact .inr (.inr (.inl ⟨_, hcount, rfl⟩))
  | missing he' hnone =>
    obtain ⟨payload, hpayload⟩ := delivers.exists_payload he'
    cases hnone.symm.trans hpayload
  | obstacle hpython he' hpayload obstructs =>
    exact .inr (.inr (.inr ⟨hpython, _, he', _, hpayload, obstructs⟩))

/-- There is no reason to refuse the inputs of a pass that has its payloads. -/
theorem no_refusal_iff (opens : w.Opens b e) (delivers : w.Delivers b) :
    (∀ f, ¬ Artifact.Refusal target (w.inputs b) f) ↔
      (∀ c, ¬ Naming.KeyFault target.namingRules b.document c) ∧ (locales b.languages).Nodup ∧
      (target = .dart → ∀ t, Artifact.Embedded (w.inputs b) t → t.IsScalar) ∧
      (target = .python →
        ∀ e' ∈ b.languages, ∀ payload, (w.payloads b).get? e'.language.locale = some payload →
        ∀ f, ¬ Python.Obstructs payload f) := by
  constructor
  · intro none
    refine ⟨fun c fault => none _ (.key fault), ?_, fun hdart t embedded c hc => ?_,
      fun hpython e' he' payload hpayload f obstructs =>
        none f (.obstacle hpython he' hpayload obstructs)⟩
    · refine List.nodup_iff_count_le_one.mpr fun locale => ?_
      by_contra hmore
      have hcount : 2 ≤ (locales b.languages).count locale := by omega
      exact none _ (.repeated hcount)
    · cases hsurrogate : c.isSurrogate with
      | false => rfl
      | true =>
        exact absurd (.surrogate hdart embedded hc hsurrogate) (none (.cause (.unembeddable c 0)))
  · rintro ⟨keys, distinct, scalar, evaluable⟩ f refusal
    rcases refusal_cases opens delivers refusal with
      ⟨c, -, fault⟩ | ⟨hdart, t, _, _, embedded, hnot, -⟩ |
      ⟨locale, hcount, -⟩ | ⟨hpython, e', he', payload, hpayload, obstructs⟩
    · exact keys c fault
    · exact hnot (scalar hdart t embedded)
    · have honce := List.nodup_iff_count_le_one.mp distinct locale
      omega
    · exact evaluable hpython e' he' payload hpayload f obstructs

end World

theorem Python.Obstructs.ne_cause {p : Text} {f : Fault} (h : Obstructs p f) (c : Cause) :
    f ≠ .cause c := by
  obtain ⟨-, o, -, rfl⟩ := h
  cases o <;> exact Fault.noConfusion

/-- The stage that generates the source of a pass fails with causes of four kinds. A language
without a payload and a list without a default language are not among them: it is a key that is at
fault, a locale that is listed twice, or a text with a surrogate where the target is Dart. Any other
fault comes of a payload that Python cannot evaluate. Where nothing of this is the case, and only
there, the source is generated. -/
theorem refusals_after_delivery [NestingLimits] {w : World} {b : Bundling} {e : IndexEntry}
    (opens : w.Opens b e) (delivers : w.Delivers b) (target : Target) :
    (∀ c, Artifact.generate target (w.inputs b) = .error (.cause c) →
      c.kind ∈ [.malformedDocument, .invalidIdentifier, .invariantViolation, .escapeOverflow] ∧
      (c.kind = .malformedDocument ∨ c.kind = .invalidIdentifier →
        Naming.KeyFault target.namingRules b.document c) ∧
      (c.kind = .invariantViolation →
        ∃ locale, 2 ≤ (locales b.languages).count locale ∧ c = .repeatedLocale locale) ∧
      (c.kind = .escapeOverflow →
        target = .dart ∧ ∃ t, Artifact.Embedded (w.inputs b) t ∧ ¬ t.IsScalar)) ∧
    (∀ f, Artifact.generate target (w.inputs b) = .error f → (∀ c, f ≠ .cause c) →
      target = .python ∧ ∃ e' ∈ b.languages, ∃ payload,
      (w.payloads b).get? e'.language.locale = some payload ∧
        Python.Obstructs payload f) ∧
    ((∃ text, Artifact.generate target (w.inputs b) = .ok text) ↔
      (∀ c, ¬ Naming.KeyFault target.namingRules b.document c) ∧ (locales b.languages).Nodup ∧
      (target = .dart → ∀ t, Artifact.Embedded (w.inputs b) t → t.IsScalar) ∧
      (target = .python →
        ∀ e' ∈ b.languages, ∀ payload, (w.payloads b).get? e'.language.locale = some payload →
        ∀ f, ¬ Python.Obstructs payload f)) := by
  refine ⟨fun c h => ?_, fun f h other => ?_, ?_⟩
  · rcases World.refusal_cases opens delivers (Artifact.explained_generate _ h) with
      ⟨c', heq, fault⟩ | ⟨hdart, t, x, place, embedded, hnot, heq⟩ | ⟨locale, hcount, heq⟩ | ⟨-, _,
        -, _, -, obstructs⟩
    · cases heq
      rcases fault.kind with hkind | hkind <;> simp [hkind, fault]
    · cases heq
      exact ⟨by simp [Cause.kind], by simp [Cause.kind], by simp [Cause.kind],
        fun _ => ⟨hdart, t, embedded, hnot⟩⟩
    · cases heq
      exact ⟨by simp [Cause.kind], by simp [Cause.kind],
        fun _ => ⟨locale, hcount, rfl⟩, by simp [Cause.kind]⟩
    · exact absurd rfl (obstructs.ne_cause c)
  · rcases World.refusal_cases opens delivers (Artifact.explained_generate _ h) with
      ⟨c, rfl, -⟩ | ⟨-, _, c, _, -, -, rfl⟩ | ⟨_, -, rfl⟩ | ⟨hpython, e', he', payload,
        hpayload, obstructs⟩
    · exact absurd rfl (other c)
    · exact absurd rfl (other _)
    · exact absurd rfl (other _)
    · exact ⟨hpython, e', he', payload, hpayload, obstructs⟩
  · exact Artifact.exists_source_iff.trans (World.no_refusal_iff opens delivers)

def english : IndexEntry := ⟨1, none, none, false, ⟨1, "English", "en-GB", "LRM", true, false⟩⟩

/-- A payload whose one phrase closes the raw literal of the payload and goes on with a set that
holds a list. -/
def obstructingPayload : Text :=
  r#"{"data": {"general": {"ok": "a''', {[]}, r'''b"}}}"#

def obstructingWorld : World where
  content := .ok r#"{"nstack_project_id": "project", "nstack_api_key": "key"}"#
  connected _ := .ok ()
  index _ := .ok [english]
  payload _ _ _ := .ok obstructingPayload
  written _ _ := .ok ()

def Fault.wordsOf {α : Type} (r : Except Fault α) : Option (Text × Text) :=
  match r with
  | .ok _ => none
  | .error f => some (f.name, f.message)

theorem Fault.eq_error_of_wordsOf {α : Type} {r : Except Fault α} {name message : Text}
    (h : wordsOf r = some (name, message)) :
    ∃ f, r = .error f ∧ f.name = name ∧ f.message = message := by
  cases r with
  | ok a => cases h
  | error f =>
    obtain ⟨hname, hmessage⟩ := Prod.mk.inj (Option.some.inj h)
    exact ⟨f, rfl, hname, hmessage⟩

theorem obstructing_opens : ∃ b e, obstructingWorld.Opens b e ∧ obstructingWorld.Delivers b ∧
    Fault.wordsOf (Artifact.generate .python (obstructingWorld.inputs b)) =
      some (("TypeError", "unhashable type: 'list'") : Text × Text) := by
  have credentials : obstructingWorld.credentials.toOption = some ⟨"project", "key"⟩ := by
    decide +kernel
  have refused : ((Document.ofContent obstructingPayload).toOption.any fun document =>
      Fault.wordsOf (Artifact.generate .python
        (obstructingWorld.inputs ⟨⟨"project", "key"⟩, [english], 0, obstructingPayload, document⟩)) =
          some (("TypeError", "unhashable type: 'list'") : Text × Text)) = true := by
    decide +kernel
  obtain ⟨document, hdocument, hrefused⟩ := (Option.any_eq_true _ _).mp refused
  refine ⟨⟨⟨"project", "key"⟩, [english], 0, obstructingPayload, document⟩, english, ?_,
    ?_, by simpa using hrefused⟩
  · exact {
      credentials := toOption_eq_some.mp credentials
      connected := rfl
      languages := rfl
      default := rfl
      payload := rfl
      document := toOption_eq_some.mp hdocument }
  · intro place hplace
    exact absurd hplace (by simp [Bundling.pending])

theorem Fault.ne_cause_of_typeError {f : Fault} (h : f.name = "TypeError") (c : Cause) :
    f ≠ .cause c := by
  rintro rfl
  have hkind : ∀ kind : FailureKind, kind.name ≠ "TypeError" := by
    intro kind
    cases kind <;> decide
  exact hkind c.kind h

theorem refusals_after_delivery_obstructing :
    ∃ b e f, obstructingWorld.Opens b e ∧ obstructingWorld.Delivers b ∧
    Artifact.generate .python (obstructingWorld.inputs b) = .error f ∧
    (∃ e' ∈ b.languages, ∃ payload, (obstructingWorld.payloads b).get? e'.language.locale = some payload ∧
      Python.Obstructs payload f) ∧
    ¬ ∃ text, Artifact.generate .python (obstructingWorld.inputs b) = .ok text := by
  obtain ⟨b, e, opens, delivers, hwords⟩ := obstructing_opens
  obtain ⟨f, hrefused, hname, -⟩ := Fault.eq_error_of_wordsOf hwords
  obtain ⟨-, faults, generated⟩ := refusals_after_delivery opens delivers .python
  obtain ⟨-, e', he', payload, hpayload, obstructs⟩ :=
    faults f hrefused (Fault.ne_cause_of_typeError hname)
  refine ⟨b, e, f, opens, delivers, hrefused, ⟨e', he', payload, hpayload, obstructs⟩,
    fun hsource => ?_⟩
  obtain ⟨-, -, -, evaluable⟩ := generated.mp hsource
  exact evaluable rfl e' he' payload hpayload f obstructs

/-- A pass has all its payloads, its keys and its locale are in order, and yet no source is
generated. -/
theorem emission_unhashable : ∃ b e, obstructingWorld.Opens b e ∧ obstructingWorld.Delivers b ∧
    ∃ f, Artifact.generate .python (obstructingWorld.inputs b) = .error f ∧ f.name = "TypeError" ∧
      f.message = "unhashable type: 'list'" ∧ ∀ c, f ≠ .cause c := by
  obtain ⟨b, e, opens, delivers, hwords⟩ := obstructing_opens
  obtain ⟨f, hrefused, hname, hmessage⟩ := Fault.eq_error_of_wordsOf hwords
  exact ⟨b, e, opens, delivers, f, hrefused, hname, hmessage, Fault.ne_cause_of_typeError hname⟩

end LocaleGen
