import LocaleGen.Proofs.Document
import LocaleGen.Proofs.Locale
import LocaleGen.Session
import Mathlib

/-!
# Sessions stay consistent

A change of language does all that can fail before it touches the session (`Session.run_switch`). So
whatever an application asks for, the session shows the locale that was last put into use: its
`picked` locale and its phrases belong together (`Session.Shows`), and a request that fails changes
nothing. Together: `Session.serve_consistent`.
-/

namespace LocaleGen

/-! ## Phrases -/

namespace Store

variable {store : Store} {sectionKey key t : Text}

theorem getD_of_lookup (h : store.lookup sectionKey key = some t) (fallback : Text) :
    store.getD sectionKey key fallback = t := by
  rw [Store.getD, h, Option.getD_some]

theorem getD_of_lookup_eq_none (h : store.lookup sectionKey key = none) (fallback : Text) :
    store.getD sectionKey key fallback = fallback := by
  rw [Store.getD, h, Option.getD_none]

theorem lookup_eq_some :
    store.lookup sectionKey key = some t ↔
      ∃ phrases, store.sections.get? sectionKey = some phrases ∧ phrases.get? key = some t := by
  rw [Store.lookup]
  cases store.sections.get? sectionKey <;> simp

theorem lookup_eq_none :
    store.lookup sectionKey key = none ↔
      ∀ phrases, store.sections.get? sectionKey = some phrases → phrases.get? key = none := by
  rw [Store.lookup]
  cases store.sections.get? sectionKey <;> simp

end Store

namespace Session

variable {s : Session} {active : Option Text}

section

variable [NestingLimits]

def Shows (s : Session) (active : Option Text) : Prop :=
  match active with
  | none => s.picked = [] ∧ s.store = .empty
  | some locale => s.picked = locale ∧ locale ∈ s.bundled.keys ∧
      ∃ payload document, s.bundled.get? locale = some payload ∧
        Document.ofContent payload = .ok document ∧
        s.store = ⟨document.sections⟩

def Holds (s other : Session) : Prop :=
  s.credentials = other.credentials ∧ s.languages = other.languages ∧ s.bundled = other.bundled ∧
    s.debug = other.debug

/-! ## Changes -/

/-- Changing step by step is changing at once: a change that fails leaves the session as it was. -/
theorem run_switch (s : Session) (wanted : Text) :
    (switch wanted).run.run s =
      match s.change wanted with
      | .ok (next, locale) => (.ok locale, next)
      | .error f => (.error f, s) := by
  simp only [switch, change, ExceptT.run_bind, StateT.run_bind]
  -- the first step reads the session; the others run by computation once it is known how the
  -- reading of the payload ends
  change
    (match s.resolve wanted with
    | none => _
    | some locale => _ : ExceptT Fault (StateM Session) Text).run.run s = _
  cases s.resolve wanted with
  | none => rfl
  | some locale =>
    cases h : Document.ofContent ((s.bundled.get? locale).getD []) with
    | error f =>
      simp only [h]
      rfl
    | ok document =>
      simp only [h]
      rfl

/-- A change of language ends in one of three ways. -/
theorem answer_change_cases (s : Session) (wanted : Text) :
    (s.resolve wanted = none ∧
      s.answer (.change wanted) =
        (s, .error (.key ("No bundled translations for locale '" ++ wanted ++ "'")))) ∨
    ∃ locale payload, s.resolve wanted = some locale ∧ s.bundled.get? locale = some payload ∧
      ((∃ document, Document.ofContent payload = .ok document ∧
        s.answer (.change wanted) = ({ s with store := ⟨document.sections⟩, picked := locale },
          .ok (.changed locale))) ∨
      ∃ f, Document.ofContent payload = .error f ∧ s.answer (.change wanted) = (s, .error f)) := by
  cases hresolve : s.resolve wanted with
  | none => exact .inl ⟨rfl, by simp [answer, run_switch, change, hresolve, Except.map]⟩
  | some locale =>
    obtain ⟨payload, hpayload⟩ :=
      Option.isSome_iff_exists.mp (Dict.mem_keys_iff.mp (mem_keys_of_resolve hresolve))
    refine .inr ⟨locale, payload, rfl, hpayload, ?_⟩
    have hanswer := change_of_resolve hresolve hpayload
    cases hdocument : Document.ofContent payload with
    | ok document =>
      exact .inl ⟨document, rfl, by simp [answer, run_switch, hanswer, hdocument, Except.map,
        Store.replace]⟩
    | error f => exact .inr ⟨f, rfl, by simp [answer, run_switch, hanswer, hdocument, Except.map]⟩

theorem answer_of_not_change (s : Session) {request : Request}
    (h : ∀ wanted, request ≠ .change wanted) : (s.answer request).1 = s := by
  cases request with
  | change wanted => exact absurd rfl (h wanted)
  | resolve _ | checksum | phrase _ _ _ => rfl

/-- A request that fails leaves the session as it is. -/
theorem answer_of_error {request : Request} {f : Fault} (h : (s.answer request).2 = .error f) :
    (s.answer request).1 = s := by
  cases request with
  | change wanted =>
    obtain ⟨-, hanswer⟩ | ⟨locale, payload, -, -, ⟨document, -, hanswer⟩ | ⟨fault, -, hanswer⟩⟩ :=
      answer_change_cases s wanted
    · rw [hanswer]
    · rw [hanswer] at h
      cases h
    · rw [hanswer]
  | resolve _ | checksum | phrase _ _ _ => rfl

/-! ## Runs -/

theorem holds_answer (s : Session) (request : Request) : (s.answer request).1.Holds s := by
  cases request with
  | change wanted =>
    obtain ⟨-, hanswer⟩ | ⟨locale, payload, -, -, ⟨document, -, hanswer⟩ | ⟨fault, -, hanswer⟩⟩ :=
      answer_change_cases s wanted
    all_goals
      rw [hanswer]
      exact ⟨rfl, rfl, rfl, rfl⟩
  | resolve _ | checksum | phrase _ _ _ => exact ⟨rfl, rfl, rfl, rfl⟩

/-- After one request the session shows the locale that it has put into use, or the one it showed
before. -/
theorem shows_answer (shows : s.Shows active) (request : Request) :
    (s.answer request).1.Shows ((activated? (s.answer request).2).or active) := by
  cases request with
  | change wanted =>
    obtain ⟨-, hanswer⟩ | ⟨locale, payload, hresolve, hpayload, hcase⟩ :=
      answer_change_cases s wanted
    · rw [hanswer]
      exact shows
    · obtain ⟨document, hdocument, hanswer⟩ | ⟨fault, -, hanswer⟩ := hcase
      · rw [hanswer]
        exact ⟨rfl, mem_keys_of_resolve hresolve, payload, document, hpayload, hdocument, rfl⟩
      · rw [hanswer]
        exact shows
  | checksum =>
    have silent : activated? (s.answer .checksum).2 = none := by
      rw [answer]
      cases s.checksum <;> rfl
    rw [silent]
    exact shows
  | resolve _ | phrase _ _ _ => exact shows

end

theorem lastActivated?_cons (reply : Except Fault Reply) (replies : List (Except Fault Reply)) :
    lastActivated? (reply :: replies) = (lastActivated? replies).or (activated? reply) := by
  simp [lastActivated?, List.findSome?_append]

variable [NestingLimits]

theorem shows_serve (shows : s.Shows active) (requests : List Request) :
    (s.serve requests).1.Shows ((lastActivated? (s.serve requests).2).or active) := by
  induction requests generalizing s active with
  | nil => exact shows
  | cons request rest ih =>
    have := ih (shows_answer shows request)
    rwa [← Option.or_assoc, ← lastActivated?_cons] at this

theorem holds_serve (s : Session) (requests : List Request) : (s.serve requests).1.Holds s := by
  induction requests generalizing s with
  | nil => exact ⟨rfl, rfl, rfl, rfl⟩
  | cons request rest ih =>
    obtain ⟨hcredentials, hlanguages, hbundled, hdebug⟩ := holds_answer s request
    rw [Holds, ← hcredentials, ← hlanguages, ← hbundled, ← hdebug]
    exact ih (s.answer request).1

/-! ## All together -/

/-- Whatever is asked of a session that has been opened, it shows the locale that was last put into
use, and it holds what it was opened with. A request that fails or is no change of language leaves
everything as it is. A change puts the locale that suits best into use if its payload holds a
document, and fails otherwise, as it does when nothing suits. A phrase is that of the store, even if
it is empty, or what stands in for it. -/
theorem serve_consistent (credentials : Credentials) (languages : List IndexEntry)
    (bundled : Dict Text Text) (debug : Bool) :
    (∀ requests, let run := (new credentials languages bundled debug).serve requests
      run.1.Shows (lastActivated? run.2) ∧ run.1.Holds (new credentials languages bundled debug)) ∧
    (∀ s request, (∃ f, (answer s request).2 = .error f) ∨ (∀ wanted, request ≠ .change wanted) →
      (s.answer request).1 = s) ∧
    (∀ s wanted,
      (s.resolve wanted = none ∧
        answer s (.change wanted) =
          (s, .error (.key ("No bundled translations for locale '" ++ wanted ++ "'")))) ∨
      ∃ locale payload, s.resolve wanted = some locale ∧ s.bundled.get? locale = some payload ∧
        ((Document.Within payload ∧ (s.answer (.change wanted)).2 = .ok (.changed locale) ∧
          (s.answer (.change wanted)).1.Shows locale) ∨
        (¬ Document.Within payload ∧ ∃ f, s.answer (.change wanted) = (s, .error f) ∧
          (f.name = "MalformedDocumentError" ∨ (∃ inList, f = .tooDeep inList) ∨
            ∃ count, f = .tooManyDigits count)))) ∧
    ∀ s sectionKey key fallback, ∃ phrase,
    answer s (.phrase sectionKey key fallback) = (s, .ok (.phrase phrase)) ∧
      (∀ phrases t, s.store.sections.get? sectionKey = some phrases →
        phrases.get? key = some t → phrase = t) ∧
      ((∀ phrases, s.store.sections.get? sectionKey = some phrases → phrases.get? key = none) →
        phrase = fallback) := by
  refine ⟨fun requests => ⟨?_, holds_serve _ requests⟩, ?_, fun s wanted => ?_,
    fun s sectionKey key fallback => ?_⟩
  · have opened : (new credentials languages bundled debug).Shows none := ⟨rfl, rfl⟩
    have shows := shows_serve opened requests
    rwa [Option.or_none] at shows
  · rintro s request (⟨f, failed⟩ | other)
    · exact answer_of_error failed
    · exact answer_of_not_change s other
  · obtain ⟨hresolve, hanswer⟩ | ⟨locale, payload, hresolve, hpayload, hcase⟩ :=
      answer_change_cases s wanted
    · exact .inl ⟨hresolve, hanswer⟩
    · refine .inr ⟨locale, payload, hresolve, hpayload, ?_⟩
      obtain ⟨document, hdocument, hanswer⟩ | ⟨f, hfailed, hanswer⟩ := hcase
      · rw [hanswer]
        exact .inl ⟨Document.exists_ofContent_iff.mp ⟨document, hdocument⟩, rfl, rfl,
          mem_keys_of_resolve hresolve, payload,
          document, hpayload, hdocument, rfl⟩
      · refine .inr ⟨fun within => ?_, f, hanswer, Document.name_of_ofContent hfailed⟩
        obtain ⟨document, hdocument⟩ := Document.exists_ofContent_iff.mpr within
        rw [hfailed] at hdocument
        cases hdocument
  · refine ⟨_, rfl, fun phrases t hphrases ht => ?_, fun absent => ?_⟩
    · exact Store.getD_of_lookup (Store.lookup_eq_some.mpr ⟨phrases, hphrases, ht⟩) fallback
    · exact Store.getD_of_lookup_eq_none (Store.lookup_eq_none.mpr absent) fallback

end Session

end LocaleGen
