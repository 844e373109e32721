import LocaleGen.Proofs.Bundle
import LocaleGen.Session
import Mathlib

/-!
# Locales of a bundle

A session finds the locales of its bundle by their normal forms, and of two with one normal form the
later one hides the earlier (`Locale.Shadowed`). So a language that is embedded is reached by its
own locale just if no later one shadows it, and all of them are if their normal forms differ:
`resolve_embedded`. The generator tells locales apart by their spelling alone, so it embeds
languages that nothing reaches: `embedded_unreachable`.
-/

namespace LocaleGen

namespace Locale

def lastLike? (known : List Text) (locale : Text) : Option Text :=
  known.reverse.find? fun l => normal l = normal locale

def Shadowed (known : List Text) (locale : Text) : Prop :=
  ∃ later, [locale, later].Sublist known ∧ normal later = normal locale

/-! ## The table of normal forms -/

theorem lookup_map_mk {κ α : Type} [DecidableEq κ] (f : α → κ) (as : List α) (k : κ) :
    (as.map fun a => (f a, a)).lookup k = as.find? fun a => f a = k := by
  induction as with
  | nil => rfl
  | cons a rest ih =>
    rw [List.map_cons, List.lookup_cons, List.find?_cons, ih, beq_eq_decide,
      decide_eq_decide.mpr eq_comm]

theorem get?_table (known : List Text) (form : Text) :
    (table known).get? form = known.reverse.find? fun l => normal l = form := by
  rw [table, Dict.get?_ofList, ← List.map_reverse, lookup_map_mk]

theorem lastLike?_isSome {known : List Text} {locale : Text} (h : locale ∈ known) :
    (lastLike? known locale).isSome := by
  rw [lastLike?, List.find?_isSome]
  exact ⟨locale, List.mem_reverse.mpr h, by simp⟩

theorem of_lastLike? {known : List Text} {locale last : Text}
    (h : lastLike? known locale = some last) :
    last ∈ known ∧ normal last = normal locale ∧ lastLike? known last = some last := by
  have same : normal last = normal locale := by simpa using List.find?_some h
  refine ⟨List.mem_reverse.mp (List.mem_of_find?_eq_some h), same, ?_⟩
  rwa [lastLike?, same]

theorem best?_of_mem {known : List Text} {locale : Text} (h : locale ∈ known) :
    best? known locale = lastLike? known locale := by
  obtain ⟨last, hlast⟩ := Option.isSome_iff_exists.mp (lastLike?_isSome h)
  rw [best?, get?_table, hlast, ← lastLike?, hlast]

theorem lastLike?_of_best? {known : List Text} {wanted found : Text}
    (h : best? known wanted = some found) : lastLike? known found = some found := by
  unfold best? at h
  split at h
  · next exact hexact =>
    cases h
    rw [get?_table] at hexact
    exact (of_lastLike? hexact).2.2
  · obtain ⟨⟨form, locale⟩, hfound, rfl⟩ := Option.map_eq_some_iff.mp h
    have hentry := Dict.get?_of_mem (List.mem_of_find?_eq_some hfound)
    rw [get?_table] at hentry
    have hform : normal locale = form := by simpa using List.find?_some hentry
    rwa [lastLike?, hform]

/-! ## Shadowed locales -/

theorem shadowed_append_iff {before after : List Text} {locale : Text} (h : locale ∉ before) :
    Shadowed (before ++ locale :: after) locale ↔
    ∃ later ∈ after, normal later = normal locale := by
  constructor
  · rintro ⟨later, hsub, same⟩
    obtain ⟨front, back, heq, hfront, hback⟩ := List.sublist_append_iff.mp hsub
    cases front with
    | nil =>
      subst heq
      exact ⟨later, List.singleton_sublist.mp (List.cons_sublist_cons.mp hback), same⟩
    | cons first rest =>
      obtain ⟨rfl, -⟩ := List.cons.inj heq
      exact absurd (hfront.subset List.mem_cons_self) h
  · rintro ⟨later, hlater, same⟩
    refine ⟨later, ?_, same⟩
    exact ((List.singleton_sublist.mpr hlater).cons_cons locale).trans
      (List.sublist_append_right _ _)

theorem lastLike?_append {before after : List Text} {locale : Text} (h : locale ∉ after) :
    lastLike? (before ++ locale :: after) locale = some locale ↔
    ∀ later ∈ after, normal later ≠ normal locale := by
  rw [lastLike?, List.reverse_append, List.reverse_cons, List.append_assoc, List.find?_append]
  cases hfound : after.reverse.find? fun l => normal l = normal locale with
  | none => simpa using hfound
  | some found =>
    have hmem : found ∈ after := List.mem_reverse.mp (List.mem_of_find?_eq_some hfound)
    have same : normal found = normal locale := by simpa using List.find?_some hfound
    constructor
    · intro heq
      cases heq
      exact absurd hmem h
    · intro hnone
      exact absurd same (hnone found hmem)

/-- Of locales that differ, a known one is the last with its normal form just if no later one
shadows it. -/
theorem lastLike?_eq_self_iff {known : List Text} (distinct : known.Nodup) {locale : Text}
    (h : locale ∈ known) : lastLike? known locale = some locale ↔ ¬ Shadowed known locale := by
  obtain ⟨before, after, rfl⟩ := List.append_of_mem h
  obtain ⟨-, hafter, hbefore⟩ := List.nodup_append.mp distinct
  rw [lastLike?_append (List.nodup_cons.mp hafter).1,
    shadowed_append_iff fun hmem => hbefore locale hmem locale List.mem_cons_self rfl]
  simp

/-- No locale is shadowed just if all normal forms differ. -/
theorem nodup_normal_iff {known : List Text} :
    (known.map normal).Nodup ↔ ∀ locale ∈ known, ¬ Shadowed known locale := by
  rw [List.Nodup, List.pairwise_map, List.pairwise_iff_forall_sublist]
  constructor
  · rintro h locale - ⟨later, hsub, same⟩
    exact h hsub same.symm
  · intro h locale later hsub same
    exact h locale (hsub.subset List.mem_cons_self) ⟨later, hsub, same.symm⟩

end Locale

/-! ## Embedded payloads -/

namespace Artifact

variable {target : Target} {payloads : Dict Text Text} {languages : List IndexEntry}
    {pairs : List (Text × Text)}

theorem exists_payload (accepted : bundleEntries target payloads [] languages = .ok pairs)
    {locale : Text} (h : locale ∈ IndexEntry.locales languages) :
    ∃ payload, payloads.get? locale = some payload := by
  obtain ⟨e, he, rfl⟩ := List.mem_map.mp h
  obtain ⟨-, -, embeds⟩ := bundleEntries_eq_ok.mp accepted
  obtain ⟨-, -, payload, hpayload, -⟩ := exists_of_mem_left embeds he
  exact ⟨payload, hpayload⟩

theorem nodup_locales (accepted : bundleEntries target payloads [] languages = .ok pairs) :
    (IndexEntry.locales languages).Nodup :=
  (bundleEntries_eq_ok.mp accepted).1

/-- A bundle that is generated has every language, in the order of the list. -/
theorem keys_embedded (accepted : bundleEntries target payloads [] languages = .ok pairs) :
    (embedded payloads languages).keys = IndexEntry.locales languages := by
  have keys : (languages.filterMap fun e => (payloads.get? e.language.locale).map fun payload =>
      (e.language.locale, payload)).map Prod.fst = IndexEntry.locales languages := by
    rw [List.map_filterMap, IndexEntry.locales, ← List.filterMap_eq_map]
    refine List.filterMap_congr fun e he => ?_
    obtain ⟨payload, hpayload⟩ := exists_payload accepted (List.mem_map_of_mem he)
    simp [hpayload]
  rw [embedded, Dict.keys, Dict.entries_ofList (keys ▸ nodup_locales accepted), keys]

/-- A bundle that is generated has the right payload for every language. -/
theorem get?_embedded (accepted : bundleEntries target payloads [] languages = .ok pairs)
    {locale : Text} (h : locale ∈ IndexEntry.locales languages) :
    (embedded payloads languages).get? locale = payloads.get? locale := by
  rw [← keys_embedded accepted, Dict.mem_keys_iff] at h
  obtain ⟨payload, hpayload⟩ := Option.isSome_iff_exists.mp h
  obtain ⟨e, -, he⟩ := List.mem_filterMap.mp (Dict.mem_of_get?_ofList hpayload)
  obtain ⟨found, hfound, heq⟩ := Option.map_eq_some_iff.mp he
  cases heq
  rw [hpayload, hfound]

end Artifact

/-! ## Sessions -/

namespace Session

variable {s : Session} {wanted found : Text}

theorem mem_keys_of_defaultLocale? (h : s.defaultLocale? = some found) :
    found ∈ s.bundled.keys := by
  unfold defaultLocale? at h
  split at h
  · split at h
    · next hcontains =>
      cases h
      exact Dict.mem_keys_iff.mpr hcontains
    · cases h
  · cases h

/-- A session finds nothing but what it has a payload for. -/
theorem mem_keys_of_resolve (h : s.resolve wanted = some found) : found ∈ s.bundled.keys := by
  unfold resolve at h
  split at h
  · next locale hbest =>
    cases h
    exact (Locale.of_lastLike? (Locale.lastLike?_of_best? hbest)).1
  · exact mem_keys_of_defaultLocale? h

theorem resolve_of_mem (h : wanted ∈ s.bundled.keys) :
    s.resolve wanted = Locale.lastLike? s.bundled.keys wanted := by
  obtain ⟨last, hlast⟩ := Option.isSome_iff_exists.mp (Locale.lastLike?_isSome h)
  rw [resolve, Locale.best?_of_mem h, hlast]

/-- A shadowed locale is found in one way only: as that of the default language, when nothing else
suits. -/
theorem defaultLocale?_of_shadowed (h : s.resolve wanted = some found)
    (shadowed : Locale.Shadowed s.bundled.keys found) : s.defaultLocale? = some found := by
  unfold resolve at h
  split at h
  · next locale hbest =>
    cases h
    have hlast := Locale.lastLike?_of_best? hbest
    exact absurd shadowed
      ((Locale.lastLike?_eq_self_iff s.bundled.distinct (Locale.of_lastLike? hlast).1).mp hlast)
  · exact h

/-- What a session puts into use when it finds a locale. -/
theorem change_of_resolve [NestingLimits] {payload : Text} (h : s.resolve wanted = some found)
    (hpayload : s.bundled.get? found = some payload) :
    s.change wanted = (Document.ofContent payload).map fun document =>
      ({ s with store := s.store.replace document, picked := found }, found) := by
  simp only [change, h, hpayload, Option.getD_some]
  cases Document.ofContent payload <;> rfl

end Session

open IndexEntry (locales)

/-- A language that is embedded is reached by its own locale just if no later one shadows it;
otherwise the last one with the same normal form is put into use. All of them are reached just if
their normal forms differ, and what is shadowed is reached in no way but as the default language. -/
theorem resolve_embedded [NestingLimits] {target : Target} {payloads : Dict Text Text}
    {languages : List IndexEntry} {pairs : List (Text × Text)}
    (accepted : Artifact.bundleEntries target payloads [] languages = .ok pairs) (s : Session)
    (bundled : s.bundled = Artifact.embedded payloads languages) :
    (∀ locale ∈ locales languages,
      (s.resolve locale = some locale ↔ ¬ Locale.Shadowed (locales languages) locale) ∧
      ∃ last payload, s.resolve locale = some last ∧ last ∈ locales languages ∧
        Locale.normal last = Locale.normal locale ∧ ¬ Locale.Shadowed (locales languages) last ∧
        payloads.get? last = some payload ∧
        s.change locale = (Document.ofContent payload).map fun document =>
          ({ s with store := s.store.replace document, picked := last }, last)) ∧
    ((∀ locale ∈ locales languages, s.resolve locale = some locale) ↔
      ((locales languages).map Locale.normal).Nodup) ∧
    ∀ wanted found, s.resolve wanted = some found → Locale.Shadowed (locales languages) found →
      s.defaultLocale? = some found := by
  have keys : s.bundled.keys = locales languages := by rw [bundled, Artifact.keys_embedded accepted]
  have distinct := Artifact.nodup_locales accepted
  have own : ∀ locale ∈ locales languages,
      (s.resolve locale = some locale ↔ ¬ Locale.Shadowed (locales languages) locale) := by
    intro locale h
    rw [Session.resolve_of_mem (keys ▸ h), keys, Locale.lastLike?_eq_self_iff distinct h]
  refine ⟨fun locale h => ⟨own locale h, ?_⟩, ?_, fun wanted found hfound shadowed => ?_⟩
  · obtain ⟨last, hlast⟩ := Option.isSome_iff_exists.mp (Locale.lastLike?_isSome h)
    obtain ⟨hmem, same, itself⟩ := Locale.of_lastLike? hlast
    have hresolve : s.resolve locale = some last := by
      rw [Session.resolve_of_mem (keys ▸ h), keys, hlast]
    obtain ⟨payload, hpayload⟩ := Artifact.exists_payload accepted hmem
    refine ⟨last, payload, hresolve, hmem, same,
      (Locale.lastLike?_eq_self_iff distinct hmem).mp itself, hpayload, ?_⟩
    exact Session.change_of_resolve hresolve
      (by rw [bundled, Artifact.get?_embedded accepted hmem, hpayload])
  · rw [Locale.nodup_normal_iff]
    exact forall₂_congr own
  · exact Session.defaultLocale?_of_shadowed hfound (keys ▸ shadowed)

def twiceSpelledLanguages : List IndexEntry :=
  [Session.registered 1 ⟨1, "English", "en-GB", "LRM", false, false⟩,
   Session.registered 2 ⟨2, "Dansk", "da-DK", "LRM", true, false⟩,
   Session.registered 3 ⟨3, "English", "en_GB", "LRM", false, false⟩]

def twiceSpelledPayloads : Dict Text Text :=
  .ofList [("en-GB", r#"{"data": {"general": {"ok": "first"}}}"#),
    ("da-DK", r#"{"data": {}}"#),
    ("en_GB", r#"{"data": {"general": {"ok": "second"}}}"#)]

def twiceSpelledSession : Session :=
  .new ⟨"project", "key"⟩ twiceSpelledLanguages
    (Artifact.embedded twiceSpelledPayloads twiceSpelledLanguages) false

theorem resolve_embedded_danish :
    ∃ pairs, Artifact.bundleEntries .python twiceSpelledPayloads [] twiceSpelledLanguages = .ok pairs ∧
    twiceSpelledSession.bundled = Artifact.embedded twiceSpelledPayloads twiceSpelledLanguages ∧
    (twiceSpelledSession.resolve "da-DK" = some "da-DK" ↔
      ¬ Locale.Shadowed (locales twiceSpelledLanguages) "da-DK") := by
  have hok : (Artifact.bundleEntries .python twiceSpelledPayloads [] twiceSpelledLanguages).isOk =
    true := by decide +kernel
  cases hpairs : Artifact.bundleEntries .python twiceSpelledPayloads [] twiceSpelledLanguages with
  | error fault =>
    rw [hpairs] at hok
    cases hok
  | ok pairs =>
    exact ⟨pairs, rfl, rfl, ((resolve_embedded hpairs twiceSpelledSession rfl).1 "da-DK" (by decide)).1⟩

/-- A bundle is generated for both spellings, but whichever is wanted, the second one and its
payload are put into use. -/
theorem embedded_unreachable :
    (Artifact.bundleEntries .python twiceSpelledPayloads [] twiceSpelledLanguages).isOk = true ∧
    twiceSpelledSession.bundled.contains "en-GB" = true ∧
    twiceSpelledSession.resolve "en-GB" = some "en_GB" ∧
    ((twiceSpelledSession.change "en-GB").toOption.map fun r => r.1.picked) = some "en_GB" ∧
    ((twiceSpelledSession.change "en-GB").toOption.bind fun r => r.1.store.lookup "general" "ok") =
      some "second" := by
  decide +kernel

end LocaleGen
