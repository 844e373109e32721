import LocaleGen.Proofs.Emission
import LocaleGen.Proofs.Session
import LocaleGen.Proofs.Verdict
import Mathlib

/-!
# Fallbacks

An emitted source holds the phrases of the default language twice: decoded, as what stands in for a
phrase, and within the payload that it embeds. `fallbacks_agree` follows the payload from the
service through the source into a session that is opened with it: once the default language is in
use, every accessor gives what it gave before anything was.
-/

namespace LocaleGen

open IndexEntry (locales)

/-! ## The default language -/

namespace IndexEntry

/-- Which language is the default depends on the languages alone. -/
theorem language_findDefault?_map {f : IndexEntry → IndexEntry}
    (same : ∀ e, (f e).language = e.language) (entries : List IndexEntry) :
    ((findDefault? (entries.map f)).map fun found => found.2.language) =
      (findDefault? entries).map fun found => found.2.language := by
  induction entries with
  | nil => rfl
  | cons e rest ih =>
    rw [List.map_cons, findDefault?, findDefault?, same]
    split
    · simp [same]
    · simpa [Option.map_map, Function.comp_def] using ih

end IndexEntry

/-! ## Opening a session -/

namespace Session

/-- The session that is opened with a source holds what the source has been generated from. -/
theorem ofReading_eq {i : Artifact.Inputs} {r : Reading} (h : r.Conveys i) (debug : Bool) :
    ofReading r debug = new i.credentials (i.languages.map fun e => registered e.id e.language)
      (Artifact.embedded i.payloads i.languages) debug := by
  rw [ofReading, h.credentials, h.languages, h.bundle, List.map_map]
  rfl

theorem defaultLanguage?_new (credentials : Credentials) (languages : List IndexEntry)
    (bundled : Dict Text Text) (debug : Bool) :
    (new credentials (languages.map fun e => registered e.id e.language) bundled debug).defaultLanguage? =
      (IndexEntry.findDefault? languages).map fun found => found.2.language :=
  IndexEntry.language_findDefault?_map (f := fun e => registered e.id e.language) (fun _ =>
    rfl) languages

end Session

section

variable [NestingLimits]

/-- The payload that is embedded for the default language is the one that has been decoded into the
document. -/
theorem World.Opens.payloads_default {w : World} {b : Bundling} {e : IndexEntry}
    (opens : w.Opens b e) (delivers : w.Delivers b) (distinct : (locales b.languages).Nodup) :
    (w.payloads b).get? e.language.locale = some b.defaultPayload := by
  have hplace :=
    IndexEntry.getElem?_of_findDefault? (IndexEntry.findDefault?_of_findDefault opens.default)
  have only : ∀ later e', b.defaultPlace < later → b.languages[later]? = some e' →
      e'.language.locale ≠ e.language.locale := by
    intro later e' hlater he' same
    have hlocale : ∀ {place : Nat} {entry : IndexEntry}, b.languages[place]? = some entry →
        (locales b.languages)[place]? = some entry.language.locale := by
      intro place entry hentry
      rw [locales, List.getElem?_map, hentry, Option.map_some]
    have hbound : b.defaultPlace < (locales b.languages).length :=
      (List.getElem?_eq_some_iff.mp (hlocale hplace)).1
    have hequal :=
      (List.getElem?_inj hbound distinct).mp ((hlocale hplace).trans (same ▸ (hlocale he').symm))
    exact absurd hequal (Nat.ne_of_lt hlater)
  simpa using (World.carries_payloads delivers).last b.defaultPlace e hplace only

/-! ## Passes that are completed -/

/-- A pass whose stages all succeed can be completed. -/
theorem World.exists_completed {w : World} {job : Job} {b : Bundling} {e : IndexEntry} {text : Text}
    (triggered : job.isTriggered = true) (opens : w.Opens b e) (delivers : w.Delivers b)
    (generated : Artifact.generate job.settings.target (w.inputs b) = .ok text)
    (written : w.written job.output text = .ok ()) :
    ∃ c, Course.Reaches w job (Course.start w job) c ∧ c.state = .finished .completed := by
  have opened : w.opened job = .ok b := by
    simp [World.opened, triggered, opens.credentials, opens.connected, opens.languages,
      opens.default, opens.payload,
      opens.document]
  obtain ⟨c, reached, o, hend⟩ :=
    Course.exists_end Standing.step Standing.ends_or_steps (Standing.begin (w := w))
  refine ⟨c, reached, hend.trans (congrArg _ ?_)⟩
  rcases ((Standing.of_reaches reached).verdict hend).of_opened with
    ⟨failed, -⟩ | ⟨_, _, _, opened', -, conclusion, -⟩
  · cases opened.symm.trans failed
  · cases opened.symm.trans opened'
    rcases conclusion.delivered delivers with
      ⟨f, failed, -, -⟩ | ⟨text', generated', -, ⟨f, failed, -⟩ | ⟨-, completed⟩⟩
    · cases generated.symm.trans failed
    · cases generated.symm.trans generated'
      cases written.symm.trans failed
    · exact completed

/-! ## All together -/

namespace Session

variable {i : Artifact.Inputs} {pairs : List (Text × Text)} {target : Target}
    {locale payload : Text}

/-- A session that is opened with a source whose locales differ in their normal forms puts each of
them into use. -/
theorem change_embedded {s : Session}
    (accepted : Artifact.bundleEntries target i.payloads [] i.languages = .ok pairs)
    (bundled : s.bundled = Artifact.embedded i.payloads i.languages)
    (distinct : ((locales i.languages).map Locale.normal).Nodup) (h : locale ∈ locales i.languages)
    (hpayload : i.payloads.get? locale = some payload) :
    s.change locale = (Document.ofContent payload).map fun document =>
      ({ s with store := ⟨document.sections⟩, picked := locale }, locale) := by
  have keys : s.bundled.keys = locales i.languages := by
    rw [bundled, Artifact.keys_embedded accepted]
  refine change_of_resolve ?_ (by rw [bundled, Artifact.get?_embedded accepted h, hpayload])
  rw [resolve_of_mem (keys ▸ h), keys,
    Locale.lastLike?_eq_self_iff (Artifact.nodup_locales accepted) h]
  exact Locale.nodup_normal_iff.mp distinct locale h

end Session

end

theorem Reading.Conveys.getD_eq {i : Artifact.Inputs} {r : Reading} (h : r.Conveys i)
    {s : SectionReading} (hs : s ∈ r.sections) {name key fallback : Text}
    (hmember : (name, key, fallback) ∈ s.members) :
    Store.getD ⟨i.document.sections⟩ s.key key fallback = fallback := by
  obtain ⟨phrases, hphrases, hmembers⟩ := h.mem_section hs
  have hphrase : (key, fallback) ∈ phrases.entries :=
    hmembers ▸ List.mem_map_of_mem (f := Prod.snd) hmember
  exact Store.getD_of_lookup
    (Store.lookup_eq_some.mpr ⟨phrases, Dict.get?_of_mem hphrases, Dict.get?_of_mem hphrase⟩) fallback

/-- A pass that is completed leaves behind a source that can be read. A session that is opened with
it has for its default language the one whose payload the pass has decoded. If the locales differ in
their normal forms, that language can be put into use, and then every accessor gives what stands in
for its phrase, as it did when nothing was in use. -/
theorem fallbacks_agree [NestingLimits] {w : World} {job : Job} {c : Course}
    (reached : Course.Reaches w job (Course.start w job) c)
    (completed : c.state = .finished .completed) (debug : Bool) :
    ∃ b e text r, w.Opens b e ∧ c.outputs w = [(job.outputId, text)] ∧
    job.settings.target.read text = some r ∧
      r.Conveys (w.inputs b) ∧ (Session.ofReading r debug).defaultLanguage? = some e.language ∧
      (((locales b.languages).map Locale.normal).Nodup →
        ∃ after, (Session.ofReading r debug).change e.language.locale =
          .ok (after, e.language.locale) ∧
          after.Shows e.language.locale ∧
          ∀ s ∈ r.sections, ∀ name key fallback, (name, key, fallback) ∈ s.members →
            (Session.ofReading r debug).store.getD s.key key fallback = fallback ∧
            after.store.getD s.key key fallback = fallback) := by
  obtain ⟨b, e, text, opens, delivers, generated, written⟩ :=
    ((Standing.of_reaches reached).verdict completed).outputs.2 rfl
  obtain ⟨r, hread, conveys⟩ := Artifact.exists_conveying generated
  have hdefault := IndexEntry.findDefault?_of_findDefault opens.default
  refine ⟨b, e, text, r, opens, written, hread, conveys, ?_, fun distinct => ?_⟩
  · rw [Session.ofReading_eq conveys, Session.defaultLanguage?_new]
    exact congrArg (Option.map fun found => found.2.language) hdefault
  · obtain ⟨pairs, accepted⟩ := Artifact.exists_bundleEntries generated
    have hpayload := opens.payloads_default delivers (Artifact.nodup_locales accepted)
    have hmem : e.language.locale ∈ locales b.languages :=
      List.mem_map_of_mem (List.mem_of_getElem? (IndexEntry.getElem?_of_findDefault? hdefault))
    have bundled : (Session.ofReading r debug).bundled =
        Artifact.embedded (w.inputs b).payloads b.languages := by
      rw [Session.ofReading_eq conveys]
      rfl
    have changed := Session.change_embedded accepted bundled distinct hmem hpayload
    rw [opens.document] at changed
    have embedded : (Session.ofReading r debug).bundled.get? e.language.locale =
        some b.defaultPayload := by
      rw [bundled]
      exact (Artifact.get?_embedded accepted hmem).trans hpayload
    refine ⟨_, changed, ⟨rfl, ?_, b.defaultPayload, b.document, embedded, opens.document, rfl⟩,
      fun s hs name key fallback hmember => ⟨rfl, conveys.getD_eq hs hmember⟩⟩
    exact Dict.mem_keys_iff.mpr (Option.isSome_iff_exists.mpr ⟨_, embedded⟩)

def threeLanguages : List IndexEntry :=
  [⟨1, none, none, false, ⟨1, "Dansk", "da-DK", "LRM", false, false⟩⟩,
   ⟨2, none, none, false, ⟨2, "English", "en-GB", "LRM", true, false⟩⟩,
   ⟨3, none, none, false, ⟨3, "English", "en_US", "LRM", false, false⟩⟩]

def threeLanguagesPayload : Text := r#"{"data": {"general": {"price": "$5 '''"}}}"#

def threeLanguagesWorld : World where
  content := .ok r#"{"nstack_project_id": "project", "nstack_api_key": "key"}"#
  connected _ := .ok ()
  index _ := .ok threeLanguages
  payload _ _ _ := .ok threeLanguagesPayload
  written _ _ := .ok ()

def threeLanguagesJob : Job := ⟨"nstack.json", .default, [], .ofInt 0⟩

theorem threeLanguages_opens :
    ∃ b e, threeLanguagesWorld.Opens b e ∧ b.languages = threeLanguages ∧ b.defaultPlace = 1 ∧
    (Artifact.generate threeLanguagesJob.settings.target (threeLanguagesWorld.inputs b)).isOk =
      true := by
  have credentials : threeLanguagesWorld.credentials.toOption = some ⟨"project", "key"⟩ := by
    decide +kernel
  have generated : ((Document.ofContent threeLanguagesPayload).toOption.any fun document =>
      (Artifact.generate threeLanguagesJob.settings.target
        (threeLanguagesWorld.inputs ⟨⟨"project", "key"⟩, threeLanguages, 1, threeLanguagesPayload,
          document⟩)).isOk) = true := by
    decide +kernel
  obtain ⟨document, hdocument, hgenerated⟩ := (Option.any_eq_true _ _).mp generated
  refine ⟨⟨⟨"project", "key"⟩, threeLanguages, 1, threeLanguagesPayload, document⟩,
    threeLanguages[1], ?_, rfl, rfl, hgenerated⟩
  exact {
    credentials := toOption_eq_some.mp credentials
    connected := rfl
    languages := rfl
    default := rfl
    payload := rfl
    document := toOption_eq_some.mp hdocument }

theorem fallbacks_agree_threeLanguages :
    ∃ c, Course.Reaches threeLanguagesWorld threeLanguagesJob
      (Course.start threeLanguagesWorld threeLanguagesJob) c ∧
    c.state = .finished .completed ∧
    ∃ text r after, c.outputs threeLanguagesWorld = [(threeLanguagesJob.outputId, text)] ∧
      threeLanguagesJob.settings.target.read text = some r ∧
      (Session.ofReading r false).change "en-GB" = .ok (after, "en-GB") ∧
      ∀ s ∈ r.sections, ∀ name key fallback, (name, key, fallback) ∈ s.members →
        (Session.ofReading r false).store.getD s.key key fallback = fallback ∧
        after.store.getD s.key key fallback = fallback := by
  obtain ⟨b, e, opens, -, -, hok⟩ := threeLanguages_opens
  have delivers : threeLanguagesWorld.Delivers b := by
    intro place hplace
    obtain ⟨r, hfetch⟩ := threeLanguagesWorld.exists_fetch b hplace
    obtain ⟨e, -, rfl⟩ := Option.map_eq_some_iff.mp hfetch
    exact ⟨_, hfetch⟩
  cases generated : Artifact.generate threeLanguagesJob.settings.target
    (threeLanguagesWorld.inputs b) with
  | error f =>
    rw [generated] at hok
    cases hok
  | ok text =>
    obtain ⟨c, reached, completed⟩ :=
      World.exists_completed (by decide +kernel) opens delivers generated rfl
    obtain ⟨b, e, text, r, opens, written, hread, -, -, agree⟩ :=
      fallbacks_agree reached completed false
    have listed : threeLanguages = b.languages := Except.ok.inj opens.languages
    have found := opens.default
    rw [← listed] at found
    have default := Except.ok.inj (found : .ok (1, _) = Except.ok (b.defaultPlace, e))
    obtain ⟨after, changed, -, same⟩ := agree (by rw [← listed]; decide +kernel)
    rw [← (Prod.mk.inj default).2] at changed
    exact ⟨c, reached, completed, text, r, after, written, hread, changed, same⟩

end LocaleGen
