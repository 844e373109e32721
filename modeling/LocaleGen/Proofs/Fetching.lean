import LocaleGen.Proofs.Bundling
import Mathlib

/-!
# Concurrent and sequential fetching

A pass fetches the payloads of a bundle all at once or one after the other. If all of them come,
both ways lead to the same end, whichever order they come in; if some fail, both ways lead to the
failure of the stage, and no fetch is under way any more when the connection is closed:
`fetching_modes_agree`.
-/

namespace LocaleGen

def Job.fetching (job : Job) (concurrent : Bool) : Job :=
  { job with settings :=
    { job.settings with api := { job.settings.api with concurrentFetch := concurrent } } }

def Course.bundling (w : World) (job : Job) (b : Bundling) : Course :=
  moved w [] [] (job.request b b.pending [])

def FetchEnds [NestingLimits] (w : World) (job : Job) (b : Bundling) (concurrent : Bool)
    (c : Course) (o : Outcome) : Prop :=
  Course.Reaches w (job.fetching concurrent) (Course.bundling w (job.fetching concurrent) b) c ∧
    c.state = .finished o

variable {w : World} {job : Job} {b : Bundling}

/-! ## What the phase amounts to -/

namespace Phase

variable {opening : List Effect} {c : Course}

theorem start {history : List Event} (t : Trail opening [] history) :
    Phase w job b opening (Course.moved w [] history (job.request b b.pending [])) := by
  have none : Gathering w job b [] b.pending [] [] := ⟨rfl, by simp, by simp, by simp⟩
  exact none.request (by simpa [Bundling.requests] using t)

theorem reaches_bundling [NestingLimits] (h : Course.Reaches w job (Course.bundling w job b) c) :
    Phase w job b [] c :=
  h.invariant Phase.step (start .nil)

/-- A pass that fetches payloads goes on until it has ended. -/
theorem ends_or_steps [NestingLimits] (h : Phase w job b opening c) :
    (∃ o, c.state = .finished o) ∨ ∃ next, Course.Step w job c next := by
  cases h with
  | gathering g hsome arrivals =>
    obtain ⟨place, hplace⟩ := List.exists_mem_of_ne_nil _ hsome
    have hpending : place ∈ b.pending := by
      rw [← g.pending]
      exact List.mem_append_left _ (g.mem_received.mpr (.inr hplace))
    obtain ⟨r, hfetch⟩ := w.exists_fetch b hpending
    have arrived := arrivals.mem_iff.mpr (World.mem_arrivals.mpr ⟨place, hplace, _, hfetch, rfl⟩)
    exact .inr (Course.exists_step (List.ne_nil_of_mem arrived))
  | draining _ hsome d =>
    obtain ⟨place, hplace⟩ := List.exists_mem_of_ne_nil _ hsome
    obtain ⟨s, arrived, -⟩ := d.arrived place hplace
    exact .inr (Course.exists_step (List.ne_nil_of_mem arrived))
  | persisting _ _ only => exact .inr (Course.exists_step (by simp [only]))
  | finished => exact .inl ⟨_, rfl⟩

theorem drained (h : Phase w job b opening c) : Course.Drained c.history := by
  cases h with
  | gathering _ _ _ t | draining _ _ _ t | persisting _ _ _ t | finished _ _ t => exact t.drained

theorem conclusion (h : Phase w job b opening c) {o : Outcome} (hend : c.state = .finished o) :
    ∃ effects, Conclusion job w b effects o ∧ c.effects = opening ++ effects := by
  cases h with
  | gathering => cases hend
  | draining => cases hend
  | persisting => cases hend
  | finished conclusion _ t =>
    cases hend
    exact ⟨_, conclusion, t.effects⟩

end Phase

/-! ## Payloads by locale -/

namespace World

theorem carries_payloads (h : w.Delivers b) : w.Carries b (w.payloads b) where
  locales locale := by
    have keys :
      (b.languages.mapIdx fun place e => (e.language.locale, w.payloadAt b place)).map Prod.fst =
        IndexEntry.locales b.languages :=
      List.ext_getElem (by simp [IndexEntry.locales]) (by simp [IndexEntry.locales])
    rw [payloads, Dict.isSome_get?_ofList, keys]
  last place e hplace only := by
    obtain ⟨hlength, hentry⟩ := List.getElem?_eq_some_iff.mp hplace
    have found : (w.payloads b).get? e.language.locale = some (w.payloadAt b place) := by
      unfold payloads
      generalize hpairs : (b.languages.mapIdx fun place e =>
        (e.language.locale, w.payloadAt b place)) = pairs
      have hbound : place < pairs.length := by simpa [← hpairs] using hlength
      have hat : pairs[place] = (e.language.locale, w.payloadAt b place) := by
        simp [← hpairs, hentry]
      rw [← List.take_append_drop place pairs, List.drop_eq_getElem_cons hbound, hat]
      refine Dict.get?_ofList_append fun p hp => ?_
      obtain ⟨i, hi, rfl⟩ := List.mem_drop_iff_getElem.mp hp
      subst hpairs
      simp only [List.getElem_mapIdx]
      exact only _ _ (by omega) (List.getElem?_eq_getElem _)
    split
    · next hdefault => simpa [payloadAt, hdefault] using found
    · next hother =>
      obtain ⟨payload, hfetch⟩ := h place (Bundling.mem_pending.mpr ⟨hlength, hother⟩)
      have hpayload : w.payload b.credentials place e = .ok payload := by
        simpa [fetch, hplace] using hfetch
      exact ⟨payload, hpayload, by simpa [payloadAt, hother, hfetch] using found⟩

theorem exists_failing (h : ¬ w.Delivers b) :
    ∃ place ∈ b.pending, ∃ f, w.fetch b place = some (.error f) := by
  simp only [Delivers, not_forall] at h
  obtain ⟨place, hplace, hnone⟩ := h
  obtain ⟨_ | payload, hfetch⟩ := w.exists_fetch b hplace
  · exact ⟨place, hplace, _, hfetch⟩
  · exact absurd ⟨payload, hfetch⟩ hnone

theorem delivers_iff : w.Delivers b ↔ ∀ place ∈ b.pending, w.fails b place = false := by
  constructor
  · intro h place hplace
    obtain ⟨payload, hfetch⟩ := h place hplace
    simp [fails, hfetch]
  · intro h
    by_contra hnot
    obtain ⟨place, hplace, f, hfetch⟩ := exists_failing hnot
    simpa [fails, hfetch] using h place hplace

end World

/-! ## Conclusions -/

@[simp] theorem World.filterMap_output_requests (w : World) (b : Bundling) (places : List Nat) :
    (b.requests places).filterMap w.output? = [] := by
  rw [Bundling.requests, List.filterMap_filterMap]
  refine List.filterMap_eq_nil_iff.mpr fun place _ => ?_
  cases b.languages[place]? <;> rfl

namespace Conclusion

variable {effects effects' : List Effect} {o o' : Outcome}

/-- If all payloads come, the mode does not matter. -/
theorem of_fetching {concurrent : Bool} (h : Conclusion (job.fetching concurrent) w b effects o)
    (d : w.Delivers b) : Conclusion job w b effects o := by
  cases h with
  | fetchBundle started member fault =>
    obtain ⟨payload, hfetch⟩ := d _ (started.subset member)
    simp [fault] at hfetch
  | emit _ generated => exact .emit d generated
  | persist _ generated written => exact .persist d generated written
  | completed _ generated written => exact .completed d generated written

theorem delivered (h : Conclusion job w b effects o) (d : w.Delivers b) :
    (∃ f, Artifact.generate job.settings.target (w.inputs b) = .error f ∧
      effects = b.requests b.pending ++ [.disconnect] ∧ o = .failed .emit (job.report .emit f)) ∨
    ∃ text, Artifact.generate job.settings.target (w.inputs b) = .ok text ∧
      effects = b.requests b.pending ++ [.disconnect, .write job.output text] ∧
      ((∃ f, w.written job.output text = .error f ∧ o = .failed .persist (job.report .persist f)) ∨
        w.written job.output text = .ok () ∧ o = .completed) := by
  cases h with
  | fetchBundle started member fault =>
    obtain ⟨payload, hfetch⟩ := d _ (started.subset member)
    simp [fault] at hfetch
  | emit _ generated => exact .inl ⟨_, generated, rfl, rfl⟩
  | persist _ generated written => exact .inr ⟨_, generated, rfl, .inl ⟨_, written, rfl⟩⟩
  | completed _ generated written => exact .inr ⟨_, generated, rfl, .inr ⟨written, rfl⟩⟩

theorem unique (h : Conclusion job w b effects o) (h' : Conclusion job w b effects' o')
    (d : w.Delivers b) : effects = effects' ∧ o = o' := by
  rcases h.delivered d with ⟨f, generated, rfl, rfl⟩ | ⟨text, generated, rfl, ended⟩ <;>
    rcases h'.delivered d with ⟨f', generated', rfl, rfl⟩ | ⟨text', generated', rfl, ended'⟩ <;>
    rw [generated] at generated' <;> cases generated'
  · exact ⟨rfl, rfl⟩
  · refine ⟨rfl, ?_⟩
    rcases ended with ⟨f, written, rfl⟩ | ⟨written, rfl⟩ <;>
      rcases ended' with ⟨f', written', rfl⟩ | ⟨written', rfl⟩
    · cases written.symm.trans written'
      rfl
    · cases written.symm.trans written'
    · cases written.symm.trans written'
    · rfl

theorem begun_eq_pending (h : Conclusion job w b effects o) (d : w.Delivers b) :
    effects.filterMap Effect.begun? = b.pending := by
  have requests := b.filterMap_begun_requests fun place hplace => (Bundling.mem_pending.mp hplace).1
  rcases h.delivered d with ⟨f, -, rfl, -⟩ | ⟨text, -, rfl, -⟩ <;>
    simp [requests, Effect.begun?, List.filterMap_cons]

/-- If a payload fails to come, the stage fails and nothing is written. -/
theorem failed (h : Conclusion job w b effects o) (hfail : ¬ w.Delivers b) :
    effects.filterMap w.output? = [] ∧ ∃ place ∈ b.pending, ∃ f, w.fetch b place = some (.error f) ∧
      o = .failed .fetchBundle (job.report .fetchBundle f) ∧
      (job.settings.api.concurrentFetch = false → b.pending.find? (w.fails b) = some place) := by
  cases h with
  | fetchBundle started member fault first =>
    refine ⟨?_, _, started.subset member, _, fault, rfl, first⟩
    simp [World.output?, List.filterMap_cons]
  | emit d => exact absurd d hfail
  | persist d => exact absurd d hfail
  | completed d => exact absurd d hfail

theorem outputs (h : Conclusion job w b effects o) :
    (∀ stage r, o = .failed stage r → effects.filterMap w.output? = []) ∧
      (o = .completed → w.Delivers b ∧ ∃ text,
        Artifact.generate job.settings.target (w.inputs b) = .ok text ∧
        effects.filterMap w.output? = [(job.outputId, text)]) := by
  by_cases d : w.Delivers b
  · rcases h.delivered d with ⟨f, -, rfl, rfl⟩ | ⟨text, generated, rfl,
      ⟨f, written, rfl⟩ | ⟨written, rfl⟩⟩
    · simp [World.output?, List.filterMap_cons]
    · simp [World.output?, List.filterMap_cons, written]
    · refine ⟨fun _ _ eq => (by cases eq), fun _ => ⟨d, text, generated, ?_⟩⟩
      simp [World.output?, List.filterMap_cons, written, Job.outputId]
  · obtain ⟨none, place, -, f, -, rfl, -⟩ := h.failed d
    exact ⟨fun _ _ _ => none, fun eq => (by cases eq)⟩

/-- If the fetches are made one by one, or no two of them fail, there is one way to end. -/
theorem determined (h : Conclusion job w b effects o) (h' : Conclusion job w b effects' o')
    (alone : job.settings.api.concurrentFetch = false ∨
      ∀ place ∈ b.pending, ∀ other ∈ b.pending,
      w.fails b place = true → w.fails b other = true → place = other) :
    o = o' ∧ effects.filterMap w.output? = effects'.filterMap w.output? := by
  by_cases d : w.Delivers b
  · obtain ⟨rfl, rfl⟩ := h.unique h' d
    exact ⟨rfl, rfl⟩
  · obtain ⟨none, place, hplace, f, fault, rfl, first⟩ := h.failed d
    obtain ⟨none', other, hother, f', fault', rfl, first'⟩ := h'.failed d
    have same : place = other := by
      rcases alone with mode | few
      · exact Option.some.inj ((first mode).symm.trans (first' mode))
      · exact few place hplace other hother ((w.fails_iff b).mpr ⟨f, fault⟩)
          ((w.fails_iff b).mpr ⟨f', fault'⟩)
    subst same
    cases fault.symm.trans fault'
    exact ⟨rfl, none.trans none'.symm⟩

end Conclusion

/-! ## Both modes -/

variable [NestingLimits]

namespace FetchEnds

variable {concurrent concurrent' : Bool} {c c' : Course} {o o' : Outcome}

theorem conclusion (h : FetchEnds w job b concurrent c o) :
    Conclusion (job.fetching concurrent) w b c.effects o := by
  obtain ⟨effects, conclusion, rfl⟩ := (Phase.reaches_bundling h.1).conclusion h.2
  exact conclusion

theorem disconnect_mem (h : FetchEnds w job b concurrent c o) : Effect.disconnect ∈ c.effects := by
  have all := h.conclusion
  generalize c.effects = effects at all
  cases all <;> simp

theorem failed (h : FetchEnds w job b concurrent c o) (hfail : ¬ w.Delivers b) :
    c.outputs w = [] ∧ ∃ place ∈ b.pending, ∃ f, w.fetch b place = some (.error f) ∧
      o = .failed .fetchBundle (job.report .fetchBundle f) ∧
      (concurrent = false → b.pending.find? (w.fails b) = some place) :=
  h.conclusion.failed hfail

end FetchEnds

/-- Concurrent and sequential fetching agree, whichever order the payloads come in. -/
theorem fetching_modes_agree (w : World) (job : Job) (b : Bundling) :
    (∀ concurrent, (WellFounded fun next c => Course.Step w (job.fetching concurrent) c next) ∧
      ∀ c, Course.Reaches w (job.fetching concurrent)
      (Course.bundling w (job.fetching concurrent) b) c →
        ((∃ o, c.state = .finished o) ∨ ∃ next, Course.Step w (job.fetching concurrent) c next) ∧
          Course.Drained c.history ∧ ∀ o, c.state = .finished o → Effect.disconnect ∈ c.effects) ∧
    -- all payloads come
    (w.Delivers b →
      w.Carries b (w.payloads b) ∧
      (∀ concurrent c o, FetchEnds w job b concurrent c o →
        Conclusion job w b c.effects o ∧
          c.effects.filterMap Effect.begun? =
            (List.range b.languages.length).filter (· ≠ b.defaultPlace)) ∧
      ∀ concurrent c o concurrent' c' o', FetchEnds w job b concurrent c o →
      FetchEnds w job b concurrent' c' o' →
        c.effects = c'.effects ∧ o = o') ∧
    -- some payload fails to come
    (¬ w.Delivers b → ∀ concurrent c o, FetchEnds w job b concurrent c o →
      c.outputs w = [] ∧ ∃ place ∈ b.pending, ∃ f, w.fetch b place = some (.error f) ∧
        o = .failed .fetchBundle (job.report .fetchBundle f) ∧
        (concurrent = false → b.pending.find? (w.fails b) = some place)) ∧
    -- exactly one payload fails to come
    ∀ place ∈ b.pending, (∀ other ∈ b.pending, w.fails b other = true ↔ other = place) →
      ∀ concurrent c o concurrent' c' o', FetchEnds w job b concurrent c o →
      FetchEnds w job b concurrent' c' o' →
        o = o' := by
  refine ⟨fun concurrent => ⟨Course.wellFounded_step w _, fun c h => ?_⟩,
    fun d => ⟨World.carries_payloads d, ?_, ?_⟩,
    fun hfail concurrent c o h => h.failed hfail, ?_⟩
  · have phase := Phase.reaches_bundling h
    exact ⟨phase.ends_or_steps, phase.drained, fun o hend => FetchEnds.disconnect_mem ⟨h, hend⟩⟩
  · intro concurrent c o h
    exact ⟨h.conclusion.of_fetching d, h.conclusion.begun_eq_pending d⟩
  · intro concurrent c o concurrent' c' o' h h'
    exact (h.conclusion.of_fetching d).unique (h'.conclusion.of_fetching d) d
  · intro place hplace only concurrent c o concurrent' c' o' h h'
    have hfail : ¬ w.Delivers b := by
      rw [World.delivers_iff]
      intro all
      simpa [(only place hplace).mpr rfl] using all place hplace
    obtain ⟨-, p, hp, f, fault, rfl, -⟩ := h.failed hfail
    obtain ⟨-, p', hp', f', fault', rfl, -⟩ := h'.failed hfail
    obtain rfl := (only p hp).mp ((w.fails_iff b).mpr ⟨f, fault⟩)
    obtain rfl := (only p' hp').mp ((w.fails_iff b).mpr ⟨f', fault'⟩)
    cases fault.symm.trans fault'
    rfl

end LocaleGen
