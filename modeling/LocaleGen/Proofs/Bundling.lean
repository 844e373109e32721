import LocaleGen.Pass.Verdict
import LocaleGen.Proofs.Course
import Mathlib

/-!
# Fetching the payloads

What a pass knows while it fetches the payloads of a bundle, in whichever order they come. `Phase`
lists where it may stand: payloads are missing (`Gathering`), one of them has failed and fetches are
still to end (`Failing`, `Draining`), the output is to be written, or the pass has ended with a
`Conclusion`. `Phase.step` shows that every step keeps to this list.
-/

namespace LocaleGen

/-! ## Requests and arrivals -/

namespace Bundling

variable (b : Bundling)

theorem nodup_pending : b.pending.Nodup := List.nodup_range.filter _

@[simp] theorem mem_pending {b : Bundling} {place : Nat} :
    place ∈ b.pending ↔ place < b.languages.length ∧ place ≠ b.defaultPlace := by
  simp [pending]

theorem requests_append (before after : List Nat) :
    b.requests (before ++ after) = b.requests before ++ b.requests after :=
  List.filterMap_append

theorem filterMap_begun_requests {places : List Nat}
    (h : ∀ place ∈ places, place < b.languages.length) :
    (b.requests places).filterMap Effect.begun? = places := by
  rw [requests, List.filterMap_filterMap]
  refine (List.filterMap_congr fun place hplace => ?_).trans List.filterMap_some
  simp [List.getElem?_eq_getElem (h place hplace), Effect.begun?]

theorem effectsOf_requests (places : List Nat) :
    Course.effectsOf ((b.requests places).map .asked) = b.requests places := by
  simp only [Course.effectsOf, requests, List.map_filterMap, List.filterMap_filterMap]
  refine List.filterMap_congr fun place _ => ?_
  cases b.languages[place]? <;> rfl

theorem disconnect_notMem_requests (places : List Nat) : Effect.disconnect ∉ b.requests places := by
  simp [requests]

end Bundling

namespace World

variable (w : World) (b : Bundling)

def arrivals (places : List Nat) : List Signal :=
  places.filterMap fun place => (w.fetch b place).map (.payload place)

@[simp] theorem filterMap_reply_requests (places : List Nat) :
    (b.requests places).filterMap w.reply = w.arrivals b places := by
  rw [Bundling.requests, List.filterMap_filterMap, arrivals]
  refine List.filterMap_congr fun place _ => ?_
  cases h : b.languages[place]? <;> simp [fetch, h, reply]

theorem mem_arrivals {w : World} {b : Bundling} {places : List Nat} {s : Signal} :
    s ∈ w.arrivals b places ↔ ∃ place ∈ places, ∃ r, w.fetch b place = some r ∧
    s = .payload place r := by
  simp [arrivals, eq_comm]

/-- When the payload at one of the places has come, those at the others are to come. -/
theorem arrivals_erase {places : List Nat} {place : Nat} {r : Except Fault Text}
    (h : place ∈ places) (hfetch : w.fetch b place = some r) :
    (w.arrivals b places).Perm (.payload place r :: w.arrivals b (places.erase place)) := by
  have split :=
    (List.perm_cons_erase h).filterMap fun place => (w.fetch b place).map (Signal.payload place)
  simpa [arrivals, hfetch] using split

theorem exists_fetch {place : Nat} (h : place ∈ b.pending) : ∃ r, w.fetch b place = some r :=
  ⟨_, by rw [fetch, List.getElem?_eq_getElem (Bundling.mem_pending.mp h).1, Option.map_some]⟩

theorem fails_iff {place : Nat} :
    w.fails b place = true ↔ ∃ f, w.fetch b place = some (.error f) := by
  unfold fails
  split
  · next f h => simp [h]
  · next h => simpa using fun f hf => h f hf

end World

/-! ## What is known -/

section Knowledge

variable (w : World) (job : Job) (b : Bundling)

/-- The payloads at the places `requested` have been asked for; `received` have come, those at
`running` have not. -/
structure Gathering (requested waiting running : List Nat)
    (received : List (Nat × Text)) : Prop where
  pending : requested ++ waiting = b.pending
  places : (received.map Prod.fst ++ running).Perm requested
  payloads : ∀ entry ∈ received, w.fetch b entry.1 = some (.ok entry.2)
  oneByOne : job.settings.api.concurrentFetch = false →
    ∀ place ∈ running, running = [place] ∧ ∃ before, requested = before ++ [place]

/-- The payload at a place is one of those asked for, and fetching it fails; without concurrency it
is the first one. -/
structure Failing (requested : List Nat) (place : Nat) (f : Fault) : Prop where
  started : requested <+: b.pending
  member : place ∈ requested
  fault : w.fetch b place = some (.error f)
  first : job.settings.api.concurrentFetch = false → b.pending.find? (w.fails b) = some place

/-- Only ends of fetches have arrived, and those of the fetches at the places `running` are among
them. -/
structure Draining (running : List Nat) (inbox : List Signal) : Prop where
  distinct : running.Nodup
  ends : ∀ s ∈ inbox, s.answered?.isSome
  arrived : ∀ place ∈ running, ∃ s ∈ inbox, s.answered? = some place

/-- The course of a pass that fetches the payloads of `b`, having asked for `opening` before. -/
inductive Phase (opening : List Effect) : Course → Prop
  | gathering {requested waiting running : List Nat} {received : List (Nat × Text)}
      {inbox : List Signal}
      {history : List Event} :
      Gathering w job b requested waiting running received → running ≠ [] →
        inbox.Perm (w.arrivals b running) →
      Trail (opening ++ b.requests requested) running history →
      Phase opening ⟨.fetchingBundle b waiting running received, inbox, history⟩
  | draining {requested stopped running : List Nat} {place : Nat} {f : Fault} {inbox : List Signal}
      {history : List Event} :
      Failing w job b requested place f → running ≠ [] → Draining running inbox →
      Trail (opening ++ (b.requests requested ++ stopped.map .stop)) running history →
      Phase opening ⟨.stopping (.failed f) running, inbox, history⟩
  | persisting {text : Text} {inbox : List Signal} {history : List Event} :
      w.Delivers b → Artifact.generate job.settings.target (w.inputs b) = .ok text →
      inbox = [.written (w.written job.output text)] →
      Trail (opening ++ (b.requests b.pending ++ [.disconnect, .write job.output text]))
        [] history →
      Phase opening ⟨.persisting b, inbox, history⟩
  | finished {effects : List Effect} {o : Outcome} {inbox : List Signal} {history : List Event} :
      Conclusion job w b effects o → (∀ s ∈ inbox, s.answered?.isSome) →
        Trail (opening ++ effects) [] history →
      Phase opening ⟨.finished o, inbox, history⟩

end Knowledge

variable {w : World} {job : Job} {b : Bundling} {opening : List Effect}

/-! ## All payloads are there -/

namespace Gathering

variable {requested waiting running : List Nat} {received : List (Nat × Text)}

theorem mem_received (g : Gathering w job b requested waiting running received) {place : Nat} :
    place ∈ requested ↔ (∃ payload, (place, payload) ∈ received) ∨ place ∈ running := by
  rw [← g.places.mem_iff]
  simp

theorem delivers (g : Gathering w job b requested [] [] received) : w.Delivers b := by
  intro place hplace
  rw [← g.pending, List.append_nil, g.mem_received] at hplace
  obtain ⟨payload, hentry⟩ := hplace.resolve_right List.not_mem_nil
  exact ⟨payload, g.payloads _ hentry⟩

theorem payloadAt (g : Gathering w job b requested [] [] received) {place : Nat}
    (h : place < b.languages.length) : b.payloadAt received place = w.payloadAt b place := by
  unfold Bundling.payloadAt World.payloadAt
  split
  · rfl
  · next hother =>
    have hplace : place ∈ requested := by
      rw [← List.append_nil requested, g.pending]
      exact Bundling.mem_pending.mpr ⟨h, hother⟩
    obtain ⟨payload, hentry⟩ := (g.mem_received.mp hplace).resolve_right List.not_mem_nil
    have hsome : (received.lookup place).isSome := List.lookup_isSome_iff.mpr ⟨_, hentry, by simp⟩
    obtain ⟨found, hfound⟩ := Option.isSome_iff_exists.mp hsome
    obtain ⟨before, after, rfl, -⟩ := List.lookup_eq_some_iff.mp hfound
    rw [hfound, g.payloads (place, found) (by simp), Option.getD_some]

/-- The output is generated from the right values. -/
theorem inputs (g : Gathering w job b requested [] [] received) :
    b.inputs received = w.inputs b := by
  unfold Bundling.inputs World.inputs Bundling.payloads World.payloads
  have same : (b.languages.mapIdx fun place e => (e.language.locale, b.payloadAt received place)) =
      b.languages.mapIdx fun place e => (e.language.locale, w.payloadAt b place) := by
    rw [List.mapIdx_eq_mapIdx_iff]
    intro place hplace
    rw [g.payloadAt hplace]
  rw [same]

end Gathering

theorem Course.moved_failConnected (inbox : List Signal) (history : List Event)
    (stage : Stage) (f : Fault) :
    Course.moved w inbox history (job.failConnected stage f) =
      ⟨.finished (.failed stage (job.report stage f)), inbox,
        history ++ (job.failConnected stage f).2.map .asked⟩ := by
  simp [Course.moved, Job.failConnected, Job.fail, World.reply]

namespace Gathering

variable {requested waiting running : List Nat} {received : List (Nat × Text)}
    {history : List Event}

theorem assemble (g : Gathering w job b requested [] [] received)
    (t : Trail (opening ++ b.requests requested) [] history) :
    Phase w job b opening (Course.moved w [] history (job.assemble b received)) := by
  obtain rfl : requested = b.pending := by rw [← g.pending, List.append_nil]
  unfold Job.assemble
  rw [g.inputs]
  split
  · next f hgenerate =>
    rw [Course.moved_failConnected]
    refine .finished (.emit g.delivers hgenerate) (by simp) ?_
    rw [← List.append_assoc]
    exact t.failConnected job .emit f
  · next text hgenerate =>
    refine .persisting g.delivers hgenerate rfl ?_
    have written := t.disconnect.asked [.write job.output text] (by simp)
    simpa [Course.effectsOf, Effect.begun?, List.filterMap_cons] using written

/-- The next payloads are asked for, or the output is generated. -/
theorem request (g : Gathering w job b requested waiting [] received)
    (t : Trail (opening ++ b.requests requested) [] history) :
    Phase w job b opening (Course.moved w [] history (job.request b waiting received)) := by
  -- what is asked for now, the rest being left for later
  have ask (now later : List Nat) (hwaiting : waiting = now ++ later) (hnow : now ≠ [])
      (single : job.settings.api.concurrentFetch = false → ∃ place, now = [place]) :
      Phase w job b opening (Course.moved w [] history (.fetchingBundle b later now received,
        b.requests now)) := by
    have inside : ∀ place ∈ now, place < b.languages.length := by
      intro place hplace
      refine (Bundling.mem_pending.mp ?_).1
      rw [← g.pending, hwaiting]
      simp [hplace]
    have next : Gathering w job b (requested ++ now) later now received :=
      { pending := by rw [List.append_assoc, ← hwaiting, g.pending]
        places := by simpa using g.places.append_right now
        payloads := g.payloads
        oneByOne := by
          intro mode place hplace
          obtain ⟨only, rfl⟩ := single mode
          rw [List.mem_singleton] at hplace
          subst hplace
          exact ⟨rfl, requested, rfl⟩ }
    refine .gathering next hnow ?_ ?_
    · rw [List.nil_append, World.filterMap_reply_requests]
    · have asked := t.asked (b.requests now) (b.disconnect_notMem_requests now)
      rwa [Bundling.effectsOf_requests, Bundling.filterMap_begun_requests b inside, List.nil_append,
        List.append_assoc,
        ← Bundling.requests_append] at asked
  unfold Job.request
  cases waiting with
  | nil => exact g.assemble t
  | cons place rest =>
    dsimp only
    split
    · next mode => exact ask (place :: rest) [] (by simp) (by simp) fun off => by simp [mode] at off
    · exact ask [place] rest (by simp) (by simp) fun _ => ⟨place, rfl⟩

end Gathering

/-! ## Fetches that are stopped -/

@[simp] theorem World.filterMap_reply_stops (w : World) (places : List Nat) :
    (places.map Effect.stop).filterMap w.reply = places.map .stopped := by
  rw [List.filterMap_map]
  show places.filterMap (some ∘ Signal.stopped) = places.map .stopped
  rw [List.filterMap_eq_map]

/-- The fetches at some places are told to stop. -/
theorem Trail.stops {effects : List Effect} {running : List Nat} {history : List Event}
    (t : Trail effects running history) (places : List Nat) :
    Trail (effects ++ places.map .stop) running (history ++ (places.map Effect.stop).map .asked) := by
  have asked := t.asked (places.map .stop) (by simp)
  have stops : Course.effectsOf ((places.map Effect.stop).map .asked) = places.map .stop := by
    rw [Course.effectsOf, List.filterMap_map, List.filterMap_map]
    show places.filterMap (some ∘ Effect.stop) = places.map .stop
    rw [List.filterMap_eq_map]
  have begun : (places.map Effect.stop).filterMap Effect.begun? = [] := by
    rw [List.filterMap_map]
    exact List.filterMap_none places
  rwa [stops, begun, List.append_nil] at asked

/-- When the fetches that run are told to stop, their ends arrive. -/
theorem Draining.of_stops {running : List Nat} {inbox : List Signal} (distinct : running.Nodup)
    (ends : ∀ s ∈ inbox, s.answered?.isSome) :
    Draining running (inbox ++ running.map .stopped) where
  distinct := distinct
  ends s hs := by
    rcases List.mem_append.mp hs with hold | hnew
    · exact ends s hold
    · obtain ⟨p, -, rfl⟩ := List.mem_map.mp hnew
      rfl
  arrived p hp := ⟨.stopped p, by simp [hp], rfl⟩

/-! ## A payload has failed -/

namespace Failing

variable {requested stopped running : List Nat} {place : Nat} {f : Fault} {inbox : List Signal}
    {history : List Event}

theorem settle (x : Failing w job b requested place f) (ends : ∀ s ∈ inbox, s.answered?.isSome)
    (t : Trail (opening ++ (b.requests requested ++ stopped.map .stop)) [] history) :
    Phase w job b opening (Course.moved w inbox history (job.settle (.failed f))) := by
  rw [Job.settle, Course.moved_failConnected]
  have closed := t.failConnected job .fetchBundle f
  rw [List.append_assoc opening] at closed
  exact .finished (.fetchBundle x.started x.member x.fault x.first) ends closed

/-- The fetches that run are given up. -/
theorem abandon (x : Failing w job b requested place f) (distinct : running.Nodup)
    (ends : ∀ s ∈ inbox, s.answered?.isSome)
    (t : Trail (opening ++ b.requests requested) running history) :
    Phase w job b opening (Course.moved w inbox history (job.abandon (.failed f) running)) := by
  unfold Job.abandon
  split
  · next hnone =>
    subst hnone
    have t : Trail (opening ++ (b.requests requested ++ ([] : List Nat).map .stop)) [] history := by
      simpa using t
    exact x.settle ends t
  · next hsome =>
    have asked := t.stops running
    rw [List.append_assoc] at asked
    rw [Course.moved, World.filterMap_reply_stops]
    exact .draining x hsome (.of_stops distinct ends) asked

end Failing

theorem Draining.answer {running : List Nat} {before after : List Signal} {signal : Signal}
    (d : Draining running (before ++ signal :: after)) {place : Nat}
    (h : signal.answered? = some place) : Draining (running.erase place) (before ++ after) where
  distinct := d.distinct.erase place
  ends s hs := d.ends s (by
    rcases List.mem_append.mp hs with h | h
    · exact List.mem_append_left _ h
    · exact List.mem_append_right _ (List.mem_cons_of_mem _ h))
  arrived p hp := by
    obtain ⟨hne, hmem⟩ := d.distinct.mem_erase_iff.mp hp
    obtain ⟨s, hs, hanswered⟩ := d.arrived p hmem
    refine ⟨s, ?_, hanswered⟩
    rcases List.mem_append.mp hs with hbefore | hafter
    · exact List.mem_append_left _ hbefore
    · refine List.mem_append_right _ ((List.mem_cons.mp hafter).resolve_left ?_)
      rintro rfl
      exact hne (Option.some.inj (hanswered.symm.trans h))

/-! ## A payload arrives -/

namespace Gathering

variable {requested waiting running : List Nat} {received : List (Nat × Text)} {place : Nat}

theorem distinct (g : Gathering w job b requested waiting running received) : running.Nodup := by
  have all : (requested ++ waiting).Nodup := g.pending ▸ b.nodup_pending
  have places := g.places.nodup_iff.mpr (List.nodup_append.mp all).1
  exact (List.nodup_append.mp places).2.1

/-- The payloads at the places before the only one that is under way have come. -/
theorem failing (g : Gathering w job b requested waiting running received)
    (h : place ∈ running) {f : Fault} (hfetch : w.fetch b place = some (.error f)) :
    Failing w job b requested place f where
  started := ⟨waiting, g.pending⟩
  member := g.mem_received.mpr (.inr h)
  fault := hfetch
  first mode := by
    obtain ⟨honly, before, rfl⟩ := g.oneByOne mode place h
    have hbefore : ∀ p ∈ before, w.fails b p = false := by
      intro p hp
      have places : (received.map Prod.fst).Perm before := by
        have all := g.places
        rw [honly] at all
        exact (List.perm_append_right_iff [place]).mp all
      obtain ⟨entry, hentry, rfl⟩ := List.mem_map.mp (places.mem_iff.mpr hp)
      simp [World.fails, g.payloads entry hentry]
    rw [← g.pending, List.append_assoc, List.find?_append,
      List.find?_eq_none.mpr (by simpa using hbefore)]
    simp [(w.fails_iff b).mpr ⟨f, hfetch⟩]

theorem receive (g : Gathering w job b requested waiting running received)
    (h : place ∈ running) {payload : Text} (hfetch : w.fetch b place = some (.ok payload)) :
    Gathering w job b requested waiting (running.erase place) ((place, payload) :: received) where
  pending := g.pending
  places := by
    refine List.Perm.trans ?_ g.places
    rw [List.map_cons, List.cons_append]
    exact List.perm_middle.symm.trans ((List.perm_cons_erase h).symm.append_left _)
  payloads := List.forall_mem_cons.mpr ⟨hfetch, g.payloads⟩
  oneByOne mode p hp := by
    obtain ⟨honly, -⟩ := g.oneByOne mode place h
    simp [honly] at hp

end Gathering

variable [NestingLimits]

/-! ## Steps -/

theorem Job.step_stopping (job : Job) (reason : Abandonment) (running : List Nat)
    {signal : Signal} {place : Nat} (h : signal.answered? = some place) :
    job.step (.stopping reason running) signal =
      if place ∈ running then
        if running.erase place = [] then job.settle reason
        else (.stopping reason (running.erase place), [])
      else (.stopping reason running, []) := by
  cases signal <;> simp only [Signal.answered?, Option.some.injEq, reduceCtorEq] at h <;>
    subst h <;> rfl

@[simp] theorem Job.step_finished (job : Job) (o : Outcome) (signal : Signal) :
    job.step (.finished o) signal = (.finished o, []) := by
  cases signal <;> rfl

omit [NestingLimits] in
@[simp] theorem Course.moved_quiet (inbox : List Signal) (history : List Event)
    (state : PassState) : Course.moved w inbox history (state, []) = ⟨state, inbox, history⟩ := by
  simp [Course.moved]

section Step

variable {before after : List Signal} {signal : Signal} {history : List Event}

theorem Gathering.step {requested waiting running : List Nat} {received : List (Nat × Text)}
    (g : Gathering w job b requested waiting running received)
    (arrivals : (before ++ signal :: after).Perm (w.arrivals b running))
    (t : Trail (opening ++ b.requests requested) running history) :
    Phase w job b opening (Course.moved w (before ++ after) (history ++ [.told signal])
      (job.step (.fetchingBundle b waiting running received) signal)) := by
  have hmem : signal ∈ w.arrivals b running := arrivals.mem_iff.mp (by simp)
  obtain ⟨place, hplace, r, hfetch, rfl⟩ := World.mem_arrivals.mp hmem
  have rest : (before ++ after).Perm (w.arrivals b (running.erase place)) :=
    ((List.perm_middle.symm.trans arrivals).trans (w.arrivals_erase b hplace hfetch)).cons_inv
  have told := t.told_end (rfl : (Signal.payload place r).ended? = some place)
  have hstep : job.step (.fetchingBundle b waiting running received) (.payload place r) =
      job.receive b waiting (running.erase place) received place r := by
    simp [Job.step, hplace]
  rw [hstep]
  cases r with
  | error f =>
    refine (g.failing hplace hfetch).abandon (g.distinct.erase place) (fun s hs => ?_) told
    obtain ⟨p, -, r, -, rfl⟩ := World.mem_arrivals.mp (rest.mem_iff.mp hs)
    rfl
  | ok payload =>
    have next := g.receive hplace hfetch
    simp only [Job.receive]
    split
    · next hnone =>
      rw [hnone] at next told rest
      rw [rest.eq_nil]
      exact next.request told
    · next hsome =>
      rw [Course.moved_quiet]
      exact .gathering next hsome rest told

theorem Failing.step {requested stopped running : List Nat} {place : Nat} {f : Fault}
    (x : Failing w job b requested place f) (hsome : running ≠ [])
    (d : Draining running (before ++ signal :: after))
    (t : Trail (opening ++ (b.requests requested ++ stopped.map .stop)) running history) :
    Phase w job b opening (Course.moved w (before ++ after) (history ++ [.told signal])
      (job.step (.stopping (.failed f) running) signal)) := by
  obtain ⟨p, hanswered⟩ := Option.isSome_iff_exists.mp (d.ends signal (by simp))
  have left := d.answer hanswered
  have told := t.told_end (Signal.ended?_of_answered? hanswered)
  rw [job.step_stopping _ _ hanswered]
  split
  · split
    · next hnone =>
      rw [hnone] at told
      exact x.settle left.ends told
    · next hleft =>
      rw [Course.moved_quiet]
      exact .draining x hleft left told
  · next hother =>
    -- the fetch has ended before
    rw [List.erase_of_not_mem hother] at left told
    rw [Course.moved_quiet]
    exact .draining x hsome left told

theorem Phase.persisted {text : Text} (delivers : w.Delivers b)
    (generated : Artifact.generate job.settings.target (w.inputs b) = .ok text)
    (t : Trail (opening ++ (b.requests b.pending ++ [.disconnect, .write job.output text])) [] history) :
    Phase w job b opening (Course.moved w [] (history ++ [.told (.written (w.written job.output text))])
      (job.step (.persisting b) (.written (w.written job.output text)))) := by
  have told := t.told_other (rfl : (Signal.written (w.written job.output text)).ended? = none)
  simp only [Job.step]
  split
  · next f hwritten =>
    exact .finished (.persist delivers generated hwritten) (by simp [Job.fail, World.reply])
      (told.fail job .persist f)
  · next hwritten =>
    refine .finished (.completed delivers generated hwritten)
      (by simp [Job.complete, World.reply]) ?_
    have logged := told.asked (job.complete b).2 (by simp [Job.complete])
    simpa [Job.complete, Course.effectsOf, Effect.begun?, List.filterMap_cons] using logged

end Step

/-- Every step of a pass that fetches payloads keeps to the phase. -/
theorem Phase.step {c c' : Course} (h : Phase w job b opening c) (s : Course.Step w job c c') :
    Phase w job b opening c' := by
  cases h with
  | gathering g _ arrivals t =>
    cases s with
    | answer => exact g.step arrivals t
  | draining x hsome d t =>
    cases s with
    | answer => exact x.step hsome d t
  | persisting delivers generated only t =>
    subst only
    rw [s.of_single]
    exact .persisted delivers generated t
  | finished conclusion ends t =>
    cases s with
    | answer state before signal after history =>
      obtain ⟨place, hplace⟩ := Option.isSome_iff_exists.mp (ends signal (by simp))
      have told := t.told_end (Signal.ended?_of_answered? hplace)
      rw [job.step_finished, Course.moved_quiet]
      refine .finished conclusion (fun s hs => ends s ?_) told
      rcases List.mem_append.mp hs with h | h
      · exact List.mem_append_left _ h
      · exact List.mem_append_right _ (List.mem_cons_of_mem _ h)

end LocaleGen
