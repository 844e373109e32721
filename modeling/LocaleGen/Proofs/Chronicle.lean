import LocaleGen.Pass.Chronicle
import LocaleGen.Proofs.Interleaving
import LocaleGen.Proofs.Moves
import Mathlib

/-!
# What chronicles say of passes

A run of a batch and the run with its chronicle are the same run (`Batch.reaches_of_chronicled`,
`Batch.exists_chronicle`). `Job.Tells` lists what a pass may have written and entered into the build
log by the time that it is in a state; every move keeps to the list (`Job.Tells.step`), whatever the
host tells the pass. So for each pass of a run the chronicle has the entries and outputs that its
state accounts for (`Batch.chronicled_of_reaches`), and at the end those that its result accounts
for (`Batch.told_of_reaches`).
-/

namespace LocaleGen

variable {σ : Type} {host : Host σ}

/-! ## Runs and their chronicles -/

namespace Host

theorem performAll_chronicled (host : Host σ) (n : Nat) (s : σ) (history : List (Deed σ))
    (effects : List Effect) :
    host.chronicled.performAll n (s, history) effects =
      (((host.performAll n s effects).1, history ++ host.deeds n s effects),
        (host.performAll n s effects).2) := by
  induction effects generalizing s history with
  | nil => simp [performAll, deeds]
  | cons e rest ih =>
    rw [performAll]
    simp only [show host.chronicled.perform (s, history) n e =
      (((host.perform s n e).1, history ++ [⟨s, n, e⟩]), (host.perform s n e).2) from rfl, ih]
    simp [performAll, deeds]

theorem map_effect_deeds (host : Host σ) (n : Nat) (s : σ) (effects : List Effect) :
    (host.deeds n s effects).map Deed.effect = effects := by
  induction effects generalizing s with
  | nil => rfl
  | cons e rest ih => rw [deeds, List.map_cons, ih]

theorem number_of_mem_deeds {n : Nat} {s : σ} {effects : List Effect} {d : Deed σ}
    (h : d ∈ host.deeds n s effects) : d.number = n := by
  induction effects generalizing s with
  | nil => cases h
  | cons e rest ih =>
    rcases List.mem_cons.mp h with rfl | hrest
    · rfl
    · exact ih hrest

end Host

theorem Running.moved_chronicled (host : Host σ) (n : Nat) (s : σ) (history : List (Deed σ))
    (job : Job) (m : Move) (inbox : List Signal) :
    moved host.chronicled n (s, history) job m inbox =
      (((moved host n s job m inbox).1, history ++ host.deeds n s m.2),
        (moved host n s job m inbox).2) := by
  simp only [moved, host.performAll_chronicled]

theorem Effect.eq_log_of_entry? {e : Effect} {entry : LogEntry} (h : e.entry? = some entry) :
    e = .log entry := by
  cases e <;> cases h
  rfl

namespace Deed

theorem mem_effectsOf {history : List (Deed σ)} {d : Deed σ} (h : d ∈ history) :
    d.effect ∈ effectsOf history d.number :=
  List.mem_map_of_mem (List.mem_filter.mpr ⟨h, decide_eq_true rfl⟩)

theorem effectsOf_deeds (history : List (Deed σ)) (n : Nat) (s : σ) (effects : List Effect) :
    effectsOf (history ++ host.deeds n s effects) n = effectsOf history n ++ effects := by
  have own : (host.deeds n s effects).filter (fun d => d.number = n) = host.deeds n s effects :=
    List.filter_eq_self.mpr fun d hd => by simpa using Host.number_of_mem_deeds hd
  rw [effectsOf, List.filter_append, own, List.map_append, host.map_effect_deeds, effectsOf]

theorem effectsOf_deeds_of_ne (history : List (Deed σ)) {m n : Nat} (h : m ≠ n) (s : σ)
    (effects : List Effect) :
    effectsOf (history ++ host.deeds n s effects) m = effectsOf history m := by
  have others : (host.deeds n s effects).filter (fun d => d.number = m) = [] :=
    List.filter_eq_nil_iff.mpr fun d hd => by simpa [Host.number_of_mem_deeds hd] using Ne.symm h
  rw [effectsOf, List.filter_append, others, List.append_nil, effectsOf]

end Deed

section

variable [NestingLimits]

namespace Batch

/-- What everything that a host does keeps, every run keeps. -/
theorem invariant_of_reaches {P : σ → Prop} (keeps : ∀ s n e, P s → P (host.perform s n e).1)
    {b b' : σ × List Seat} (h : Reaches host b b') (start : P b.1) : P b'.1 := by
  have all (n : Nat) (s : σ) (effects : List Effect) (hs : P s) :
      P (host.performAll n s effects).1 := by
    induction effects generalizing s with
    | nil => exact hs
    | cons e rest ih => exact ih _ (keeps s n e hs)
  induction h with
  | refl => exact start
  | tail _ step ih =>
    cases step with
    | start => exact all _ _ _ ih
    | answer => exact all _ _ _ ih

/-- What is done in a run on a host that also keeps a chronicle is a run on the host. -/
theorem reaches_of_chronicled {b b' : (σ × List (Deed σ)) × List Seat}
    (h : Reaches host.chronicled b b') : Reaches host (b.1.1, b.2) (b'.1.1, b'.2) := by
  induction h with
  | refl => exact .refl
  | tail _ step ih =>
    refine .tail ih ?_
    cases step with
    | start hseat =>
      rw [Running.start, Running.moved_chronicled]
      exact .start hseat
    | answer hseat =>
      rw [Running.moved_chronicled]
      exact .answer hseat

theorem exists_chronicle {b b' : σ × List Seat} (h : Reaches host b b') :
    ∃ history, Reaches host.chronicled ((b.1, []), b.2) ((b'.1, history), b'.2) := by
  induction h with
  | refl => exact ⟨[], .refl⟩
  | tail _ step ih =>
    obtain ⟨history, reached⟩ := ih
    cases step with
    | @start s seats n job hseat =>
      have next : Step host.chronicled ((s, history), seats) _ := .start hseat
      rw [Running.start, Running.moved_chronicled] at next
      exact ⟨_, .tail reached next⟩
    | @answer s seats n job state before signal after hseat =>
      have next : Step host.chronicled ((s, history), seats) _ := .answer hseat
      rw [Running.moved_chronicled] at next
      exact ⟨_, .tail reached next⟩

end Batch

def Seat.job (seat : Seat) : Job :=
  match seat with
  | .waiting job => job
  | .begun p => p.job

/-- Every pass stays at its place. -/
theorem Batch.map_job_of_reaches {b b' : σ × List Seat} (h : Reaches host b b') :
    b'.2.map Seat.job = b.2.map Seat.job := by
  have stays {seats : List Seat} {n : ℕ} {seat seat' : Seat} (hseat : seats[n]? = some seat)
    (same : seat'.job = seat.job) : (seats.set n seat').map Seat.job = seats.map Seat.job := by
    obtain ⟨hbound, hat⟩ := List.getElem?_eq_some_iff.mp hseat
    rw [List.map_set, same, ← hat, ← List.getElem_map Seat.job (h := by simpa using hbound),
      List.set_getElem_self]
  induction h with
  | refl => rfl
  | tail _ step ih =>
    rw [← ih]
    cases step with
    | start hseat => exact stays hseat rfl
    | answer hseat => exact stays hseat rfl

/-- The results of a batch are those of its jobs, in their order. -/
theorem Batch.jobs_of_results {s₀ s : σ} {jobs : List Job} {passes : List Running}
    {results : List PassResult} (h : Reaches host (s₀, jobs.map .waiting) (s, passes.map .begun))
    (ended : results? passes = some results) : results.map PassResult.job = jobs := by
  have same : passes.map Running.job = jobs := by
    have kept := map_job_of_reaches h
    rw [List.map_map, List.map_map] at kept
    simpa [Function.comp_def, Seat.job] using kept
  rw [← same]
  refine (List.forall₂_eq_eq_eq ▸ List.forall₂_map_left_iff.mpr
    (List.forall₂_map_right_iff.mpr ?_) : _ = _)
  exact (forall₂_of_results ended).flip.imp fun r p hr => (Running.result?_eq_some hr).1.symm

end

/-! ## One pass -/

namespace Job

variable (job : Job)

def startEntry : LogEntry := .started job.time (.text job.inputId) (.text job.settings.target.name)

def skipEntry : LogEntry := .skipped job.time (.text job.inputId) (.text job.settings.trigger)

/-- The entry that a pass ends with which has written what it has generated from these inputs. -/
def completionEntry (inputs : Artifact.Inputs) : LogEntry :=
  .completed job.time (.text job.inputId) (.text job.outputId) (.float job.duration)
    (.int inputs.document.sections.size) (.int inputs.document.keyCount)
      (.int inputs.languages.length)

def failureEntry (stage : Stage) (failure : Failure) : LogEntry :=
  .failed job.time (.text job.inputId) (.text stage.name) (.float job.duration) failure.toJson

/-- What the pass in a state has asked to be written, and the entries that it has made. -/
inductive Tells (job : Job) : PassState → List (Path × Text) → List LogEntry → Prop
  | waits {s : PassState} : s.isBeforeWrite = true → Tells job s [] [job.startEntry]
  | persisting {b : Bundling} {received : List (Nat × Text)} {text : Text} :
      Artifact.generate job.settings.target (b.inputs received) = .ok text →
      Tells job (.persisting b) [(job.output, text)] [job.startEntry]
  | skipped : Tells job (.finished .skipped) [] [job.skipEntry]
  | completed {inputs : Artifact.Inputs} {text : Text} :
      Artifact.generate job.settings.target inputs = .ok text →
      Tells job (.finished .completed) [(job.output, text)] [job.startEntry,
        job.completionEntry inputs]
  | failed {stage : Stage} {failure : Failure} {written : List (Path × Text)} :
      (written = [] ∨ ∃ text, written = [(job.output, text)]) →
      Tells job (.finished (.failed stage failure)) written [job.startEntry,
        job.failureEntry stage failure]
  | cancelled {written : List (Path × Text)} :
      (written = [] ∨ ∃ text, written = [(job.output, text)]) →
      Tells job .cancelled written [job.startEntry]

variable {job}

theorem entries_of_requests {effects : List Effect} (h : ∀ e ∈ effects, e.isRequest = true) :
    effects.filterMap Effect.entry? = [] := by
  refine List.filterMap_eq_nil_iff.mpr fun e he => ?_
  have request := h e he
  cases e <;> first | rfl | cases request

theorem outputs_of_requests {effects : List Effect} (h : ∀ e ∈ effects, e.isRequest = true) :
    effects.filterMap Effect.output? = [] := by
  refine List.filterMap_eq_nil_iff.mpr fun e he => ?_
  have request := h e he
  cases e <;> first | rfl | cases request

theorem entries_of_closing {closing : List Effect} (h : closing ⊆ [.disconnect]) :
    closing.filterMap Effect.entry? = [] :=
  List.filterMap_eq_nil_iff.mpr fun e he => by rw [List.mem_singleton.mp (h he)]; rfl

theorem outputs_of_closing {closing : List Effect} (h : closing ⊆ [.disconnect]) :
    closing.filterMap Effect.output? = [] :=
  List.filterMap_eq_nil_iff.mpr fun e he => by rw [List.mem_singleton.mp (h he)]; rfl

namespace Tells

variable {s : PassState} {written : List (Path × Text)} {entries : List LogEntry}

theorem begin : job.Tells job.begin.1 (job.begin.2.filterMap Effect.output?)
    (job.begin.2.filterMap Effect.entry?) := by
  unfold Job.begin
  split
  · exact .waits rfl
  · exact .skipped

/-- A move that leaves the pass where it is tells nothing more. -/
theorem stays (h : job.Tells s written entries) :
    job.Tells s (written ++ ([] : List Effect).filterMap Effect.output?)
      (entries ++ ([] : List Effect).filterMap Effect.entry?) := by
  simpa using h

/-- The first entry is there, and the pass goes on in one of the four ways. -/
theorem proceeds {connected : Bool} {m : Move} (h : job.Proceeds connected m) :
    job.Tells m.1 (m.2.filterMap Effect.output?)
    (job.startEntry :: m.2.filterMap Effect.entry?) := by
  cases h with
  | waits early _ requests =>
    rw [outputs_of_requests requests, entries_of_requests requests]
    exact .waits early
  | writes b received text generated hm =>
    subst hm
    exact .persisting generated
  | fails stage f closing hclosing hm =>
    subst hm
    simp only [List.filterMap_append, outputs_of_closing hclosing, entries_of_closing hclosing,
      List.nil_append]
    exact .failed (.inl rfl)
  | cancels closing hclosing hm =>
    subst hm
    simp only [outputs_of_closing hclosing, entries_of_closing hclosing]
    exact .cancelled (.inl rfl)

/-- Whatever a pass is told, it goes on telling what its state accounts for. -/
theorem step [NestingLimits] (h : job.Tells s written entries) (signal : Signal) :
    job.Tells (job.step s signal).1 (written ++ (job.step s signal).2.filterMap Effect.output?)
      (entries ++ (job.step s signal).2.filterMap Effect.entry?) := by
  cases h with
  | waits early => exact proceeds (job.proceeds_step early signal)
  | @persisting b received text generated =>
    cases signal with
    | written r =>
      cases r with
      | error f => exact .failed (.inr ⟨text, rfl⟩)
      | ok =>
        have generated : Artifact.generate job.settings.target (b.inputs received) =
          .ok text := generated
        exact .completed generated
    | cancel => exact .cancelled (.inr ⟨text, rfl⟩)
    | _ => exact stays (.persisting generated)
  | skipped =>
    rw [job.step_finished]
    exact stays .skipped
  | completed generated =>
    rw [job.step_finished]
    exact stays (.completed generated)
  | failed one =>
    rw [job.step_finished]
    exact stays (.failed one)
  | cancelled one => cases signal <;> exact stays (.cancelled one)

end Tells

end Job

/-! ## All passes of a batch -/

/-- What the pass at a place of a batch has asked to be written, and the entries that it has
made. -/
inductive Seat.Tells : Seat → List (Path × Text) → List LogEntry → Prop
  | waiting (job : Job) : Seat.Tells (.waiting job) [] []
  | begun {p : Running} {written : List (Path × Text)} {entries : List LogEntry} :
      p.job.Tells p.state written entries →
      Seat.Tells (.begun p) written entries

namespace Batch

/-- The chronicle of a batch has of every pass what its state accounts for, and nothing of passes
that there are not. -/
structure Chronicled (b : (σ × List (Deed σ)) × List Seat) : Prop where
  numbers : ∀ d ∈ b.1.2, d.number < b.2.length
  tells : ∀ (n : ℕ) (seat : Seat), b.2[n]? = some seat →
    seat.Tells (Deed.outputsOf b.1.2 n) (Deed.entriesOf b.1.2 n)

namespace Chronicled

theorem start (s : σ) (jobs : List Job) : Chronicled ((s, []), jobs.map .waiting) where
  numbers := List.forall_mem_nil _
  tells n seat hseat := by
    obtain ⟨job, -, rfl⟩ := List.mem_map.mp (List.mem_of_getElem? hseat)
    exact .waiting job

variable {s s' : σ} {history : List (Deed σ)} {seats : List Seat} {n : Nat} {seat seat' : Seat}
    {effects : List Effect}

/-- One pass goes on, and the others tell what they have told. -/
theorem move (h : Chronicled ((s, history), seats)) (hseat : seats[n]? = some seat)
    (own : ∀ written entries, seat.Tells written entries →
      seat'.Tells (written ++ effects.filterMap Effect.output?)
      (entries ++ effects.filterMap Effect.entry?)) :
    Chronicled ((s', history ++ host.deeds n s effects), seats.set n seat') where
  numbers d hd := by
    have bound : n < seats.length := (List.getElem?_eq_some_iff.mp hseat).1
    rw [List.length_set]
    rcases List.mem_append.mp hd with hd | hd
    · exact h.numbers d hd
    · rw [Host.number_of_mem_deeds hd]
      exact bound
  tells m found hfound := by
    refine forall_set (P := fun m (found : Seat) =>
      found.Tells (Deed.outputsOf (history ++ host.deeds n s effects) m)
      (Deed.entriesOf (history ++ host.deeds n s effects) m))
        ?_ (fun m hm found hfound => ?_) hfound
    · rw [Deed.outputsOf, Deed.entriesOf, Deed.effectsOf_deeds, List.filterMap_append,
        List.filterMap_append]
      exact own _ _ (h.tells n seat hseat)
    · rw [Deed.outputsOf, Deed.entriesOf, Deed.effectsOf_deeds_of_ne history hm]
      exact h.tells m found hfound

theorem step [NestingLimits] {b b' : (σ × List (Deed σ)) × List Seat} (h : Chronicled b)
    (s : Step host.chronicled b b') : Chronicled b' := by
  cases s with
  | @start s seats n job hseat =>
    obtain ⟨s, history⟩ := s
    rw [Running.start, Running.moved_chronicled]
    refine h.move hseat fun written entries told => ?_
    cases told with
    | waiting => exact .begun Job.Tells.begin
  | @answer s seats n job state before signal after hseat =>
    obtain ⟨s, history⟩ := s
    rw [Running.moved_chronicled]
    refine h.move hseat fun written entries told => ?_
    cases told with
    | begun told => exact .begun (told.step signal)

end Chronicled

/-- In every run the chronicle has of every pass what its state accounts for. -/
theorem chronicled_of_reaches [NestingLimits] {s₀ : σ} {jobs : List Job}
    {b : (σ × List (Deed σ)) × List Seat}
    (h : Reaches host.chronicled ((s₀, []), jobs.map .waiting) b) : Chronicled b := by
  induction h with
  | refl => exact .start s₀ jobs
  | tail _ step ih => exact ih.step step

end Batch

/-! ## Outputs -/

theorem Job.Tells.output_eq {job : Job} {s : PassState} {written : List (Path × Text)}
    {entries : List LogEntry} (h : job.Tells s written entries) :
    ∀ o ∈ written, o.1 = job.output := by
  have single {written : List (Path × Text)}
    (h : written = [] ∨ ∃ text, written = [(job.output, text)]) :
      ∀ o ∈ written, o.1 = job.output := by
    rcases h with rfl | ⟨text, rfl⟩
    · exact List.forall_mem_nil _
    · exact List.forall_mem_singleton.mpr rfl
  cases h with
  | waits | skipped => exact List.forall_mem_nil _
  | persisting | completed => exact List.forall_mem_singleton.mpr rfl
  | failed one | cancelled one => exact single one

/-- Whatever is written in a run is the output of a pass. -/
theorem Batch.output_of_reaches [NestingLimits] {s₀ s : σ} {jobs : List Job}
    {history : List (Deed σ)} {seats : List Seat} {d : Deed σ} {output : Path} {text : Text}
    (h : Reaches host.chronicled ((s₀, []), jobs.map .waiting) ((s, history), seats))
    (hd : d ∈ history) (hwrite : d.effect = .write output text) :
    ∃ job, jobs[d.number]? = some job ∧ output = job.output := by
  have chronicled := chronicled_of_reaches h
  have hjobs := map_job_of_reaches h
  have bound := chronicled.numbers d hd
  have told : seats[d.number].Tells (Deed.outputsOf history d.number)
      (Deed.entriesOf history d.number) :=
    chronicled.tells d.number seats[d.number] (List.getElem?_eq_getElem bound)
  have hmem : (output, text) ∈ Deed.outputsOf history d.number :=
    List.mem_filterMap.mpr ⟨d.effect, Deed.mem_effectsOf hd, by rw [hwrite]; rfl⟩
  have hjob : jobs[d.number]? = some seats[d.number].job := by
    have same : seats.map Seat.job = jobs := by simpa [Function.comp_def, Seat.job] using hjobs
    rw [← same, List.getElem?_map, List.getElem?_eq_getElem bound, Option.map_some]
  refine ⟨_, hjob, ?_⟩
  generalize seats[d.number] = seat, Deed.outputsOf history d.number = written,
    Deed.entriesOf history d.number = entries
    at told hmem
  cases told with
  | waiting job => cases hmem
  | begun told => exact told.output_eq _ hmem

/-! ## What entries tell -/

namespace Job

variable (job : Job)

theorem tellsStart_startEntry : job.startEntry.TellsStart job :=
  ⟨⟨rfl, rfl, rfl, rfl⟩, rfl⟩

theorem tellsSkip_skipEntry : job.skipEntry.TellsSkip job :=
  ⟨⟨rfl, rfl, rfl, rfl⟩, rfl⟩

theorem tellsCompletion_completionEntry (inputs : Artifact.Inputs) :
    (job.completionEntry inputs).TellsCompletion job job.outputId inputs :=
  ⟨⟨rfl, rfl, rfl, rfl⟩, rfl, rfl, rfl, rfl⟩

theorem tellsFailure_failureEntry (stage : Stage) (failure : Failure) :
    (job.failureEntry stage failure).TellsFailure job stage failure :=
  ⟨⟨rfl, rfl, rfl, rfl⟩, rfl, failure.toJson, rfl, rfl, rfl, rfl, rfl⟩

/-- A pass that has ended tells what its result says. -/
theorem Tells.isTold {o : Outcome} {written : List (Path × Text)} {entries : List LogEntry}
    (h : job.Tells (.finished o) written entries) : PassResult.IsTold ⟨job, o⟩ written entries := by
  cases h with
  | waits early => cases early
  | skipped => exact .skipped rfl job.tellsSkip_skipEntry
  | completed generated =>
    exact .completed rfl rfl generated job.tellsStart_startEntry
      (job.tellsCompletion_completionEntry _)
  | failed one =>
    exact .failed rfl one job.tellsStart_startEntry (job.tellsFailure_failureEntry _ _)

end Job

theorem PassResult.IsTold.category {r : PassResult} {written : List (Path × Text)}
    {entries : List LogEntry} (h : r.IsTold written entries) :
    ∀ e ∈ entries, e.category = LogEntry.builds := by
  cases h with
  | skipped _ only => exact List.forall_mem_singleton.mpr only.category
  | completed _ _ _ first last => exact List.forall_mem_cons.mpr ⟨first.category,
    List.forall_mem_singleton.mpr last.category⟩
  | failed _ _ first last => exact List.forall_mem_cons.mpr ⟨first.category,
    List.forall_mem_singleton.mpr last.category⟩

/-- When all passes of a run have ended, the chronicle has of each of them what its result says. -/
theorem Batch.told_of_reaches [NestingLimits] {s₀ s : σ} {jobs : List Job} {history : List (Deed σ)}
    {passes : List Running} {results : List PassResult}
    (h : Reaches host.chronicled ((s₀, []), jobs.map .waiting) ((s, history), passes.map .begun))
    (ended : results? passes = some results) :
    (∀ d ∈ history, d.number < results.length) ∧
      ∀ (n : ℕ) (r : PassResult), results[n]? = some r →
      r.IsTold (Deed.outputsOf history n) (Deed.entriesOf history n) := by
  have chronicled := chronicled_of_reaches h
  have related := forall₂_of_results ended
  have length : passes.length = results.length := related.length_eq
  refine ⟨fun d hd => by simpa [length] using chronicled.numbers d hd, fun n r hr => ?_⟩
  obtain ⟨hbound, hat⟩ := List.getElem?_eq_some_iff.mp hr
  have hpass : n < passes.length := length ▸ hbound
  have same := related.get hpass hbound
  rw [List.get_eq_getElem, List.get_eq_getElem, hat] at same
  obtain ⟨hjob, hend⟩ := Running.result?_eq_some same
  have told := chronicled.tells n (.begun passes[n]) (by simp [hpass])
  cases told with
  | begun told =>
    rw [hend, hjob] at told
    exact told.isTold

end LocaleGen
