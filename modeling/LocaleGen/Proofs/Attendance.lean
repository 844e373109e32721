import LocaleGen.Proofs.Cancellation
import LocaleGen.Proofs.Ledger
import LocaleGen.Proofs.Moves
import Mathlib

/-!
# Passes that share their surroundings

What a pass asks for in one move concerns neither its input nor its output, or it is just that the
output is written (`Job.asks_step`). So surroundings in which passes get into each other's way have
to be looked at in two moments only.

`Attends` ties a pass that goes on in any surroundings to a course of its own in a world. What has
been written by then is generated from what the world delivers (`Standing.of_write`).
-/

namespace LocaleGen

/-! ## What a move asks for -/

/-- An effect that leaves files alone, those of the build log apart. -/
def Effect.SparesFiles (e : Effect) : Prop :=
  match e with
  | .read | .write .. => False
  | .log entry => entry.category = LogEntry.builds
  | _ => True

theorem Effect.sparesFiles_of_isRequest {e : Effect} (h : e.isRequest = true) : e.SparesFiles := by
  cases e <;> trivial

namespace Job

variable (job : Job)

/-- A move asks for nothing of the input and the output, or just for the output to be written. -/
inductive Asks (m : Move) : Prop
  | spares : (∀ e ∈ m.2, e.SparesFiles) → Asks m
  | writes (b : Bundling) (text : Text) :
      m = (.persisting b, [.disconnect, .write job.output text]) → Asks m

theorem spares_fail (stage : Stage) (f : Fault) : ∀ e ∈ (job.fail stage f).2, e.SparesFiles := by
  simp [fail, Effect.SparesFiles, LogEntry.failed, LogEntry.ofPass]

/-- Once the output is to be written or the pass has ended, nothing is asked for but lines of the
build log. -/
theorem spares_step_of_late [NestingLimits] {s : PassState} (late : s.isBeforeWrite = false)
    (signal : Signal) : ∀ e ∈ (job.step s signal).2, e.SparesFiles := by
  cases s with
  | persisting b =>
    cases signal with
    | written r =>
      cases r with
      | error f => exact job.spares_fail .persist f
      | ok => simp [step, complete, Effect.SparesFiles, LogEntry.completed, LogEntry.ofPass]
    | _ => exact List.forall_mem_nil _
  | finished o =>
    rw [job.step_finished]
    exact List.forall_mem_nil _
  | cancelled => cases signal <;> exact List.forall_mem_nil _
  | _ => cases late

theorem Proceeds.asks {job : Job} {connected : Bool} {m : Move} (h : job.Proceeds connected m) :
    job.Asks m := by
  have closes {closing : List Effect} (hclosing : closing ⊆ [.disconnect]) :
      ∀ e ∈ closing, e.SparesFiles := by
    intro e he
    rw [List.mem_singleton.mp (hclosing he)]
    trivial
  cases h with
  | waits _ _ requests => exact .spares fun e he => Effect.sparesFiles_of_isRequest (requests e he)
  | writes b received text _ hm => exact .writes b text hm
  | fails stage f closing hclosing hm =>
    subst hm
    exact .spares (List.forall_mem_append.mpr ⟨closes hclosing, job.spares_fail stage f⟩)
  | cancels closing hclosing hm =>
    subst hm
    exact .spares (closes hclosing)

theorem asks_step [NestingLimits] (s : PassState) (signal : Signal) :
    job.Asks (job.step s signal) := by
  by_cases early : s.isBeforeWrite = true
  · exact (job.proceeds_step early signal).asks
  · exact .spares (job.spares_step_of_late (by simpa using early) signal)

end Job

/-! ## What is written -/

section

variable [NestingLimits]

def World.Yields (w : World) (target : Target) (text : Text) : Prop :=
  ∃ b e, w.Opens b e ∧ w.Delivers b ∧ Artifact.generate target (w.inputs b) = .ok text

theorem World.Opens.unique {w : World} {b b' : Bundling} {e e' : IndexEntry} (h : w.Opens b e)
    (h' : w.Opens b' e') : b = b' := by
  obtain ⟨c, languages, place, payload, document⟩ := b
  obtain ⟨c', languages', place', payload', document'⟩ := b'
  obtain rfl : c = c' := Except.ok.inj (h.credentials.symm.trans h'.credentials)
  obtain rfl : languages = languages' := Except.ok.inj (h.languages.symm.trans h'.languages)
  obtain ⟨rfl, rfl⟩ : place = place' ∧ e = e' :=
    Prod.mk.inj (Except.ok.inj (h.default.symm.trans h'.default))
  obtain rfl : payload = payload' := Except.ok.inj (h.payload.symm.trans h'.payload)
  obtain rfl : document = document' := Except.ok.inj (h.document.symm.trans h'.document)
  rfl

namespace World.Yields

variable {w : World} {target : Target} {text text' : Text}

theorem unique (h : w.Yields target text) (h' : w.Yields target text') : text = text' := by
  obtain ⟨b, e, opens, -, generated⟩ := h
  obtain ⟨b', e', opens', -, generated'⟩ := h'
  obtain rfl := opens.unique opens'
  exact Except.ok.inj (generated.symm.trans generated')

end World.Yields

end

section Written

variable {w : World} {job : Job} {b : Bundling} {effects : List Effect} {o : Outcome}
    {output : Path} {text : Text}

theorem Bundling.write_notMem_requests (b : Bundling) (places : List Nat)
    (output : Path) (text : Text) : .write output text ∉ b.requests places :=
  fun h => Bool.noConfusion (b.isRequest_requests places _ h)

theorem Conclusion.of_write (h : Conclusion job w b effects o) (hw : .write output text ∈ effects) :
    output = job.output ∧ w.Delivers b ∧
    Artifact.generate job.settings.target (w.inputs b) = .ok text ∧
      (o = .completed ↔ w.written output text = .ok ()) := by
  have requests := fun places => b.write_notMem_requests places output text
  cases h with
  | fetchBundle => simp [requests] at hw
  | emit => simp [requests] at hw
  | persist delivers generated failed =>
    obtain ⟨rfl, rfl⟩ : output = job.output ∧ text = _ := by simpa [requests] using hw
    exact ⟨rfl, delivers, generated, by simp [failed]⟩
  | completed delivers generated written =>
    obtain ⟨rfl, rfl⟩ : output = job.output ∧ text = _ := by simpa [requests] using hw
    exact ⟨rfl, delivers, generated, by simp [written]⟩

variable [NestingLimits]

theorem Verdict.of_write (h : Verdict job w effects o) (hw : .write output text ∈ effects) :
    output = job.output ∧ job.isTriggered = true ∧ w.Yields job.settings.target text ∧
      (o = .completed ↔ w.written output text = .ok ()) := by
  cases h with
  | bundle triggered opens conclusion =>
    rcases List.mem_append.mp hw with hopening | hrest
    · simp [Bundling.opening] at hopening
    · obtain ⟨rfl, delivers, generated, completed⟩ := conclusion.of_write hrest
      exact ⟨rfl, triggered, ⟨_, _, opens, delivers, generated⟩, completed⟩
  | skipped | parseConfig | connect | index | noDefault | fetchDefault => simp at hw

theorem Verdict.exists_written (h : Verdict job w effects .completed) :
    ∃ text, w.written job.output text = .ok () := by
  cases h with
  | bundle _ _ conclusion =>
    cases conclusion with
    | completed _ _ written => exact ⟨_, written⟩

/-- Whatever a pass has written by any time is generated from what the world delivers. -/
theorem Standing.of_write {c : Course} (h : Standing w job c)
    (hw : .write output text ∈ c.effects) :
    output = job.output ∧ job.isTriggered = true ∧ w.Yields job.settings.target text := by
  have requests := fun b places => Bundling.write_notMem_requests b places output text
  cases h with
  | reading _ _ t | connecting _ _ _ t | resolving _ _ _ _ t | fetchingDefault _ _ _ _ _ _ t =>
    rw [Course.effects, t.effects] at hw
    simp at hw
  | finished verdict _ t =>
    rw [Course.effects, t.effects] at hw
    obtain ⟨houtput, triggered, yields, -⟩ := verdict.of_write hw
    exact ⟨houtput, triggered, yields⟩
  | bundling triggered opens phase =>
    cases phase with
    | gathering _ _ _ t | draining _ _ _ t =>
      rw [Course.effects, t.effects] at hw
      simp [Bundling.opening, requests] at hw
    | persisting delivers generated _ t =>
      rw [Course.effects, t.effects] at hw
      obtain ⟨rfl, rfl⟩ : output = job.output ∧ text = _ := by
        simpa [Bundling.opening, requests] using hw
      exact ⟨rfl, triggered, _, _, opens, delivers, generated⟩
    | finished conclusion _ t =>
      rw [Course.effects, t.effects] at hw
      obtain ⟨houtput, yields⟩ := (Verdict.bundle triggered opens conclusion).of_write hw
      exact ⟨houtput, triggered, yields.2.1⟩

end Written

/-! ## Passes and courses -/

/-- Of all that is to arrive a part arrives, and all of it if `answers` holds. -/
structure Arrives (answers : Prop) (arrived all : List Signal) : Prop where
  part : arrived.Sublist all
  whole : answers → all.length ≤ arrived.length

namespace Arrives

variable {answers : Prop} {arrived arrived' all all' : List Signal}

theorem refl (answers : Prop) (all : List Signal) : Arrives answers all all :=
  ⟨.refl all, fun _ => le_rfl⟩

theorem append (h : Arrives answers arrived all) (h' : Arrives answers arrived' all') :
    Arrives answers (arrived ++ arrived') (all ++ all') where
  part := h.part.append h'.part
  whole answer := by
    have first := h.whole answer
    have second := h'.whole answer
    simp only [List.length_append]
    omega

end Arrives

/-- A pass stands where a course of its own in the world `w` has led it, though not all may have
arrived that arrives there. -/
structure Attends [NestingLimits] (answers : Prop) (w : World) (p : Running)
    (c : Course) : Prop where
  reached : Course.Reaches w p.job (Course.start w p.job) c
  state : c.state = p.state
  inbox : Arrives answers p.inbox c.inbox

theorem exists_split_of_sublist {α : Type} {before after l : List α} {a : α}
    (h : (before ++ a :: after).Sublist l) :
    ∃ before' after', l = before' ++ a :: after' ∧ before.Sublist before' ∧
    after.Sublist after' := by
  obtain ⟨front, back, rfl, hbefore, hback⟩ := List.append_sublist_iff.mp h
  obtain ⟨middle, rest, rfl, hmem, hrest⟩ := List.cons_sublist_iff.mp hback
  obtain ⟨left, right, rfl⟩ := List.append_of_mem hmem
  exact ⟨front ++ left, right ++ rest, by simp, hbefore.trans (List.sublist_append_left _ _),
    hrest.trans (List.sublist_append_right _ _)⟩

variable [NestingLimits]

namespace Attends

variable {answers : Prop} {w : World} {job : Job}

theorem start {arrived : List Signal}
    (h : Arrives answers arrived (job.begin.2.filterMap w.reply)) :
    Attends answers w ⟨job, job.begin.1, [] ++ arrived⟩ (Course.start w job) :=
  ⟨.refl, rfl, h⟩

/-- A pass that answers a signal is attended as long as nothing arrives but what arrives in the
world. -/
theorem answer {state : PassState} {before after arrived : List Signal}
    {signal : Signal} {c : Course} (h : Attends answers w ⟨job, state, before ++ signal :: after⟩ c)
    (harrived : Arrives answers arrived ((job.step state signal).2.filterMap w.reply)) :
    ∃ c', Attends answers w ⟨job, (job.step state signal).1, before ++ after ++ arrived⟩ c' ∧
      c'.effects = c.effects ++ Course.effectsOf ((job.step state signal).2.map .asked) := by
  obtain ⟨_, inbox, history⟩ := c
  obtain ⟨reached, rfl, hpart, hwhole⟩ := h
  obtain ⟨before', after', rfl, hbefore, hafter⟩ := exists_split_of_sublist hpart
  refine ⟨_, ⟨reached.tail (.answer _ before' signal after' history), rfl, ?_, fun all => ?_⟩, ?_⟩
  · exact (hbefore.append hafter).append harrived.part
  · have old := hwhole all
    have new := harrived.whole all
    simp only [Course.moved, List.length_append, List.length_cons] at old new ⊢
    omega
  · simp [Course.effects, Course.moved, Course.effectsOf]

theorem exists_result {p : Running} {c : Course} (h : Attends answers w p c) (all : answers)
    (idle : p.inbox = []) : ∃ r, p.result? = some r := by
  have empty : c.inbox = [] := by simpa [idle] using h.inbox.whole all
  rcases (Standing.of_reaches h.reached).ends_or_steps with ⟨o, hend⟩ | ⟨next, step⟩
  · exact ⟨⟨p.job, o⟩, by simp [Running.result?, ← h.state, hend, PassState.outcome?]⟩
  · cases step with
    | answer => simp at empty

end Attends

end LocaleGen
