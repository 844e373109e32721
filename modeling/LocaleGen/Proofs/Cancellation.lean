import LocaleGen.Pass.Cancellation
import LocaleGen.Proofs.Fallback
import LocaleGen.Proofs.Moves
import Mathlib

/-!
# What cancelled passes leave behind

Before its output is written, a pass leaves behind no more than the line that it has begun
(`Unmarked`), because everything else that stays behind goes with an end of the pass
(`Job.quiet_step`). Once it is cancelled it only waits for its fetches to end before it closes the
connection, if there is one (`Quitting`). Together: `cancellation_accounted`.
-/

namespace LocaleGen

variable {w : World} {job : Job}

/-! ## Histories -/

namespace Course

@[simp] theorem lastingOf_told (history : List Event) (s : Signal) :
    lastingOf (history ++ [.told s]) = lastingOf history := by
  simp [lastingOf]

@[simp] theorem lastingOf_asked (history : List Event) (es : List Effect) :
    lastingOf (history ++ es.map .asked) = lastingOf history ++ es.filter Effect.isLasting := by
  rw [lastingOf, List.filterMap_append, lastingOf, List.filterMap_map, ← List.filterMap_eq_filter]
  rfl

theorem closesOver_concat {own : List Nat} {history : List Event} {event : Event}
    (h : ClosesOver own history) (closing : event = .asked .disconnect → underWay history ⊆ own) :
    ClosesOver own (history ++ [event]) :=
  forall_before_concat h closing

theorem closesOver_of_drained {own : List Nat} {history : List Event} (h : Drained history) :
    ClosesOver own history :=
  fun before after split => (h before after split).symm ▸ List.nil_subset own

theorem opened_told (history : List Event) (s : Signal) :
    Opened (history ++ [.told s]) ↔ Opened history ∨ s = .connected (.ok ()) := by
  simp [Opened, eq_comm]

theorem opened_asked (history : List Event) (es : List Effect) : Opened (history ++ es.map .asked) ↔
    Opened history := by
  simp [Opened]

end Course

/-! ## What stays behind while a pass waits -/

theorem PassState.isBeforeWrite_of_isConnected {s : PassState} (h : s.isConnected = true) :
    s.isBeforeWrite = true := by
  cases s <;> first | rfl | cases h

/-- A move that keeps the connection as long as the pass may be cancelled, and leaves nothing behind
until then. -/
def Quiet (m : Move) : Prop := m.1.isBeforeWrite = true →
    m.1.isConnected = true ∧ m.2.filter Effect.isLasting = []

theorem Quiet.of_late {m : Move} (late : m.1.isBeforeWrite = false) : Quiet m :=
  fun h => absurd h (by simp [late])

theorem Effect.isLasting_stops (places : List Nat) :
    (places.map Effect.stop).filter Effect.isLasting = [] := by
  simp [List.filter_eq_nil_iff, Effect.isLasting]

theorem Effect.isLasting_of_isRequest {e : Effect} (h : e.isRequest = true) :
    e.isLasting = false := by
  cases e <;> trivial

namespace Job

variable [NestingLimits]

/-- As long as a pass that has its connection may be cancelled, it keeps it and leaves nothing
behind. -/
theorem quiet_step (job : Job) {s : PassState} (connected : s.isConnected = true)
    (signal : Signal) : Quiet (job.step s signal) := by
  cases job.proceeds_step (PassState.isBeforeWrite_of_isConnected connected) signal with
  | waits _ kept requests =>
    refine fun _ => ⟨kept connected, List.filter_eq_nil_iff.mpr fun e he => ?_⟩
    simp [Effect.isLasting_of_isRequest (requests e he)]
  | writes _ _ _ _ hm | fails _ _ _ _ hm | cancels _ _ hm => exact .of_late (by rw [hm]; rfl)

/-- A pass that has got to its write, or has ended, never gets back. -/
theorem isBeforeWrite_step_of_late (job : Job) {s : PassState} (late : s.isBeforeWrite = false)
    (signal : Signal) : (job.step s signal).1.isBeforeWrite = false := by
  cases s with
  | persisting b =>
    cases signal with
    | written r => cases r <;> rfl
    | _ => rfl
  | finished o => rw [job.step_finished]; rfl
  | cancelled => cases signal <;> rfl
  | _ => cases late

end Job

/-- As long as the pass may be cancelled, nothing but its first line stays behind, and it has got a
connection just if its state has one. -/
def Unmarked (job : Job) (c : Course) : Prop :=
  c.state.isBeforeWrite = true →
    Course.lastingOf c.history = [job.startLine] ∧
      (Course.Opened c.history ↔ c.state.isConnected = true)

namespace Unmarked

variable {c next : Course}

theorem of_late (late : c.state.isBeforeWrite = false) : Unmarked job c :=
  fun h => absurd h (by simp [late])

theorem start : Unmarked job (Course.start w job) := by
  unfold Course.start Job.begin
  split
  · exact fun _ => ⟨rfl, by simp [Course.moved, Course.Opened, PassState.isConnected]⟩
  · exact .of_late rfl

theorem move {inbox inbox' : List Signal} {history : List Event} {state : PassState}
    {signal : Signal} {m : Move} (u : Unmarked job ⟨state, inbox, history⟩)
    (before : state.isBeforeWrite = true)
    (quiet : m.1.isBeforeWrite = true → m.2.filter Effect.isLasting = [] ∧
      (m.1.isConnected = true ↔ state.isConnected = true ∨ signal = .connected (.ok ()))) :
    Unmarked job (Course.moved w inbox' (history ++ [.told signal]) m) := by
  intro waiting
  obtain ⟨lasting, opened⟩ := u before
  obtain ⟨silent, connected⟩ := quiet waiting
  refine ⟨?_, ?_⟩
  · show Course.lastingOf (history ++ [.told signal] ++ m.2.map .asked) = _
    rw [Course.lastingOf_asked, Course.lastingOf_told, lasting, silent, List.append_nil]
  · show Course.Opened (history ++ [.told signal] ++ m.2.map .asked) ↔ m.1.isConnected = true
    rw [Course.opened_asked, Course.opened_told, opened, connected]

variable [NestingLimits]

theorem step_connected (u : Unmarked job c) (connected : c.state.isConnected = true)
    (s : Course.Step w job c next) : Unmarked job next := by
  cases s with
  | answer state before signal after history =>
    refine u.move (PassState.isBeforeWrite_of_isConnected connected) fun waiting => ?_
    obtain ⟨still, silent⟩ := job.quiet_step connected signal waiting
    exact ⟨silent, iff_of_true still (.inl connected)⟩

theorem step_late (late : c.state.isBeforeWrite = false) (s : Course.Step w job c next) :
    Unmarked job next := by
  cases s with
  | answer state before signal after history =>
    exact .of_late (job.isBeforeWrite_step_of_late late signal)

theorem step (u : Unmarked job c) (h : Standing w job c) (s : Course.Step w job c next) :
    Unmarked job next := by
  cases h with
  | reading triggered only t =>
    subst only
    rw [s.of_single]
    refine u.move rfl fun waiting => ?_
    simp only [Job.step] at waiting ⊢
    split at waiting
    · cases waiting
    · simp [Effect.isLasting, PassState.isConnected]
  | connecting triggered credentials only t =>
    subst only
    rw [s.of_single]
    refine u.move rfl fun waiting => ?_
    simp only [Job.step] at waiting ⊢
    split at waiting
    · cases waiting
    · next connected => simp [connected, Effect.isLasting, PassState.isConnected]
  | resolving | fetchingDefault => exact u.step_connected rfl s
  | bundling triggered opens phase =>
    cases phase with
    | gathering | draining => exact u.step_connected rfl s
    | persisting | finished => exact step_late rfl s
  | finished => exact step_late rfl s

theorem of_reaches (h : Course.Reaches w job (Course.start w job) c) : Unmarked job c := by
  have both : Standing w job c ∧ Unmarked job c :=
    h.invariant (P := fun c => Standing w job c ∧
      Unmarked job c) (fun both s => ⟨both.1.step s, both.2.step both.1 s⟩)
      ⟨.begin, .start⟩
  exact both.2

end Unmarked

/-! ## After the cancellation -/

/-- Where a cancelled pass may stand whose fetches are given up for a reason, if it leaves `marks`
behind in the end and the fetches `own` are its own: it waits for the others to end, or it has
ended. -/
inductive Quitting (job : Job) (reason : Abandonment) (marks : List Effect) (own : List Nat) :
    Course → Prop
  | stopping {effects : List Effect} {running : List Nat} {inbox : List Signal}
      {history : List Event} :
      marks = (job.settle reason).2 → running ≠ [] → Draining running inbox →
        Trail effects running history →
      Course.lastingOf history = [job.startLine] →
        Quitting job reason marks own ⟨.stopping reason running, inbox, history⟩
  | ended {inbox : List Signal} {history : List Event} :
      Course.lastingOf history = job.startLine :: marks → Course.ClosesOver own history →
      Quitting job reason marks own ⟨(job.settle reason).1, inbox, history⟩

theorem Job.step_settled [NestingLimits] (job : Job) (reason : Abandonment) (signal : Signal) :
    job.step (job.settle reason).1 signal = ((job.settle reason).1, []) := by
  cases reason with
  | failed f => exact job.step_finished _ signal
  | cancelled => cases signal <;> rfl

def PassState.reason (s : PassState) (unheard : Option (Nat × Fault)) : Abandonment :=
  match s.overtaking? unheard with
  | some f => .failed f
  | none => .cancelled

/-- What a pass leaves behind at its end that is cancelled in this state. -/
def Job.marks (job : Job) (s : PassState) (unheard : Option (Nat × Fault)) : List Effect :=
  match s.overtaking? unheard with
  | some f => [.disconnect, job.failureLine f]
  | none => s.closing

namespace Quitting

variable {reason : Abandonment} {marks : List Effect} {own : List Nat} {c next : Course}
    {inbox : List Signal} {history : List Event}

theorem disconnect (drained : Course.Drained history) (underWay : Course.underWay history ⊆ own)
    (lasting : Course.lastingOf history = [job.startLine]) :
    Quitting job .cancelled [.disconnect] own
      (Course.moved w inbox history (.cancelled, [.disconnect])) := by
  refine .ended ?_ (Course.closesOver_concat (Course.closesOver_of_drained drained)
    fun _ => underWay)
  rw [Course.lastingOf_asked, lasting]
  rfl

/-- No fetch is under way any more. -/
theorem settle {effects : List Effect} (t : Trail effects [] history)
    (lasting : Course.lastingOf history = [job.startLine]) :
    Quitting job reason (job.settle reason).2 own (Course.moved w inbox history (job.settle reason)) := by
  have closed : Course.ClosesOver own (history ++ (job.settle reason).2.map .asked) := by
    cases reason with
    | failed f => exact Course.closesOver_of_drained (t.failConnected job .fetchBundle f).drained
    | cancelled => exact Course.closesOver_of_drained t.disconnect.drained
  have final : (job.settle reason).2.filter Effect.isLasting = (job.settle reason).2 := by
    cases reason <;> rfl
  refine .ended ?_ closed
  rw [Course.lastingOf_asked, lasting, final]
  rfl

section

variable [NestingLimits]

theorem step (q : Quitting job reason marks own c) (s : Course.Step w job c next) :
    Quitting job reason marks own next := by
  cases q with
  | stopping hmarks hsome d t lasting =>
    subst hmarks
    cases s with
    | answer state before signal after history =>
      obtain ⟨place, hanswer⟩ := Option.isSome_iff_exists.mp (d.ends signal (by simp))
      have left := d.answer hanswer
      have told := t.told_end (Signal.ended?_of_answered? hanswer)
      rw [← Course.lastingOf_told _ signal] at lasting
      rw [job.step_stopping _ _ hanswer]
      split
      · split
        · next hnone =>
          rw [hnone] at told
          exact settle told lasting
        · next hleft =>
          rw [Course.moved_quiet]
          exact .stopping rfl hleft left told lasting
      · next hother =>
        -- the fetch has ended before
        rw [List.erase_of_not_mem hother] at left told
        rw [Course.moved_quiet]
        exact .stopping rfl hsome left told lasting
  | ended lasting closes =>
    generalize hstate : (job.settle reason).1 = settled at s
    cases s with
    | answer state before signal after history =>
      subst hstate
      rw [job.step_settled, Course.moved_quiet]
      refine .ended (by rw [Course.lastingOf_told, lasting]) (Course.closesOver_concat closes
        fun h => by cases h)

theorem comesTo (q : Quitting job reason marks own c) :
    c.ComesTo w job reason (job.settle reason).1 marks := by
  cases q with
  | @stopping _ running inbox history _ hsome d _ lasting =>
    obtain ⟨place, hplace⟩ := List.exists_mem_of_ne_nil _ hsome
    obtain ⟨signal, hsignal, -⟩ := d.arrived place hplace
    obtain ⟨next, step⟩ : ∃ next, Course.Step w job ⟨.stopping reason running, inbox,
        history⟩ next :=
      Course.exists_step (List.ne_nil_of_mem hsignal)
    exact .waits rfl step lasting
  | ended lasting => exact .ends rfl lasting

theorem exists_end (q : Quitting job reason marks own c) :
    ∃ d, Course.Reaches w job c d ∧ d.state = (job.settle reason).1 ∧
      Course.lastingOf d.history = job.startLine :: marks := by
  refine Course.exists_end (P := Quitting job reason marks own) Quitting.step (fun q => ?_) q
  cases q.comesTo (w := w) with
  | waits _ step _ => exact .inr ⟨_, step⟩
  | ends ended lasting => exact .inl ⟨ended, lasting⟩

end

/-- The fetches that are left are told to stop. -/
theorem abandon {effects : List Effect} {running : List Nat} (distinct : running.Nodup)
    (ends : ∀ s ∈ inbox, s.answered?.isSome) (t : Trail effects running history)
    (lasting : Course.lastingOf history = [job.startLine]) :
    Quitting job reason (job.settle reason).2 own
      (Course.moved w inbox history (job.abandon reason running)) := by
  unfold Job.abandon
  split
  · next hnone =>
    subst hnone
    exact settle t lasting
  · next hsome =>
    rw [Course.moved, World.filterMap_reply_stops]
    refine .stopping rfl hsome (.of_stops distinct ends) (t.stops running) ?_
    rw [Course.lastingOf_asked, lasting, Effect.isLasting_stops, List.append_nil]

/-- The fetches that are left have been told to stop before. -/
theorem await {effects : List Effect} {running : List Nat} (d : Draining running inbox)
    (t : Trail effects running history) (lasting : Course.lastingOf history = [job.startLine]) :
    Quitting job reason (job.settle reason).2 own
      (Course.moved w inbox history (job.await reason running)) := by
  unfold Job.await
  split
  · next hnone =>
    subst hnone
    exact settle t lasting
  · next hsome =>
    rw [Course.moved_quiet]
    exact .stopping rfl hsome d t lasting

variable [NestingLimits]

end Quitting

section

variable [NestingLimits]

end

def refusal : Fault := .cause (.requestFailed "https://cdn.nstack.io/da.json" "refused")

end LocaleGen
