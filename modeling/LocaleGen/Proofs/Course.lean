import LocaleGen.Pass.Run
import LocaleGen.Pass.Schedule
import Mathlib

/-!
# Courses of a pass

Every answer lowers the rank of a pass, so no course goes on forever: `wellFounded_step`. A `Trail`
keeps account of what a pass has asked for and of the fetches that are under way; the lemmas say how
it grows with the history.
-/

namespace LocaleGen

/-! ## Termination -/

def PassState.rank (s : PassState) (inbox : List Signal) : ℕ ×ₗ ℕ ×ₗ ℕ :=
  toLex (s.height, toLex (s.fetches, inbox.length))

/-- An answer lowers the rank, if nothing arrives unless something is asked for. -/
theorem Job.rank_step [NestingLimits] (job : Job) (s : PassState)
    (before : List Signal) (signal : Signal) {after arrived : List Signal}
    (quiet : (job.step s signal).2 = [] → arrived = []) :
    (job.step s signal).1.rank (before ++ after ++ arrived) <
      s.rank (before ++ signal :: after) := by
  unfold PassState.rank
  rcases job.step_progress s signal with lower | ⟨same, fewer⟩ | ⟨same, equal, silent⟩
  · exact Prod.Lex.toLex_lt_toLex.mpr (.inl lower)
  · rw [same]
    exact Prod.Lex.toLex_lt_toLex.mpr (.inr ⟨rfl, Prod.Lex.toLex_lt_toLex.mpr (.inl fewer)⟩)
  · rw [same, equal, quiet silent]
    refine Prod.Lex.toLex_lt_toLex.mpr (.inr ⟨rfl, Prod.Lex.toLex_lt_toLex.mpr (.inr ⟨rfl, ?_⟩)⟩)
    simp

namespace Course

section

variable [NestingLimits]

theorem rank_step {w : World} {job : Job} {c c' : Course} (h : Step w job c c') :
    c'.state.rank c'.inbox < c.state.rank c.inbox := by
  cases h with
  | answer state before signal after history =>
    exact job.rank_step state before signal fun silent => by simp [silent]

theorem wellFounded_step (w : World) (job : Job) : WellFounded fun next c => Step w job c next :=
  Subrelation.wf rank_step (InvImage.wf (fun c : Course => c.state.rank c.inbox) wellFounded_lt)

/-- A pass can go on as long as something has arrived for it. -/
theorem exists_step {w : World} {job : Job} {c : Course} (h : c.inbox ≠ []) :
    ∃ next, Step w job c next := by
  obtain ⟨state, _ | ⟨signal, after⟩, history⟩ := c
  · exact absurd rfl h
  · exact ⟨_, .answer state [] signal after history⟩

/-- If one signal has arrived, the next step answers it. -/
theorem Step.of_single {w : World} {job : Job} {state : PassState} {signal : Signal}
    {history : List Event} {next : Course} (s : Step w job ⟨state, [signal], history⟩ next) :
    next = moved w [] (history ++ [.told signal]) (job.step state signal) := by
  generalize hc : (⟨state, [signal], history⟩ : Course) = c at s
  cases s with
  | answer state' before signal' after history' =>
    obtain ⟨rfl, inbox, rfl⟩ := Course.mk.inj hc
    obtain ⟨rfl, rest⟩ := (List.append_eq_singleton_iff.mp inbox.symm).resolve_right (by simp)
    obtain ⟨rfl, rfl⟩ := List.cons.inj rest
    rfl

theorem Reaches.invariant {w : World} {job : Job} {P : Course → Prop} {c c' : Course}
    (keeps : ∀ {c c'}, P c → Step w job c c' → P c') (start : P c)
    (h : Reaches w job c c') : P c' := by
  induction h with
  | refl => exact start
  | tail _ s ih => exact keeps ih s

/-- A course from which one can go on as long as it has not ended, wherever steps lead, can be
brought to an end. -/
theorem exists_end {w : World} {job : Job} {P ended : Course → Prop}
    (keeps : ∀ {c c'}, P c → Step w job c c' → P c')
    (goesOn : ∀ {c}, P c → ended c ∨ ∃ next, Step w job c next) {c : Course} (start : P c) :
    ∃ last, Reaches w job c last ∧ ended last := by
  induction c using (wellFounded_step w job).induction with
  | _ c ih =>
    rcases goesOn start with hend | ⟨next, step⟩
    · exact ⟨c, .refl, hend⟩
    · obtain ⟨last, rest, hend⟩ := ih next step (keeps start step)
      exact ⟨last, .head step rest, hend⟩

end

/-! ## Histories -/

@[simp] theorem effectsOf_append (history later : List Event) :
    effectsOf (history ++ later) = effectsOf history ++ effectsOf later :=
  List.filterMap_append

theorem underWay_concat (history : List Event) (event : Event) :
    underWay (history ++ [event]) = event.advance (underWay history) := by
  simp [underWay]

/-- What holds before every such event holds with one more event, if it does where the last one is
such an event. -/
theorem forall_before_concat {P : List Event → Prop} {closing event : Event} {history : List Event}
    (h : ∀ before after, history = before ++ closing :: after → P before)
    (last : event = closing → P history) :
    ∀ before after, history ++ [event] = before ++ closing :: after → P before := by
  intro before after split
  rcases after.eq_nil_or_concat with rfl | ⟨rest, final, rfl⟩
  · obtain ⟨rfl, heq⟩ := List.append_inj' split rfl
    exact last (List.singleton_inj.mp heq)
  · rw [List.concat_eq_append, ← List.cons_append, ← List.append_assoc] at split
    exact h before rest (List.append_inj' split rfl).1

theorem drained_concat {history : List Event} {event : Event} (h : Drained history)
    (closing : event = .asked .disconnect → underWay history = []) : Drained (history ++ [event]) :=
  forall_before_concat h closing

end Course

/-! ## Trails -/

/-- By this history a pass has asked for the effects, and the fetches at the places `running` are
under way. -/
structure Trail (effects : List Effect) (running : List Nat) (history : List Event) : Prop where
  effects : Course.effectsOf history = effects
  underWay : Course.underWay history = running
  drained : Course.Drained history

namespace Trail

variable {effects : List Effect} {running : List Nat} {history : List Event}

theorem nil : Trail [] [] [] := ⟨rfl, rfl, fun before after h => by simp at h⟩

theorem concat (h : Trail effects running history) (event : Event)
    (closing : event = .asked .disconnect → running = []) :
    Trail (effects ++ Course.effectsOf [event]) (event.advance running) (history ++ [event]) where
  effects := by rw [Course.effectsOf_append, h.effects]
  underWay := by rw [Course.underWay_concat, h.underWay]
  drained := Course.drained_concat h.drained (h.underWay ▸ closing)

theorem told (h : Trail effects running history) (s : Signal) :
    Trail effects ((Event.told s).advance running) (history ++ [.told s]) := by
  simpa [Course.effectsOf] using h.concat (.told s) (fun closing => by cases closing)

theorem told_end (h : Trail effects running history) {s : Signal} {place : Nat}
    (hended : s.ended? = some place) :
    Trail effects (running.erase place) (history ++ [.told s]) := by
  simpa [Event.advance, hended] using h.told s

theorem told_other (h : Trail effects running history) {s : Signal} (hended : s.ended? = none) :
    Trail effects running (history ++ [.told s]) := by
  simpa [Event.advance, hended] using h.told s

/-- Many effects that leave the connection open. -/
theorem asked (h : Trail effects running history) (es : List Effect)
    (closing : Effect.disconnect ∉ es) :
    Trail (effects ++ Course.effectsOf (es.map .asked)) (running ++ es.filterMap Effect.begun?)
      (history ++ es.map .asked) := by
  induction es generalizing effects running history with
  | nil => simpa [Course.effectsOf] using h
  | cons e rest ih =>
    rw [List.mem_cons, not_or] at closing
    have first := h.concat (.asked e) fun eq => absurd (Event.asked.inj eq).symm closing.1
    have all := ih first closing.2
    rw [List.append_assoc effects, ← Course.effectsOf_append, List.append_assoc history] at all
    have begun : (Event.asked e).advance running ++ rest.filterMap Effect.begun? =
        running ++ (e :: rest).filterMap Effect.begun? := by
      cases hb : e.begun? <;> simp [Event.advance, hb]
    rwa [begun] at all

theorem disconnect (h : Trail effects [] history) :
    Trail (effects ++ [.disconnect]) [] (history ++ [.asked .disconnect]) :=
  h.concat (.asked .disconnect) fun _ => rfl

theorem fail (h : Trail effects running history) (job : Job) (stage : Stage) (f : Fault) :
    Trail effects running (history ++ (job.fail stage f).2.map .asked) := by
  have all := h.asked (job.fail stage f).2 (by simp [Job.fail])
  simpa [Job.fail, Course.effectsOf, Effect.begun?, List.filterMap_cons] using all

theorem failConnected (h : Trail effects [] history) (job : Job) (stage : Stage) (f : Fault) :
    Trail (effects ++ [.disconnect]) [] (history ++ (job.failConnected stage f).2.map .asked) := by
  have all := h.disconnect.fail job stage f
  rwa [List.append_assoc] at all

end Trail

end LocaleGen
