import LocaleGen.Pass.EventLog
import LocaleGen.Proofs.Chronicle
import Mathlib

/-!
# Logging never influences a build

Whatever an event log does with the entries, as long as it is only the file system that refuses
them, the passes of a batch go on as if there were none (`Batch.reaches_of_logged`,
`Batch.exists_logged`). So a batch has the same runs with an event log and without one, and in them
the same is read, requested and written: `logging_is_transparent`.
-/

namespace LocaleGen

variable {σ κ : Type} {host : Host σ} {log : Option (EventLog κ)}

def EventLog.IsContained (log : Option (EventLog κ)) : Prop :=
  ∀ k entry, (record log k entry).2 = .ok ()

theorem EventLog.isContained_none : IsContained (none : Option (EventLog κ)) := fun _ _ => rfl

theorem EventLog.isContained_some {log : EventLog κ}
    (h : ∀ k entry f, (log.write k entry).2 = .error f → f.isFileError = true) :
    IsContained (some log) := by
  intro k entry
  have refused := h k entry
  simp only [record]
  split
  · rfl
  · next k' f hwrite =>
    rw [hwrite] at refused
    rw [if_pos (refused f rfl)]

/-! ## Moves -/

namespace Host

theorem perform_unlogged {e : Effect} (h : e.entry? = none) (s : σ) (n : Nat) :
    host.unlogged.perform s n e = host.perform s n e := by
  cases e <;> first | rfl | cases h

theorem performLogged_other {e : Effect} (h : e.entry? = none) (n : Nat) (s : σ) (k : κ)
    (rest : List Effect) :
    host.performLogged log n s k (e :: rest) =
      ((host.performLogged log n (host.perform s n e).1 k rest).1,
        (host.performLogged log n (host.perform s n e).1 k rest).2.map fun signals =>
          (host.perform s n e).2.toList ++ signals) := by
  cases e <;> first | rfl | cases h

theorem exists_performLogged (h : EventLog.IsContained log) (n : Nat) (s : σ) (k : κ)
    (effects : List Effect) :
    ∃ k', host.performLogged log n s k effects =
      (((host.unlogged.performAll n s effects).1, k'),
        .ok (host.unlogged.performAll n s effects).2) := by
  induction effects generalizing s k with
  | nil => exact ⟨k, rfl⟩
  | cons e rest ih =>
    cases hentry : e.entry? with
    | none =>
      obtain ⟨k', hrest⟩ := ih (host.perform s n e).1 k
      refine ⟨k', ?_⟩
      rw [performLogged_other hentry, hrest, performAll, perform_unlogged hentry]
      rfl
    | some entry =>
      obtain rfl := Effect.eq_log_of_entry? hentry
      obtain ⟨k', hrest⟩ := ih s (EventLog.record log k entry).1
      refine ⟨k', ?_⟩
      have contained := h k entry
      rw [performLogged]
      split
      · next hrecord =>
        rw [hrecord] at contained
        cases contained
      · next hrecord =>
        rw [hrecord] at hrest
        exact hrest

theorem performLogged_none (n : Nat) (s : σ) (k : κ) (effects : List Effect) :
    (host.performLogged none n s k effects).1.2 = k := by
  induction effects generalizing s with
  | nil => rfl
  | cons e rest ih => cases e <;> exact ih _

end Host

/-! ## Runs -/

section

variable [NestingLimits]

namespace Batch

/-- A step as the move that one of the passes makes. -/
theorem step_iff {s : σ} {seats : List Seat} {b : σ × List Seat} :
    Step host (s, seats) b ↔ ∃ n seat job m inbox, seats[n]? = some seat ∧ seat.Goes job m inbox ∧
      b = ((Running.moved host n s job m inbox).1,
        seats.set n (.begun (Running.moved host n s job m inbox).2)) := by
  constructor
  · intro step
    cases step with
    | @start _ _ n job hseat => exact ⟨n, _, job, _, _, hseat, .start job, rfl⟩
    | @answer _ _ n job state before signal after hseat =>
      exact ⟨n, _, job, _, _, hseat, .answer job state before signal after, rfl⟩
  · rintro ⟨n, seat, job, m, inbox, hseat, goes, rfl⟩
    cases goes with
    | start => exact .start hseat
    | answer => exact .answer hseat

/-- With an event log a pass goes on as without one. -/
theorem exists_step_of_logged (h : EventLog.IsContained log) {s : σ} {k : κ} {seats : List Seat}
    {b : (σ × κ) × List Attempt} (step : LoggedStep host log ((s, k), seats.map .going) b) :
    ∃ seats', b.2 = seats'.map .going ∧ Step host.unlogged (s, seats) (b.1.1, seats') := by
  cases step with
  | @go _ _ _ n seat job m inbox hseat goes =>
    rw [List.getElem?_map] at hseat
    obtain ⟨_, hseat, heq⟩ := Option.map_eq_some_iff.mp hseat
    cases heq
    obtain ⟨k', hperform⟩ := host.exists_performLogged h n s k m.2
    rw [hperform]
    refine ⟨seats.set n (.begun (Running.moved host.unlogged n s job m inbox).2), ?_, ?_⟩
    · rw [List.map_set]
      rfl
    · exact step_iff.mpr ⟨n, seat, job, m, inbox, hseat, goes, rfl⟩

theorem exists_loggedStep (h : EventLog.IsContained log) {s s' : σ} {k : κ}
    {seats seats' : List Seat} (step : Step host.unlogged (s, seats) (s', seats')) :
    ∃ k', LoggedStep host log ((s, k), seats.map .going) ((s', k'), seats'.map .going) := by
  obtain ⟨n, seat, job, m, inbox, hseat, goes, hb⟩ := step_iff.mp step
  obtain ⟨rfl, rfl⟩ := Prod.mk.inj hb
  obtain ⟨k', hperform⟩ := host.exists_performLogged h n s k m.2
  have logged : LoggedStep host log ((s, k), seats.map .going) _ :=
    .go (n := n) (by rw [List.getElem?_map, hseat, Option.map_some]) goes
  rw [hperform] at logged
  refine ⟨k', ?_⟩
  rw [List.map_set]
  exact logged

variable {s₀ s : σ} {k₀ k : κ} {seats₀ seats : List Seat} {attempts : List Attempt}

/-- A run with an event log is one of those on the host that is not told of entries. -/
theorem reaches_of_logged (h : EventLog.IsContained log)
    (reached : LoggedReaches host log ((s₀, k₀), seats₀.map .going) ((s, k), attempts)) :
    ∃ seats, attempts = seats.map .going ∧ Reaches host.unlogged (s₀, seats₀) (s, seats) := by
  generalize hb : ((s, k), attempts) = b at reached
  induction reached generalizing s k attempts with
  | refl =>
    cases hb
    exact ⟨seats₀, rfl, .refl⟩
  | @tail c _ _ step ih =>
    subst hb
    obtain ⟨⟨t, j⟩, before⟩ := c
    obtain ⟨seats, rfl, earlier⟩ := ih rfl
    obtain ⟨seats', rfl, last⟩ := exists_step_of_logged h step
    exact ⟨seats', rfl, .tail earlier last⟩

/-- Every run on the host that is not told of entries is possible with the event log. -/
theorem exists_logged (h : EventLog.IsContained log) (k₀ : κ)
    (reached : Reaches host.unlogged (s₀, seats₀) (s, seats)) :
    ∃ k, LoggedReaches host log ((s₀, k₀), seats₀.map .going) ((s, k), seats.map .going) := by
  generalize hb : (s, seats) = b at reached
  induction reached generalizing s seats with
  | refl =>
    cases hb
    exact ⟨k₀, .refl⟩
  | @tail c _ _ step ih =>
    subst hb
    obtain ⟨k, earlier⟩ := ih rfl
    obtain ⟨k', last⟩ := exists_loggedStep h (k := k) step
    exact ⟨k', .tail earlier last⟩

/-- Without an event log nothing happens to what one would keep. -/
theorem kept_of_logged_none {b : (σ × κ) × List Attempt}
    (reached : LoggedReaches host none ((s₀, k₀), attempts) b) : b.1.2 = k₀ := by
  induction reached with
  | refl => rfl
  | tail _ step ih =>
    cases step with
    | go => exact (host.performLogged_none _ _ _ _).trans ih

end Batch

/-- Logging never influences a build. If it is only the file system that refuses entries, whatever
pattern the refusals have, a batch has the same runs with the event log and without one: in the same
order the same is read, requested and written, and the passes stand at the same points and have the
same results. No fault of the event log ever gets out of a pass. -/
theorem logging_is_transparent (host : Host σ) {log : EventLog κ}
    (refusals : ∀ k entry f, (log.write k entry).2 = .error f → f.isFileError = true)
    (jobs : List Job) (s₀ s : σ) (k₀ : κ) (history : List (Deed σ)) (attempts : List Attempt) :
    ((∃ k, Batch.LoggedReaches host.chronicled (some log) (((s₀, []), k₀),
      jobs.map fun job => .going (.waiting job))
        (((s, history), k), attempts)) ↔
      Batch.LoggedReaches host.chronicled none (((s₀, []), k₀),
        jobs.map fun job => .going (.waiting job))
        (((s, history), k₀), attempts)) ∧
    (Batch.LoggedReaches host.chronicled none (((s₀, []), k₀), jobs.map fun job => .going (.waiting job))
        (((s, history), k₀), attempts) ↔
      ∃ seats, attempts = seats.map .going ∧
        Batch.Reaches host.chronicled.unlogged ((s₀, []), jobs.map .waiting)
        ((s, history), seats)) := by
  have contained := EventLog.isContained_some refusals
  have start : (jobs.map fun job => Attempt.going (.waiting job)) =
      (jobs.map .waiting).map .going := by
    rw [List.map_map]
    rfl
  rw [start]
  have without : Batch.LoggedReaches host.chronicled none
      (((s₀, []), k₀), (jobs.map .waiting).map .going) (((s, history), k₀), attempts) ↔
      ∃ seats, attempts = seats.map .going ∧
        Batch.Reaches host.chronicled.unlogged ((s₀, []), jobs.map .waiting)
          ((s, history), seats) := by
    constructor
    · exact Batch.reaches_of_logged EventLog.isContained_none
    · rintro ⟨seats, rfl, reached⟩
      obtain ⟨k, logged⟩ := Batch.exists_logged EventLog.isContained_none k₀ reached
      obtain rfl : k = k₀ := Batch.kept_of_logged_none logged
      exact logged
  refine ⟨?_, without⟩
  rw [without]
  constructor
  · rintro ⟨k, logged⟩
    exact Batch.reaches_of_logged contained logged
  · rintro ⟨seats, rfl, reached⟩
    exact Batch.exists_logged contained k₀ reached

end

def halfFullLog : EventLog Nat :=
  ⟨fun k _ =>
    (k + 1, if k % 2 = 0 then .ok ()
      else .error (.file (.other "[Errno 28] No space left on device")))⟩

open Batch (unroutedService inputDesks twoJobs) in
/-- Two passes take turns as they would without an event log, though every second entry is
refused. -/
theorem logging_is_transparent_halfFull :
    ∃ (s : Ledger) (history : List (Deed Ledger)) (passes : List Running) (k : Nat),
    Batch.LoggedReaches (Ledger.host unroutedService inputDesks).chronicled (some halfFullLog)
      (((.empty, []), 0), twoJobs.map fun job => .going (.waiting job))
      (((s, history), k), passes.map fun p => .going (.begun p)) ∧
    Batch.Reaches (Ledger.host unroutedService inputDesks).chronicled.unlogged ((.empty, []),
      twoJobs.map .waiting)
      ((s, history), passes.map .begun) := by
  have refusals : ∀ k entry f, (halfFullLog.write k entry).2 = .error f → f.isFileError = true := by
    intro k entry f hwrite
    simp only [halfFullLog] at hwrite
    split at hwrite
    · cases hwrite
    · cases hwrite
      rfl
  have reached : Batch.Reaches (Ledger.host unroutedService inputDesks).chronicled.unlogged _ _ :=
    Batch.reaches_run (.empty, []) twoJobs
  generalize Batch.run (Ledger.host unroutedService inputDesks).chronicled.unlogged (.empty,
    []) twoJobs = ended at reached
  obtain ⟨⟨s, history⟩, passes⟩ := ended
  obtain ⟨same, without⟩ :=
    logging_is_transparent (Ledger.host unroutedService inputDesks) refusals
      twoJobs .empty s 0 history
    (passes.map fun p => .going (.begun p))
  obtain ⟨k, logged⟩ :=
    same.mpr (without.mpr ⟨passes.map .begun, by rw [List.map_map]; rfl, reached⟩)
  exact ⟨s, history, passes, k, logged, reached⟩

end LocaleGen
