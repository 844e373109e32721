import LocaleGen.Pass.Cancellation
import LocaleGen.Proofs.Bundling
import Mathlib

/-!
# Moves of a pass

Until its output is to be written a pass goes on in one of four ways (`Job.Proceeds`), whatever it
is told: it asks for something more and waits, it asks for its output to be written, it fails, or it
is cancelled. `Job.proceeds_step` goes through the stages, so that nothing else has to.
-/

namespace LocaleGen

/-- The effect asks the service for something, or for an end of that. -/
def Effect.isRequest (e : Effect) : Bool :=
  match e with
  | .connect _ | .requestIndex _ | .requestPayload .. | .stop _ => true
  | .log _ | .read | .disconnect | .write .. => false

theorem Bundling.isRequest_requests (b : Bundling) (places : List Nat) :
    ∀ e ∈ b.requests places, e.isRequest = true := by
  intro e he
  obtain ⟨place, -, hrequest⟩ := List.mem_filterMap.mp he
  obtain ⟨entry, -, rfl⟩ := Option.map_eq_some_iff.mp hrequest
  rfl

namespace Job

/-- How a pass goes on that has not got to its write, with or without a connection. One that it has
stays open as long as it waits. -/
inductive Proceeds (job : Job) (connected : Bool) (m : Move) : Prop
  | waits : m.1.isBeforeWrite = true → (connected = true → m.1.isConnected = true) →
      (∀ e ∈ m.2, e.isRequest = true) →
      Proceeds job connected m
  | writes (b : Bundling) (received : List (Nat × Text)) (text : Text) :
      Artifact.generate job.settings.target (b.inputs received) = .ok text →
      m = (.persisting b, [.disconnect, .write job.output text]) → Proceeds job connected m
  | fails (stage : Stage) (f : Fault) (closing : List Effect) : closing ⊆ [.disconnect] →
      m = ((job.fail stage f).1, closing ++ (job.fail stage f).2) → Proceeds job connected m
  | cancels (closing : List Effect) : closing ⊆ [.disconnect] → m = (.cancelled, closing) →
      Proceeds job connected m

variable (job : Job) {connected : Bool}

theorem proceeds_fail (stage : Stage) (f : Fault) : job.Proceeds connected (job.fail stage f) :=
  .fails stage f [] (List.nil_subset _) rfl

theorem proceeds_failConnected (stage : Stage) (f : Fault) :
    job.Proceeds connected (job.failConnected stage f) :=
  .fails stage f [.disconnect] (List.Subset.refl _) rfl

theorem proceeds_cancelled (closing : List Effect) (h : closing ⊆ [.disconnect]) :
    job.Proceeds connected (.cancelled, closing) :=
  .cancels closing h rfl

theorem proceeds_stays {s : PassState} (h : s.isBeforeWrite = true) :
    job.Proceeds s.isConnected (s, []) :=
  .waits h id (List.forall_mem_nil _)

theorem proceeds_settle (reason : Abandonment) : job.Proceeds connected (job.settle reason) := by
  cases reason with
  | failed f => exact job.proceeds_failConnected .fetchBundle f
  | cancelled => exact job.proceeds_cancelled _ (List.Subset.refl _)

theorem proceeds_await (reason : Abandonment) (running : List Nat) :
    job.Proceeds connected (job.await reason running) := by
  unfold await
  split
  · exact job.proceeds_settle reason
  · exact .waits rfl (fun _ => rfl) (List.forall_mem_nil _)

theorem proceeds_abandon (reason : Abandonment) (running : List Nat) :
    job.Proceeds connected (job.abandon reason running) := by
  unfold abandon
  split
  · exact job.proceeds_settle reason
  · exact .waits rfl (fun _ => rfl) (List.forall_mem_map.mpr fun _ _ => rfl)

theorem proceeds_assemble (b : Bundling) (received : List (Nat × Text)) :
    job.Proceeds connected (job.assemble b received) := by
  unfold assemble
  split
  · exact job.proceeds_failConnected .emit _
  · next text generated => exact .writes b received text generated rfl

theorem proceeds_request (b : Bundling) (waiting : List Nat) (received : List (Nat × Text)) :
    job.Proceeds connected (job.request b waiting received) := by
  unfold request
  split
  · exact job.proceeds_assemble b received
  · split <;> exact .waits rfl (fun _ => rfl) (b.isRequest_requests _)

theorem proceeds_receive (b : Bundling) (waiting running : List Nat) (received : List (Nat × Text))
    (place : Nat) (r : Except Fault Text) :
    job.Proceeds connected (job.receive b waiting running received place r) := by
  unfold receive
  split
  · exact job.proceeds_abandon _ running
  · dsimp only
    split
    · exact job.proceeds_request b waiting _
    · exact .waits rfl (fun _ => rfl) (List.forall_mem_nil _)

theorem proceeds_resolve (c : Credentials) (r : Except Fault (List IndexEntry)) :
    job.Proceeds connected (job.resolve c r) := by
  unfold resolve
  split
  · exact job.proceeds_failConnected .resolve _
  · split
    · exact job.proceeds_failConnected .resolve _
    · exact .waits rfl (fun _ => rfl) (List.forall_mem_singleton.mpr rfl)

theorem proceeds_decodeDefault [NestingLimits] (c : Credentials) (languages : List IndexEntry)
    (place : Nat) (r : Except Fault Text) :
    job.Proceeds connected (job.decodeDefault c languages place r) := by
  unfold decodeDefault
  split
  · exact job.proceeds_failConnected .fetchDefault _
  · split
    · exact job.proceeds_failConnected .fetchDefault _
    · exact job.proceeds_request _ _ []

theorem proceeds_cancel {s : PassState} (early : s.isBeforeWrite = true)
    (unheard : Option (Nat × Fault)) : job.Proceeds s.isConnected (job.cancel s unheard) := by
  cases s with
  | fetchingBundle b waiting running received => exact job.proceeds_abandon _ _
  | stopping reason running => exact job.proceeds_await .cancelled _
  | reading | connecting => exact job.proceeds_cancelled _ (List.nil_subset _)
  | resolving | fetchingDefault => exact job.proceeds_cancelled _ (List.Subset.refl _)
  | persisting | finished | cancelled => cases early

variable [NestingLimits]

theorem proceeds_stopping (reason : Abandonment) (running : List Nat)
    {signal : Signal} {place : Nat} (h : signal.answered? = some place) :
    job.Proceeds true (job.step (.stopping reason running) signal) := by
  have waits (left : List Nat) : job.Proceeds true (.stopping reason left, []) :=
    job.proceeds_stays (s := .stopping reason left) rfl
  rw [job.step_stopping reason running h]
  split
  · split
    · exact job.proceeds_settle reason
    · exact waits _
  · exact waits running

/-- Whatever a pass is told before its write, it goes on in one of the four ways. -/
theorem proceeds_step {s : PassState} (early : s.isBeforeWrite = true) (signal : Signal) :
    job.Proceeds s.isConnected (job.step s signal) := by
  have stays : job.Proceeds s.isConnected (s, []) := job.proceeds_stays early
  cases s with
  | persisting | finished | cancelled => cases early
  | reading =>
    cases signal with
    | content r =>
      simp only [step]
      split
      · exact job.proceeds_fail .parseConfig _
      · exact .waits rfl (fun none => by cases none) (List.forall_mem_singleton.mpr rfl)
    | cancel unheard => exact job.proceeds_cancel early unheard
    | _ => exact stays
  | connecting c =>
    cases signal with
    | connected r =>
      cases r with
      | error f => exact job.proceeds_fail .resolve f
      | ok => exact .waits rfl (fun _ => rfl) (List.forall_mem_singleton.mpr rfl)
    | cancel unheard => exact job.proceeds_cancel early unheard
    | _ => exact stays
  | resolving c =>
    cases signal with
    | index r => exact job.proceeds_resolve c r
    | cancel unheard => exact job.proceeds_cancel early unheard
    | _ => exact stays
  | fetchingDefault c languages place =>
    cases signal with
    | payload p r =>
      simp only [step]
      split
      · exact job.proceeds_decodeDefault c languages place r
      · exact stays
    | cancel unheard => exact job.proceeds_cancel early unheard
    | _ => exact stays
  | fetchingBundle b waiting running received =>
    cases signal with
    | payload p r =>
      simp only [step]
      split
      · exact job.proceeds_receive b waiting _ received p r
      · exact stays
    | cancel unheard => exact job.proceeds_cancel early unheard
    | _ => exact stays
  | stopping reason running =>
    cases signal with
    | payload | stopped => exact job.proceeds_stopping reason running rfl
    | cancel unheard => exact job.proceeds_cancel early unheard
    | _ => exact stays

end Job

end LocaleGen
