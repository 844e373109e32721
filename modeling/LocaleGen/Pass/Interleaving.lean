import LocaleGen.Pass.Batch
import LocaleGen.Pass.Schedule

/-!
# Interleavings of passes

The passes of a batch share a host and nothing else. `Batch.Step` lets any of them begin, or answer
any of the signals that have arrived for it, so the steps lead through every interleaving of the
passes, of which `Batch.run` takes one.

`Host.Separates` says of a host that the passes have inputs, services and outputs of their own: each
of them lives in its own world.
-/

namespace LocaleGen

variable [NestingLimits]

/-- A pass of a batch. -/
inductive Seat where
  | waiting (job : Job)
  | begun (p : Running)

namespace Batch

variable {σ : Type}

/-- One of the passes goes on. Its place is its number. -/
inductive Step (host : Host σ) : σ × List Seat → σ × List Seat → Prop where
  | start {s : σ} {seats : List Seat} {n : Nat} {job : Job} :
      seats[n]? = some (.waiting job) →
      Step host (s, seats) ((Running.start host n s job).1,
        seats.set n (.begun (Running.start host n s job).2))
  | answer {s : σ} {seats : List Seat} {n : Nat} {job : Job} {state : PassState}
      {before : List Signal} {signal : Signal}
      {after : List Signal} :
      seats[n]? = some (.begun ⟨job, state, before ++ signal :: after⟩) →
      Step host (s, seats)
        ((Running.moved host n s job (job.step state signal) (before ++ after)).1,
          seats.set n (.begun (Running.moved host n s job (job.step state signal) (before ++ after)).2))

/-- One state of a batch follows another after any number of steps. -/
def Reaches (host : Host σ) : σ × List Seat → σ × List Seat → Prop :=
  Relation.ReflTransGen (Step host)

end Batch

/-- The first `count` passes have nothing in common: what a pass asks for is answered as in its own
world, and changes the outputs of no other pass. -/
structure Host.Separates {σ : Type} (host : Host σ) (count : Nat) (worlds : Nat → World)
    (outputs : σ → Nat → List (Text × Text)) : Prop where
  reply : ∀ s e, ∀ n < count, (host.perform s n e).2 = (worlds n).reply e
  own : ∀ s e, ∀ n < count, outputs (host.perform s n e).1 n =
    outputs s n ++ ((worlds n).output? e).toList
  others : ∀ s e, ∀ n < count, ∀ m ≠ n, outputs (host.perform s n e).1 m = outputs s m

end LocaleGen
