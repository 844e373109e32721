import LocaleGen.Pass.Interleaving

/-!
# Chronicles

A `Deed` is one thing that a host does for a pass of a batch. `Host.chronicled` is a host that also
keeps the deeds, so the runs of a batch on it are its runs together with all that has been done on
the way, in its order.

`PassResult.IsTold` says what the entries of the build log tell about a pass, which is no more and
no less than its result and what it has written.
-/

namespace LocaleGen

variable [NestingLimits]

/-! ## Deeds -/

/-- One thing that is done for the pass with a number, and the state of the host before. -/
structure Deed (σ : Type) where
  before : σ
  number : Nat
  effect : Effect

def Effect.entry? (e : Effect) : Option LogEntry :=
  match e with
  | .log entry => some entry
  | _ => none

def Effect.output? (e : Effect) : Option (Path × Text) :=
  match e with
  | .write output content => some (output, content)
  | _ => none

namespace Deed

variable {σ : Type}

def effectsOf (history : List (Deed σ)) (number : Nat) : List Effect :=
  (history.filter fun d => d.number = number).map Deed.effect

def entriesOf (history : List (Deed σ)) (number : Nat) : List LogEntry :=
  (effectsOf history number).filterMap Effect.entry?

def outputsOf (history : List (Deed σ)) (number : Nat) : List (Path × Text) :=
  (effectsOf history number).filterMap Effect.output?

end Deed

namespace Host

variable {σ : Type}

/-- The host that also keeps what it has done. -/
def chronicled (host : Host σ) : Host (σ × List (Deed σ)) where
  perform s number e :=
    let (next, signal) := host.perform s.1 number e
    ((next, s.2 ++ [⟨s.1, number, e⟩]), signal)

def deeds (host : Host σ) (number : Nat) (s : σ) (effects : List Effect) : List (Deed σ) :=
  match effects with
  | [] => []
  | e :: rest => ⟨s, number, e⟩ :: host.deeds number (host.perform s number e).1 rest

end Host

/-! ## What entries tell -/

namespace LogEntry

def value? (e : LogEntry) (name : Text) : Option Json := e.data.member? name

/-- The entry tells about an event of the pass for a job. -/
structure IsAbout (e : LogEntry) (job : Job) (event : Text) : Prop where
  category : e.category = builds
  time : e.value? "timestamp" = some (.text job.time)
  event : e.value? "event" = some (.text event)
  asset : e.value? "asset" = some (.text job.inputId)

structure TellsStart (e : LogEntry) (job : Job) : Prop extends e.IsAbout job "build_started" where
  target : e.value? "target" = some (.text job.settings.target.name)

/-- The entry tells that the input of a job is not the one that the trigger names. -/
structure TellsSkip (e : LogEntry) (job : Job) : Prop extends e.IsAbout job "build_skipped" where
  trigger : e.value? "trigger" = some (.text job.settings.trigger)

/-- The entry tells what has been generated from these inputs, and where it is. -/
structure TellsCompletion (e : LogEntry) (job : Job) (output : Text)
    (inputs : Artifact.Inputs) : Prop
    extends e.IsAbout job "build_completed" where
  output : e.value? "output" = some (.text output)
  sections : e.value? "sections" = some (.int inputs.document.sections.size)
  keys : e.value? "keys" = some (.int inputs.document.keyCount)
  languages : e.value? "languages" = some (.int inputs.languages.length)

/-- The entry tells at which stage the pass has failed, and why. -/
structure TellsFailure (e : LogEntry) (job : Job) (stage : Stage) (failure : Failure) : Prop
    extends e.IsAbout job "build_failed" where
  stage : e.value? "stage" = some (.text stage.name)
  error : ∃ report, e.value? "error" = some report ∧
    report.member? "error_type" = some (.text failure.kind.name) ∧
    report.member? "message" = some (.text failure.message) ∧
      report.member? "asset" = some failure.asset ∧
    report.member? "stage" = some failure.stage

end LogEntry

/-- The entries that tell about a pass with this result, which has asked for these outputs to be
written. -/
inductive PassResult.IsTold (r : PassResult) : List (Path × Text) → List LogEntry → Prop
  | skipped {only : LogEntry} : r.outcome = .skipped → only.TellsSkip r.job → r.IsTold [] [only]
  | completed {first last : LogEntry} {output text : Text} {inputs : Artifact.Inputs} :
      r.outcome = .completed →
      r.outputId? = some output → Artifact.generate r.job.settings.target inputs = .ok text →
      first.TellsStart r.job → last.TellsCompletion r.job output inputs →
      r.IsTold [(r.job.output, text)] [first, last]
  | failed {first last : LogEntry} {stage : Stage} {failure : Failure}
      {written : List (Path × Text)} :
      r.outcome = .failed stage failure →
        (written = [] ∨ ∃ text, written = [(r.job.output, text)]) →
      first.TellsStart r.job → last.TellsFailure r.job stage failure →
        r.IsTold written [first, last]

end LocaleGen
