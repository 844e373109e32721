import LocaleGen.Path
import LocaleGen.Settings.Basic

/-!
# Passes

A pass makes one output from one input. A `Job` says which input it is and with which settings; the
pass is run only if the base name of the input is the trigger. The `Stage`s of a pass follow each
other, and the first one that fails ends it. The `PassResult` says how it ended.
-/

namespace LocaleGen

/-! ## Jobs -/

/-- What a pass is run for. -/
structure Job where
  inputId : Text
  settings : Settings
  time : Text
  duration : Binary64

namespace Job

def isTriggered (job : Job) : Bool := (Path.ofText job.inputId).name = job.settings.trigger

def output (job : Job) : Path :=
  (Path.ofText job.inputId).replaceExtension job.settings.target.extension

def outputId (job : Job) : Text := job.output.render

end Job

/-! ## Stages -/

/-- The stages of a pass, in their order. -/
inductive Stage where
  /-- The input is read and its credentials are taken. -/
  | parseConfig
  /-- The language index is fetched and the default language found. -/
  | resolve
  | fetchDefault
  | fetchBundle
  | emit
  | persist
  deriving DecidableEq, Repr

/-- The name of a stage in reports. -/
def Stage.name (s : Stage) : Text :=
  match s with
  | parseConfig => "parse_config"
  | resolve => "resolve"
  | fetchDefault => "fetch_default"
  | fetchBundle => "fetch_bundle"
  | emit => "emit"
  | persist => "persist"

/-! ## Results -/

/-- How a pass ended. -/
inductive Outcome where
  | completed
  | skipped
  | failed (stage : Stage) (failure : Failure)

structure PassResult where
  job : Job
  outcome : Outcome

namespace PassResult

def outputId? (r : PassResult) : Option Text :=
  match r.outcome with
  | .completed => some r.job.outputId
  | _ => none

def stage? (r : PassResult) : Option Stage :=
  match r.outcome with
  | .failed stage _ => some stage
  | _ => none

def failure? (r : PassResult) : Option Failure :=
  match r.outcome with
  | .failed _ failure => some failure
  | _ => none

def status (r : PassResult) : Text :=
  match r.outcome with
  | .completed => "completed"
  | .skipped => "skipped"
  | .failed .. => "failed"

def summary (r : PassResult) : Text :=
  let stage : Text :=
    match r.stage? with
    | some s => s.name.quoted
    | none => "None"
  "<BuildResult(" ++ r.job.inputId.quoted ++ ", status=" ++ r.status.quoted ++
    ", stage=" ++ stage ++ ")>"

end PassResult

/-! ## Failures of a stage -/

/-- The report of a fault that ends a stage. Values that the fault brings along are kept. -/
def Job.report (job : Job) (stage : Stage) (f : Fault) : Failure :=
  let place : List (Text × Json) :=
    [(Failure.assetName, .text job.inputId), (Failure.stageName, .text stage.name)]
  match f with
  | .cause c => (c.failure job.time []).withContext place
  | .failure failure => failure.withContext place
  | f => (Cause.unexpected f.name f.message).failure job.time place

end LocaleGen
