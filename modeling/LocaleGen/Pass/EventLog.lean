import LocaleGen.Pass.Interleaving

/-!
# Event logs

An `EventLog` takes the entries that passes make, or refuses them. `Batch.LoggedStep` is a step of a
batch whose passes have an event log, or none: what the file system refuses is passed over, and any
other fault of the event log gets out of the pass, which is over then. `Host.unlogged` does
everything but take entries.
-/

namespace LocaleGen

variable [NestingLimits]

variable {σ κ : Type}

/-- What takes entries, or refuses them. -/
structure EventLog (κ : Type) where
  write : κ → LogEntry → κ × Except Fault Unit

def EventLog.record (log : Option (EventLog κ)) (k : κ) (entry : LogEntry) :
    κ × Except Fault Unit :=
  match log with
  | none => (k, .ok ())
  | some log =>
    match log.write k entry with
    | (k, .ok ()) => (k, .ok ())
    | (k, .error f) => (k, if f.isFileError then .ok () else .error f)

namespace Host

/-- The host that is not told of entries. -/
def unlogged (host : Host σ) : Host σ where
  perform s number e :=
    match e with
    | .log _ => (s, none)
    | e => host.perform s number e

/-- Does one thing after the other, up to a fault of the event log. -/
def performLogged (host : Host σ) (log : Option (EventLog κ)) (number : Nat) (s : σ) (k : κ)
    (effects : List Effect) : (σ × κ) × Except Fault (List Signal) :=
  match effects with
  | [] => ((s, k), .ok [])
  | .log entry :: rest =>
    match EventLog.record log k entry with
    | (k, .error f) => ((s, k), .error f)
    | (k, .ok ()) => host.performLogged log number s k rest
  | e :: rest =>
    let (s, signal) := host.perform s number e
    let (after, r) := host.performLogged log number s k rest
    (after, r.map fun signals => signal.toList ++ signals)

end Host

/-! ## Passes with an event log -/

/-- A pass of a batch, as long as no fault of the event log has got out of it. -/
inductive Attempt where
  | going (seat : Seat)
  | raised (f : Fault)

def Attempt.after (job : Job) (state : PassState) (inbox : List Signal)
    (r : Except Fault (List Signal)) : Attempt :=
  match r with
  | .ok arrived => .going (.begun ⟨job, state, inbox ++ arrived⟩)
  | .error f => .raised f

/-- How a pass may go on: its move, and the signals that are left. -/
inductive Seat.Goes : Seat → Job → Move → List Signal → Prop
  | start (job : Job) : Seat.Goes (.waiting job) job job.begin []
  | answer (job : Job) (state : PassState) (before : List Signal) (signal : Signal)
      (after : List Signal) :
      Seat.Goes (.begun ⟨job, state, before ++ signal :: after⟩) job
        (job.step state signal) (before ++ after)

namespace Batch

/-- One of the passes goes on, with an event log. -/
inductive LoggedStep (host : Host σ) (log : Option (EventLog κ)) :
    (σ × κ) × List Attempt → (σ × κ) × List Attempt → Prop
  | go {s : σ} {k : κ} {attempts : List Attempt} {n : Nat} {seat : Seat} {job : Job} {m : Move}
      {inbox : List Signal} :
      attempts[n]? = some (.going seat) → seat.Goes job m inbox →
      LoggedStep host log ((s, k), attempts)
        ((host.performLogged log n s k m.2).1,
          attempts.set n (Attempt.after job m.1 inbox (host.performLogged log n s k m.2).2))

/-- One state of a batch with an event log follows another after any number of steps. -/
def LoggedReaches (host : Host σ) (log : Option (EventLog κ)) :
    (σ × κ) × List Attempt → (σ × κ) × List Attempt → Prop :=
  Relation.ReflTransGen (LoggedStep host log)

end Batch

end LocaleGen
