import LocaleGen.Pass.Run

/-!
# Batches

A batch runs a pass for each of several jobs. The passes share nothing but the host, and each of
them can go on whenever something has arrived for it, so any order of their steps is as good as
another. `Batch.run` takes the passes in turns: a pass goes on in its first turn until it has
several fetches under way at once, passes that got all of their payloads follow, then those that did
not, and last those that moreover have fetches to stop that never end by themselves.
-/

namespace LocaleGen.Batch

variable [NestingLimits]

variable {σ : Type}

/-! ## Turns -/

/-- Whether a fetch has failed that the pass does not know of yet. -/
def hasFailure (p : Running) : Bool :=
  p.inbox.any fun signal =>
    match signal with
    | .payload _ (.error _) => true
    | _ => false

/-- How many turns a pass lets go by before it goes on. -/
def delay (p : Running) : Nat :=
  match p.state with
  | .fetchingBundle _ _ running _ =>
    if !p.job.settings.api.concurrentFetch then 0
    else if !hasFailure p then 1
    else if p.inbox.length < running.length then 3
    else 2
  | _ => 0

def lastTurn : Nat := 3

def drive (host : Host σ) (turn number : Nat) (s : σ) (p : Running) : σ × Running :=
  p.drive host number (fun p => delay p ≤ turn) s

/-- Every pass takes its turn, the first one having the number `number`. -/
def takeTurn (host : Host σ) (turn number : Nat) (s : σ) (passes : List Running) :
    σ × List Running :=
  match passes with
  | [] => (s, [])
  | p :: rest =>
    let (s, p) := drive host turn number s p
    let (s, rest) := takeTurn host turn (number + 1) s rest
    (s, p :: rest)

/-- Every pass begins and takes its first turn. -/
def launch (host : Host σ) (number : Nat) (s : σ) (jobs : List Job) : σ × List Running :=
  match jobs with
  | [] => (s, [])
  | job :: rest =>
    let (s, p) := Running.start host number s job
    let (s, p) := drive host 0 number s p
    let (s, rest) := launch host (number + 1) s rest
    (s, p :: rest)

def takeTurns (host : Host σ) (left turn : Nat) (s : σ) (passes : List Running) :
    σ × List Running :=
  match left with
  | 0 => (s, passes)
  | left + 1 =>
    let (s, passes) := takeTurn host turn 0 s passes
    takeTurns host left (turn + 1) s passes

/-! ## Batches -/

def run (host : Host σ) (s : σ) (jobs : List Job) : σ × List Running :=
  let (s, passes) := launch host 0 s jobs
  takeTurns host lastTurn 1 s passes

/-- Cancels every pass and runs them to their ends. A batch that is cancelled has no results,
whatever its passes come to. -/
def cancel (host : Host σ) (s : σ) (passes : List Running) : σ × List Running :=
  let told := passes.map fun p => { p with inbox := p.inbox ++ [.cancel none] }
  let (s, passes) := takeTurns host (lastTurn + 1) 0 s told
  (s, passes.map fun p => { p with state := .cancelled })

def results? (passes : List Running) : Option (List PassResult) := passes.mapM Running.result?

end LocaleGen.Batch
