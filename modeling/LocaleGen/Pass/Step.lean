import LocaleGen.Artifact
import LocaleGen.BuildLog.Basic
import LocaleGen.Pass.Basic

/-!
# Steps of a pass

A pass waits in a `PassState` for a `Signal`, and answers it with the next state and the `Effect`s
that it asks of its surroundings. `begin` and `step` are all there is to a pass, so whatever may
happen to it is a sequence of signals.

The payloads of a pass are fetched all at once or one after the other; `Bundling` keeps what is
known by then. When one of them fails, or the pass is cancelled, the fetches that still run are
stopped, and only when all of them have ended the connection is closed. `Job.step_progress` says
that a signal either brings a pass nearer to its end or changes nothing.
-/

namespace LocaleGen

variable [NestingLimits]

/-! ## What a pass asks for and what it is told -/

/-- What a pass asks of its surroundings. -/
inductive Effect where
  /-- A line of the build log. -/
  | log (e : LogEntry)
  | read
  | connect (c : Credentials)
  | disconnect
  | requestIndex (c : Credentials)
  | requestPayload (c : Credentials) (place : Nat) (e : IndexEntry)
  | stop (place : Nat)
  | write (output : Path) (content : Text)

/-- What a pass is told. -/
inductive Signal where
  | content (r : Except Fault Text)
  | connected (r : Except Fault Unit)
  | index (r : Except Fault (List IndexEntry))
  | payload (place : Nat) (r : Except Fault Text)
  | stopped (place : Nat)
  | written (r : Except Fault Unit)
  /-- The pass is not wanted any more. One of its fetches may have failed by then that it has not
  heard of. -/
  | cancel (unheard : Option (Nat × Fault))

/-! ## States -/

/-- What is known when the payloads of the other languages are fetched. -/
structure Bundling where
  credentials : Credentials
  languages : List IndexEntry
  defaultPlace : Nat
  defaultPayload : Text
  document : Document

/-- Why fetches are given up. -/
inductive Abandonment where
  | failed (f : Fault)
  | cancelled

/-- What a pass waits for. -/
inductive PassState where
  /-- The content of the input. -/
  | reading
  | connecting (c : Credentials)
  | resolving (c : Credentials)
  | fetchingDefault (c : Credentials) (languages : List IndexEntry) (place : Nat)
  /-- The payloads at the places `running`; those at the places `waiting` have not been
  requested. -/
  | fetchingBundle (b : Bundling) (waiting running : List Nat) (received : List (Nat × Text))
  /-- The end of the fetches at the places `running`. -/
  | stopping (reason : Abandonment) (running : List Nat)
  | persisting (b : Bundling)
  | finished (o : Outcome)
  | cancelled

def PassState.outcome? (s : PassState) : Option Outcome :=
  match s with
  | finished o => some o
  | _ => none

abbrev Move := PassState × List Effect

/-! ## Payloads -/

namespace Bundling

/-- The places of the languages whose payload is not known yet. -/
def pending (b : Bundling) : List Nat := (List.range b.languages.length).filter (· ≠ b.defaultPlace)

def payloadAt (b : Bundling) (received : List (Nat × Text)) (place : Nat) : Text :=
  if place = b.defaultPlace then b.defaultPayload else (received.lookup place).getD []

def payloads (b : Bundling) (received : List (Nat × Text)) : Dict Text Text :=
  Dict.ofList (b.languages.mapIdx fun place e => (e.language.locale, b.payloadAt received place))

def inputs (b : Bundling) (received : List (Nat × Text)) : Artifact.Inputs :=
  ⟨b.credentials, b.document, b.languages, b.payloads received⟩

def requests (b : Bundling) (places : List Nat) : List Effect :=
  places.filterMap fun place => (b.languages[place]?).map fun e =>
    .requestPayload b.credentials place e

end Bundling

namespace Job

/-! ## Ends of a pass -/

def fail (job : Job) (stage : Stage) (f : Fault) : Move :=
  let failure := job.report stage f
  (.finished (.failed stage failure),
    [.log (.failed job.time (.text job.inputId) (.text stage.name) (.float job.duration) failure.toJson)])

def failConnected (job : Job) (stage : Stage) (f : Fault) : Move :=
  let (s, effects) := job.fail stage f
  (s, .disconnect :: effects)

def complete (job : Job) (b : Bundling) : Move :=
  (.finished .completed,
    [.log (.completed job.time (.text job.inputId) (.text job.outputId) (.float job.duration)
      (.int b.document.sections.size) (.int b.document.keyCount) (.int b.languages.length))])

/-! ## Fetching the payloads -/

/-- All payloads are there: the connection is closed, and the output is generated and written. -/
def assemble (job : Job) (b : Bundling) (received : List (Nat × Text)) : Move :=
  match Artifact.generate job.settings.target (b.inputs received) with
  | .error f => job.failConnected .emit f
  | .ok content => (.persisting b, [.disconnect, .write job.output content])

/-- No fetch runs any more that was given up. -/
def settle (job : Job) (reason : Abandonment) : Move :=
  match reason with
  | .failed f => job.failConnected .fetchBundle f
  | .cancelled => (.cancelled, [.disconnect])

/-- The pass waits for the fetches at the places `running` to end, which are given up. -/
def await (job : Job) (reason : Abandonment) (running : List Nat) : Move :=
  if running = [] then job.settle reason else (.stopping reason running, [])

/-- The fetches at the places `running` are given up. -/
def abandon (job : Job) (reason : Abandonment) (running : List Nat) : Move :=
  if running = [] then job.settle reason else (.stopping reason running, running.map .stop)

/-- The payloads at the places `waiting` are still to be requested, and none is under way. -/
def request (job : Job) (b : Bundling) (waiting : List Nat) (received : List (Nat × Text)) : Move :=
  match waiting with
  | [] => job.assemble b received
  | place :: rest =>
    if job.settings.api.concurrentFetch then
      (.fetchingBundle b [] (place :: rest) received, b.requests (place :: rest))
    else (.fetchingBundle b rest [place] received, b.requests [place])

/-- A payload has come or failed to come, and the fetches at the places `running` go on. -/
def receive (job : Job) (b : Bundling) (waiting running : List Nat) (received : List (Nat × Text))
    (place : Nat) (r : Except Fault Text) : Move :=
  match r with
  | .error f => job.abandon (.failed f) running
  | .ok payload =>
    let received := (place, payload) :: received
    if running = [] then job.request b waiting received
    else (.fetchingBundle b waiting running received, [])

/-! ## Steps -/

def resolve (job : Job) (c : Credentials) (r : Except Fault (List IndexEntry)) : Move :=
  match r with
  | .error f => job.failConnected .resolve f
  | .ok languages =>
    match IndexEntry.findDefault languages with
    | .error cause => job.failConnected .resolve (.cause cause)
    | .ok (place, e) => (.fetchingDefault c languages place, [.requestPayload c place e])

/-- The payload of the default language has come or failed to come. -/
def decodeDefault (job : Job) (c : Credentials) (languages : List IndexEntry) (place : Nat)
    (r : Except Fault Text) : Move :=
  match r with
  | .error f => job.failConnected .fetchDefault f
  | .ok payload =>
    match Document.ofContent payload with
    | .error f => job.failConnected .fetchDefault f
    | .ok document =>
      let b : Bundling := ⟨c, languages, place, payload, document⟩
      job.request b b.pending []

/-- The fetches that still run when the pass is cancelled, of those at the places `running`. -/
def left (running : List Nat) (unheard : Option (Nat × Fault)) : List Nat :=
  match unheard with
  | some (place, _) => running.erase place
  | none => running

/-- Why the fetches at the places `running` are given up when the pass is cancelled. A failure that
is on its way to the pass gets there first as long as other fetches go on, and then it is not heard
that the pass is cancelled. -/
def reasonOf (running : List Nat) (unheard : Option (Nat × Fault)) : Abandonment :=
  match unheard with
  | some (place, f) => if place ∈ running ∧ running.erase place ≠ [] then .failed f else .cancelled
  | none => .cancelled

def cancel (job : Job) (s : PassState) (unheard : Option (Nat × Fault)) : Move :=
  match s with
  | .finished _ | .cancelled => (s, [])
  | .reading | .connecting _ | .persisting _ => (.cancelled, [])
  | .resolving _ | .fetchingDefault .. => (.cancelled, [.disconnect])
  | .fetchingBundle _ _ running _ => job.abandon (reasonOf running unheard) (left running unheard)
  | .stopping _ running => job.await .cancelled (left running unheard)

def begin (job : Job) : Move :=
  if job.isTriggered then
    (.reading, [.log (.started job.time (.text job.inputId) (.text job.settings.target.name)), .read])
  else
    (.finished .skipped,
      [.log (.skipped job.time (.text job.inputId) (.text job.settings.trigger))])

/-- The answer to a signal. One that the pass does not wait for changes nothing. -/
def step (job : Job) (s : PassState) (signal : Signal) : Move :=
  match s, signal with
  | s, .cancel unheard => job.cancel s unheard
  | .reading, .content r =>
    match r.bind Credentials.ofContent with
    | .error f => job.fail .parseConfig f
    | .ok c => (.connecting c, [.connect c])
  | .connecting c, .connected r =>
    match r with
    | .error f => job.fail .resolve f
    | .ok () => (.resolving c, [.requestIndex c])
  | .resolving c, .index r => job.resolve c r
  | .fetchingDefault c languages place, .payload p r =>
    if p = place then job.decodeDefault c languages place r else (s, [])
  | .fetchingBundle b waiting running received, .payload p r =>
    if p ∈ running then job.receive b waiting (running.erase p) received p r else (s, [])
  | .stopping reason running, .payload p _ | .stopping reason running, .stopped p =>
    if p ∈ running then job.await reason (running.erase p) else (s, [])
  | .persisting b, .written r =>
    match r with
    | .error f => job.fail .persist f
    | .ok () => job.complete b
  | s, _ => (s, [])

end Job

end LocaleGen
