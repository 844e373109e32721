import LocaleGen.Pass.Schedule

/-!
# Cancelled passes

A pass may be cancelled wherever it waits before its output is written, and a fetch of its own may
have failed by then without its having heard of it. `Course.Cancels` is the event; from there the
pass goes on with what it has asked for. Of what it asks for, `Course.lastingOf` keeps what stays
behind: lines of the build log, closed connections and outputs.
-/

namespace LocaleGen

variable [NestingLimits]

/-! ## Where a pass may be cancelled -/

namespace PassState

/-- The pass waits for something that comes before its output. -/
def isBeforeWrite (s : PassState) : Bool :=
  match s with
  | reading | connecting _ | resolving _ | fetchingDefault .. | fetchingBundle .. | stopping .. =>
    true
  | persisting _ | finished _ | cancelled => false

def isConnected (s : PassState) : Bool :=
  match s with
  | resolving _ | fetchingDefault .. | fetchingBundle .. | stopping .. => true
  | reading | connecting _ | persisting _ | finished _ | cancelled => false

/-- What a pass has to close when it is cancelled: its connection, if it has one. -/
def closing (s : PassState) : List Effect := if s.isConnected then [.disconnect] else []

/-- The failure that a pass hears of instead of its cancellation. -/
def overtaking? (s : PassState) (unheard : Option (Nat × Fault)) : Option Fault :=
  match s with
  | fetchingBundle _ _ running _ =>
    match Job.reasonOf running unheard with
    | .failed f => some f
    | .cancelled => none
  | _ => none

end PassState

/-! ## What stays behind -/

/-- Something that stays behind when the pass has ended. -/
def Effect.isLasting (e : Effect) : Bool :=
  match e with
  | .log _ | .disconnect | .write .. => true
  | .read | .connect _ | .requestIndex _ | .requestPayload .. | .stop _ => false

namespace Course

/-- What a pass has asked for so far that stays behind. -/
def lastingOf (history : List Event) : List Effect :=
  history.filterMap fun event =>
    match event with
    | .asked e => if e.isLasting then some e else none
    | .told _ => none

/-- The pass has got its connection. -/
def Opened (history : List Event) : Prop := .told (.connected (.ok ())) ∈ history

/-- Whenever the connection is closed, no fetches are under way but these. -/
def ClosesOver (own : List Nat) (history : List Event) : Prop :=
  ∀ before after, history = before ++ .asked .disconnect :: after → underWay before ⊆ own

end Course

namespace Job

def startLine (job : Job) : Effect :=
  .log (.started job.time (.text job.inputId) (.text job.settings.target.name))

def failureLine (job : Job) (f : Fault) : Effect :=
  .log (.failed job.time (.text job.inputId) (.text Stage.fetchBundle.name) (.float job.duration)
    (job.report .fetchBundle f).toJson)

end Job

/-- A cancelled pass comes to `last` and leaves `marks` behind besides the line that it has begun:
it waits for its fetches to end that it has given up, and the end of one can be told, or it stands
there. -/
inductive Course.ComesTo (w : World) (job : Job) (reason : Abandonment) (last : PassState)
    (marks : List Effect)
    (d : Course) : Prop
  | waits {running : List Nat} {next : Course} :
      d.state = .stopping reason running → Course.Step w job d next →
        lastingOf d.history = [job.startLine] →
      ComesTo w job reason last marks d
  | ends : d.state = last → lastingOf d.history = job.startLine :: marks →
      ComesTo w job reason last marks d

end LocaleGen
