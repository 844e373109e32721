import LocaleGen.Pass.Step
import Mathlib.Logic.Relation

/-!
# Orders of arrival

A `World` says what comes of everything that a pass can ask for. When it comes is left open: a
`Course` is a pass with the signals that have arrived for it and with all that has happened so far,
and `Course.Step` lets the pass answer any of these signals. So the courses that `Course.Reaches`
are those of every order in which answers can arrive.
-/

namespace LocaleGen

/-! ## Worlds -/

/-- What comes of the things that a pass asks for. -/
structure World where
  content : Except Fault Text
  connected : Credentials → Except Fault Unit
  index : Credentials → Except Fault (List IndexEntry)
  payload : Credentials → Nat → IndexEntry → Except Fault Text
  written : Path → Text → Except Fault Unit

namespace World

variable (w : World)

/-- The signal that answers an effect. A fetch that is stopped ends. Whether a line of the build log
could be written is not told. -/
def reply (e : Effect) : Option Signal :=
  match e with
  | .log _ | .disconnect => none
  | .read => some (.content w.content)
  | .connect c => some (.connected (w.connected c))
  | .requestIndex c => some (.index (w.index c))
  | .requestPayload c place entry => some (.payload place (w.payload c place entry))
  | .stop place => some (.stopped place)
  | .write output text => some (.written (w.written output text))

/-- The output that an effect leaves behind, with its content. -/
def output? (e : Effect) : Option (Text × Text) :=
  match e with
  | .write output text =>
    match w.written output text with
    | .ok () => some (output.render, text)
    | .error _ => none
  | _ => none

end World

/-! ## Fetches -/

def Effect.begun? (e : Effect) : Option Nat :=
  match e with
  | .requestPayload _ place _ => some place
  | _ => none

namespace Signal

/-- The place of the fetch that a signal answers. -/
def answered? (s : Signal) : Option Nat :=
  match s with
  | payload place _ | stopped place => some place
  | _ => none

/-- The place of the fetch that has ended by what a signal tells. -/
def ended? (s : Signal) : Option Nat :=
  match s with
  | cancel unheard => unheard.map Prod.fst
  | s => s.answered?

theorem ended?_of_answered? {s : Signal} {place : Nat} (h : s.answered? = some place) :
    s.ended? = some place := by
  cases s with
  | payload | stopped => exact h
  | _ => cases h

end Signal

variable [NestingLimits]

/-! ## Courses -/

inductive Event where
  | asked (e : Effect)
  | told (s : Signal)

/-- The places whose fetches are under way after an event, those at `running` being so before it. -/
def Event.advance (running : List Nat) (event : Event) : List Nat :=
  match event with
  | asked e => running ++ e.begun?.toList
  | told s => s.ended?.toList.foldl List.erase running

/-- A pass that has begun, the signals that have arrived for it, and what has happened so far. -/
structure Course where
  state : PassState
  inbox : List Signal
  history : List Event

namespace Course

/-- What a pass has asked for so far, lines of the build log apart. -/
def effectsOf (history : List Event) : List Effect :=
  history.filterMap fun event =>
    match event with
    | .asked (.log _) | .told _ => none
    | .asked e => some e

def effects (c : Course) : List Effect := effectsOf c.history

/-- The places whose fetches have begun and not ended. -/
def underWay (history : List Event) : List Nat := history.foldl Event.advance []

/-- No fetch is under way whenever the connection is closed. -/
def Drained (history : List Event) : Prop :=
  ∀ before after, history = before ++ .asked .disconnect :: after → underWay before = []

def outputs (w : World) (c : Course) : List (Text × Text) := c.effects.filterMap w.output?

def moved (w : World) (inbox : List Signal) (history : List Event) (m : Move) : Course :=
  ⟨m.1, inbox ++ m.2.filterMap w.reply, history ++ m.2.map .asked⟩

def start (w : World) (job : Job) : Course := moved w [] [] job.begin

/-- The pass answers one of the signals that have arrived. -/
inductive Step (w : World) (job : Job) : Course → Course → Prop where
  | answer (state : PassState) (before : List Signal) (signal : Signal) (after : List Signal)
      (history : List Event) :
      Step w job ⟨state, before ++ signal :: after, history⟩
        (moved w (before ++ after) (history ++ [.told signal]) (job.step state signal))

def Reaches (w : World) (job : Job) : Course → Course → Prop := Relation.ReflTransGen (Step w job)

end Course

end LocaleGen
