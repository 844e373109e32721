import LocaleGen.Settings.File

/-!
# Settings in use

What may happen to settings while a program runs, one `Action` after the other: files change,
settings are loaded or asked for, and what is kept of them is dropped. `Workplace.serve` lets
actions happen and records each of them as an `Incident`; `Incident.latest?` finds in the record
what was loaded last.
-/

namespace LocaleGen

variable [NestingLimits]

namespace Settings

/-- What may happen. -/
inductive Action where
  | edit (change : FileTree → FileTree)
  | load (name : Option Text) (overrides : List (Text × Json))
  | get
  | reset

structure Workplace where
  files : FileTree
  cache : SettingsCache

/-- What has happened: the files before, the action, and the answer if it has one. -/
structure Incident where
  files : FileTree
  action : Action
  answer : Option (Except Fault Settings)

namespace Workplace

/-- What an action leads to in the working directory `root`, and its answer. -/
def perform (root : Text) (w : Workplace) (action : Action) :
    Workplace × Option (Except Fault Settings) :=
  match action with
  | .edit change => ({ w with files := change w.files }, none)
  | .load name overrides =>
    let (cache, r) := w.cache.load w.files (.ofName root name) overrides
    ({ w with cache }, some r)
  | .get =>
    let (cache, r) := w.cache.get w.files root
    ({ w with cache }, some r)
  | .reset => ({ w with cache := .empty }, none)

def serve (root : Text) (w : Workplace) (actions : List Action) : Workplace × List Incident :=
  match actions with
  | [] => (w, [])
  | action :: rest =>
    let (next, answer) := w.perform root action
    let (last, record) := next.serve root rest
    (last, ⟨w.files, action, answer⟩ :: record)

end Workplace

namespace Incident

/-- What was loaded last, if it was `kept` before. Settings that are asked for are loaded only if
there are none. -/
def update (kept : Option Settings) (i : Incident) : Option Settings :=
  match i.action, i.answer with
  | .reset, _ => none
  | .load .., some (.ok s) => some s
  | .get, some (.ok s) => kept.or (some s)
  | _, _ => kept

/-- What was loaded last and not dropped since, if anything. -/
def latest? (record : List Incident) : Option Settings := record.foldl update none

end Incident

end Settings

end LocaleGen
