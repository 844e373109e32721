import LocaleGen.BuildLog.Basic
import LocaleGen.CommandLine.Command
import LocaleGen.Pass.Batch
import LocaleGen.Settings.File

/-!
# Running a command

`CommandLine.run` does what the arguments ask for and says what it comes to: the lines that are
printed, how the program ends, and the files afterwards. Every line is a `Line`, whose wording is in
`Line.render`. All of them are printed at the end, one after the other, until there is one that the
stream refuses.

A build first loads its settings, then looks for its inputs, and only when all of them are there it
runs its passes. What keeps a line out of the build log does not matter to it.
-/

namespace LocaleGen.CommandLine

variable [NestingLimits]

/-! ## Lines -/

/-- A line that is printed. -/
inductive Line where
  | help (text : Text)
  | settingsRefused (c : Cause)
  | inputNotFound (path : Text)
  | completed (input output : Text) (duration : Binary64)
  | skipped (input trigger : Text)
  | failed (input : Text) (stage : Stage) (failure : Failure)
  | credentials (path projectId : Text)
  | credentialsRefused (path : Text) (c : Cause)

/-- The text of a line with its end. -/
def Line.render (l : Line) : Text :=
  match l with
  | .help text => text
  | .settingsRefused c => "[ERROR] " ++ c.message ++ "\n"
  | .inputNotFound path => "[ERROR] Input not found: " ++ path ++ "\n"
  | .completed input output duration =>
    "[OK] " ++ input ++ " → " ++ output ++ " (" ++ duration.render ++ " ms)\n"
  | .skipped input trigger => "[SKIP] " ++ input ++ " (trigger is '" ++ trigger ++ "')\n"
  | .failed input stage failure =>
    "[ERROR] " ++ input ++ " failed at " ++ stage.name ++ ": " ++ failure.kind.name ++ ": " ++
      failure.message ++ "\n"
  | .credentials path projectId => "[OK] " ++ path ++ ": project " ++ projectId ++ "\n"
  | .credentialsRefused path c => "[ERROR] " ++ path ++ ": " ++ c.message ++ "\n"

def Line.ofResult (r : PassResult) : Line :=
  match r.outcome with
  | .completed => .completed r.job.inputId r.job.outputId r.job.duration
  | .skipped => .skipped r.job.inputId r.job.settings.trigger
  | .failed stage failure => .failed r.job.inputId stage failure

/-! ## Surroundings and ends -/

/-- A stream that is printed to, by what it says to a text. -/
abbrev Stream := Text → Except Fault Unit

def Stream.ofText : Stream := fun _ => .ok ()

def Stream.utf8 : Stream := fun t =>
  match Utf8.encode t with
  | .ok _ => .ok ()
  | .error (position, run) => .error (.unencodable .utf8 position run)

/-- What surrounds the program. -/
structure Surroundings where
  /-- The working directory as messages show it. -/
  root : Text
  clock : Clock
  passDuration : Binary64
  routes : RouteTable
  stream : Stream := .ofText

/-- How the program ends. -/
inductive Ending where
  | done (code : Nat)
  | refused (code : Nat)
  | raised (f : Fault)
  /-- Not at all: a pass waits for the service. -/
  | waiting

/-- What a command comes to. -/
structure Report where
  lines : List Line
  ending : Ending
  tree : FileTree

/-! ## Passes over files -/

def logOf? (s : Settings) : Option BuildLog :=
  if s.logging.directory = [] then none else some ⟨Path.ofText s.logging.directory⟩

def record (around : Surroundings) (log : Option BuildLog) (tree : FileTree)
    (e : LogEntry) : FileTree :=
  match log with
  | none => tree
  | some log => (log.write around.clock.today e tree).1

/-- Does what the pass over an input asks for. -/
def perform (around : Surroundings) (settings : Settings) (inputs : List Text) (tree : FileTree)
    (number : Nat) (e : Effect) : FileTree × Option Signal :=
  match e with
  | .log entry => (record around (logOf? settings) tree entry, none)
  | .read => (tree, (inputs[number]?).map fun input => .content (tree.readText (Path.ofText input)))
  | .write output content =>
    let (tree, r) := tree.writeText around.root output content
    (tree, some (.written r))
  | e =>
    let service : Service := ⟨settings.api.baseUrl, around.routes⟩
    (tree, (service.serve e).2)

def host (around : Surroundings) (settings : Settings) (inputs : List Text) : Host FileTree :=
  ⟨perform around settings inputs⟩

def jobFor (around : Surroundings) (settings : Settings) (input : Text) : Job :=
  ⟨input, settings, around.clock.time, around.passDuration⟩

/-! ## Commands -/

/-- Runs a pass for every input. -/
def runPasses (around : Surroundings) (settings : Settings) (inputs : List Text)
    (tree : FileTree) : Report :=
  let (tree, passes) :=
    Batch.run (host around settings inputs) tree (inputs.map (jobFor around settings))
  match Batch.results? passes with
  | none => ⟨[], .waiting, tree⟩
  | some results =>
    let failed := results.any fun r => r.failure?.isSome
    ⟨results.map Line.ofResult, .done (if failed then 1 else 0), tree⟩

/-- Refuses a build log that no file can be part of. -/
def checkLog (around : Surroundings) (settings : Settings) : Except Fault Unit :=
  match logOf? settings with
  | none => .ok ()
  | some log => FileTree.checkPath (log.file LogEntry.builds around.clock.today).parent

def missing (inputs : List Text) (tree : FileTree) : Except Fault (List Text) :=
  inputs.filterM fun input => do .ok (!(← tree.isFile (Path.ofText input)))

def build (around : Surroundings) (inputs : List Text) (config target : Option Text)
    (tree : FileTree) : Report :=
  let overrides : List (Text × Json) := target.toList.map fun t => (Text.ofString "target", .text t)
  match Settings.load tree (.ofName around.root config) overrides with
  | .error (.cause c) => ⟨[.settingsRefused c], .done 1, tree⟩
  | .error f => ⟨[], .raised f, tree⟩
  | .ok settings =>
    match missing inputs tree with
    | .error f => ⟨[], .raised f, tree⟩
    | .ok (input :: rest) => ⟨(input :: rest).map .inputNotFound, .done 1, tree⟩
    | .ok [] =>
      match checkLog around settings with
      | .error f => ⟨[], .raised f, tree⟩
      | .ok () => runPasses around settings inputs tree

/-- Looks at an input. -/
def validate (input : Text) (tree : FileTree) : Report :=
  let path := Path.ofText input
  match tree.isFile path with
  | .error f => ⟨[], .raised f, tree⟩
  | .ok false => ⟨[.inputNotFound path.render], .done 1, tree⟩
  | .ok true =>
    match (tree.readText path).bind Credentials.ofContent with
    | .ok c => ⟨[.credentials path.render c.projectId], .done 0, tree⟩
    | .error (.cause c) => ⟨[.credentialsRefused path.render c], .done 1, tree⟩
    | .error f => ⟨[], .raised f, tree⟩

def report (around : Surroundings) (command : Command) (tree : FileTree) : Report :=
  match command with
  | .help => ⟨[.help programHelp], .done 0, tree⟩
  | .build inputs config target => build around inputs config target tree
  | .validate input => validate input tree

/-- Prints lines up to the first one that the stream refuses: those before it, and the fault if
there is one. -/
def print (stream : Stream) (lines : List Line) : List Line × Option Fault :=
  match lines with
  | [] => ([], none)
  | line :: rest =>
    match stream line.render with
    | .error f => ([], some f)
    | .ok () => (line :: (print stream rest).1, (print stream rest).2)

def Report.printed (stream : Stream) (r : Report) : Report :=
  match print stream r.lines with
  | (_, none) => r
  | (lines, some f) => ⟨lines, .raised f, r.tree⟩

def run (around : Surroundings) (args : List Text) (tree : FileTree) : Report :=
  match Command.parse args with
  | .error (.help text) => Report.printed around.stream ⟨[.help text], .refused 0, tree⟩
  | .error .usage => ⟨[], .refused 2, tree⟩
  | .ok command => (report around command tree).printed around.stream

def Report.output (r : Report) : Text := r.lines.flatMap Line.render

/-! ## What a command looks at -/

def settingsPath? (root : Text) (c : Command) : Option Path :=
  match c with
  | .build _ config _ => some (SettingsSource.ofName root config).path
  | _ => none

/-- The files that a command reads or replaces, given those with its settings. -/
def pathsOf (around : Surroundings) (c : Command) (tree : FileTree) : List Path :=
  match c with
  | .help => []
  | .validate input => [Path.ofText input]
  | .build inputs config _ =>
    match Settings.load tree (.ofName around.root config) [] with
    | .error _ => inputs.map Path.ofText
    | .ok settings =>
      let outputs := [Target.dart, Target.python].flatMap fun t =>
        inputs.map fun input => (Path.ofText input).replaceExtension t.extension
      let logs :=
        (logOf? settings).toList.map fun log => log.file LogEntry.builds around.clock.today
      inputs.map Path.ofText ++ outputs ++ logs

end LocaleGen.CommandLine
