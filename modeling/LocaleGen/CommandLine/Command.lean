import LocaleGen.CommandLine.Arguments

/-!
# Commands

The two commands of the program: `build` runs a pass for each of its inputs, `validate` looks at one
input without reaching for the service. Without a command the program shows its help.
-/

namespace LocaleGen.CommandLine

/-- What the program is asked to do. -/
inductive Command where
  | help
  /-- Run a pass for each input, with the settings of a file and perhaps another target. -/
  | build (inputs : List Text) (config target : Option Text)
  | validate (input : Text)

/-! ## Help -/

def programHelp : Text := Text.unlines (Text.words
  ["usage: nstackgen [-h] {build,validate} ...",
   "",
   "nstackgen — NStack localization source generator",
   "",
   "positional arguments:",
   "  {build,validate}  Available commands",
   "    build           Generate sources from nstack.json",
   "    validate        Validate an nstack.json",
   "",
   "options:",
   "  -h, --help        show this help message and exit"])

def buildHelp : Text := Text.unlines (Text.words
  ["usage: nstackgen build [-h] [--config CONFIG] [--target {dart,python}]",
   "                       [inputs ...]",
   "",
   "positional arguments:",
   "  inputs                Input files (default: nstack.json)",
   "",
   "options:",
   "  -h, --help            show this help message and exit",
   "  --config CONFIG       Path to nstackgen.yaml (default: ./nstackgen.yaml)",
   "  --target {dart,python}",
   "                        Output dialect (overrides nstackgen.yaml)"])

def validateHelp : Text := Text.unlines (Text.words
  ["usage: nstackgen validate [-h] [input]",
   "",
   "positional arguments:",
   "  input       Input file (default: nstack.json)",
   "",
   "options:",
   "  -h, --help  show this help message and exit"])

/-! ## Grammars -/

def programGrammar : Grammar := ⟨programHelp, [], .command⟩

def configName : Text := "--config"

def targetName : Text := "--target"

def buildGrammar : Grammar :=
  ⟨buildHelp, [⟨configName, none⟩, ⟨targetName, some (Text.words ["dart", "python"])⟩], .any⟩

def validateGrammar : Grammar := ⟨validateHelp, [], .atMostOne⟩

def usualInput : Text := "nstack.json"

/-! ## Commands from arguments -/

namespace Command

/-- The command that arguments of `build` give, and those that have no place. -/
def ofBuild (args : List Text) : Except Refusal (Command × List Text) := do
  let p ← buildGrammar.parse args
  let inputs := (p.operands.getD [])
  let inputs := if inputs = [] then [usualInput] else inputs
  .ok (.build inputs (p.value? configName) (p.value? targetName), p.extras)

def ofValidate (args : List Text) : Except Refusal (Command × List Text) := do
  let p ← validateGrammar.parse args
  .ok (.validate ((p.operands.getD []).head?.getD usualInput), p.extras)

/-- The command that arguments give. -/
def parse (args : List Text) : Except Refusal Command := do
  let p ← programGrammar.parse args
  let (command, extras) : Command × List Text ←
    match p.operands with
    | none | some [] => .ok (Command.help, [])
    | some (name :: rest) =>
      if name = Text.ofString "build" then ofBuild rest
      else if name = Text.ofString "validate" then ofValidate rest
      else .error .usage
  if p.extras ++ extras = [] then .ok command else .error .usage

end Command

end LocaleGen.CommandLine
