import LocaleGen.Dialect.Dart
import LocaleGen.Dialect.Python
import LocaleGen.Fault
import LocaleGen.Naming

/-!
# Targets

A `Target` is a language that sources are generated for. Each function here hands over to the
dialect of the target.

`Question` collects what a dialect can be asked by name. The abstract dialect, which stands for no
language, knows integers and that nothing embeds raw, and answers nothing else.
-/

namespace LocaleGen

/-- The languages that sources are generated for. -/
inductive Target where
  | dart
  | python
  deriving DecidableEq, Repr

namespace Target

def name (target : Target) : Text :=
  match target with
  | dart => "dart"
  | python => "python"

def named (name : Text) : Except Cause Target :=
  if name = "dart" then .ok dart
  else if name = "python" then .ok python
  else .error (.unknownTarget name)

/-- The end of the names of generated files. -/
def extension (target : Target) : Text :=
  match target with
  | dart => Dart.extension
  | python => Python.extension

def reserved (target : Target) : List Text :=
  match target with
  | dart => Dart.reserved
  | python => Python.reserved

def escapeRules (target : Target) : EscapeRules :=
  match target with
  | dart => Dart.escapeRules
  | python => Python.escapeRules

def isIdentifier (target : Target) (name : Text) : Bool :=
  match target with
  | dart => Dart.isIdentifier name
  | python => Python.isIdentifier name

/-- What a section may be called; the name is emitted after a low line. -/
def isTypeName (target : Target) (name : Text) : Bool :=
  match target with
  | dart => Dart.isIdentifier name
  | python => Python.isTypeName name

def stringLiteral (target : Target) (t : Text) : Except Fault Text :=
  match target with
  | dart => (Dart.stringLiteral t).mapError .cause
  | python => Python.stringLiteral t

/-- Whether a raw literal holds the text unchanged, where an answer can be found. -/
def canEmbedRaw (target : Target) (t : Text) : Except Fault Bool :=
  match target with
  | dart => .ok (Dart.canEmbedRaw t)
  | python => Python.canEmbedRaw t

def rawLiteral (target : Target) (t : Text) : Text :=
  match target with
  | dart => Dart.rawLiteral t
  | python => Python.rawLiteral t

def boolLiteral (target : Target) (b : Bool) : Text :=
  match target with
  | dart => Dart.boolLiteral b
  | python => Python.boolLiteral b

def intLiteral (i : Int) : Text := Text.ofInt i

def spell (target : Target) (b : Block) : Text :=
  match target with
  | dart => Dart.spell b
  | python => Python.spell b

/-- The literal that a payload is embedded by: raw if that holds it, with escapes otherwise. -/
def payloadLiteral (target : Target) (payload : Text) : Except Fault Text := do
  if ← target.canEmbedRaw payload then .ok (target.rawLiteral payload)
  else target.stringLiteral payload

def namingRules (target : Target) : Naming.Rules :=
  ⟨target.reserved, target.isIdentifier, target.isTypeName⟩

end Target

/-! ## Questions to a dialect -/

/-- What a dialect can be asked. -/
inductive Question where
  | spell (b : Block)
  | intLiteral (i : Int)
  | boolLiteral (b : Bool)
  | stringLiteral (t : Text)
  | rawLiteral (t : Text)
  | isIdentifier (name : Text)
  | isTypeName (name : Text)
  | canEmbedRaw (t : Text)

inductive Reply where
  | text (t : Text)
  | truth (b : Bool)

namespace Question

def askTarget (q : Question) (target : Target) : Except Fault Reply :=
  match q with
  | spell b => .ok (.text (target.spell b))
  | intLiteral i => .ok (.text (Target.intLiteral i))
  | boolLiteral b => .ok (.text (target.boolLiteral b))
  | stringLiteral t => do .ok (.text (← target.stringLiteral t))
  | rawLiteral t => .ok (.text (target.rawLiteral t))
  | isIdentifier name => .ok (.truth (target.isIdentifier name))
  | isTypeName name => .ok (.truth (target.isTypeName name))
  | canEmbedRaw t => do .ok (.truth (← target.canEmbedRaw t))

def askAbstract (q : Question) : Except Fault Reply :=
  match q with
  | intLiteral i => .ok (.text (Target.intLiteral i))
  | canEmbedRaw _ => .ok (.truth false)
  | _ => .error .notImplemented

def ask (q : Question) (target : Option Target) : Except Fault Reply :=
  match target with
  | some target => q.askTarget target
  | none => q.askAbstract

end Question

end LocaleGen
