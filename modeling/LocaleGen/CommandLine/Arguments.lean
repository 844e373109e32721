import LocaleGen.Unicode.Basic

/-!
# Arguments

A `Grammar` says which flags a command takes and how many operands. `Grammar.parse` sorts the
arguments out: a flag may be cut short as long as it stays the only one, its value follows it or an
equals sign, and after two hyphens everything is an operand. Operands have to stand together; what
is left over is reported as extra.
-/

namespace LocaleGen.CommandLine

/-! ## Grammars -/

structure Flag where
  name : Text
  choices : Option (List Text)

/-- How many operands there may be. -/
inductive Arity where
  | any
  | atMostOne
  | command
  deriving DecidableEq

/-- What a command takes. Every command has a flag that asks for help. -/
structure Grammar where
  help : Text
  flags : List Flag
  arity : Arity

/-- Why arguments are not acted on. -/
inductive Refusal where
  | help (text : Text)
  | usage
  deriving DecidableEq

/-- What the arguments give. -/
structure Parsed where
  values : List (Text × Text)
  operands : Option (List Text)
  extras : List Text

/-! ## Single arguments -/

/-- What a flag is taken for, and the value that comes with it. -/
inductive FlagUse where
  | shortHelp (letters : Option Text)
  | longHelp (value : Option Text)
  | flag (f : Flag) (value : Option Text)
  | unknown

/-- An argument by its kind. -/
inductive Word where
  | operand (t : Text)
  | divider
  | flag (use : FlagUse) (t : Text)

def hyphen : CodePoint := '-'

def shortHelpName : Text := "-h"

def longHelpName : Text := "--help"

def dividerText : Text := "--"

namespace Grammar

def useOf? (g : Grammar) (name : Text) (value : Option Text) : Option FlagUse :=
  if name = shortHelpName then some (.shortHelp value)
  else if name = longHelpName then some (.longHelp value)
  else (g.flags.find? fun f => f.name = name).map fun f => .flag f value

def usesOfStart (g : Grammar) (start : Text) (value : Option Text) : List FlagUse :=
  let longHelp : List FlagUse := if start.isPrefixOf longHelpName then [.longHelp value] else []
  longHelp ++ (g.flags.filter fun f => start.isPrefixOf f.name).map fun f => .flag f value

def splitValue (t : Text) : Text × Option Text :=
  let name := t.takeWhile (· ≠ CodePoint.ofChar '=')
  (name, if name.length = t.length then none else some (t.drop (name.length + 1)))

def candidates (g : Grammar) (t : Text) : List FlagUse :=
  if t[1]? = some hyphen then
    let (start, value) := splitValue t
    g.usesOfStart start value
  else if t.take 2 = shortHelpName then [.shortHelp (some (t.drop 2))]
  else []

/-- A number below zero, which is no flag: digits of any script with at most one point, and at least
one digit at the end. A line feed may follow. -/
def isNegativeNumber (t : Text) : Bool :=
  match t with
  | c :: rest =>
    let numeral := if rest.getLast? = some (CodePoint.ofChar '\n') then rest.dropLast else rest
    let whole := numeral.takeWhile CodePoint.isDecimal
    c = hyphen &&
      match numeral.drop whole.length with
      | [] => !whole.isEmpty
      | d :: fraction => d = '.' && !fraction.isEmpty && fraction.all CodePoint.isDecimal
  | [] => false

/-- The kind of an argument before the divider. -/
def classify (g : Grammar) (t : Text) : Except Refusal Word :=
  if t.head? ≠ some hyphen then .ok (.operand t)
  else
    match g.useOf? t none with
    | some use => .ok (.flag use t)
    | none =>
      if t.length = 1 then .ok (.operand t)
      else
        let (name, value) := splitValue t
        match value.bind fun _ => g.useOf? name value with
        | some use => .ok (.flag use t)
        | none =>
          match g.candidates t with
          | _ :: _ :: _ => .error .usage
          | [use] => .ok (.flag use t)
          | [] =>
            if isNegativeNumber t || CodePoint.ofChar ' ' ∈ t then .ok (.operand t)
            else .ok (.flag .unknown t)

def classifyAll (g : Grammar) (args : List Text) : Except Refusal (List Word) :=
  match args with
  | [] => .ok []
  | t :: rest =>
    if t = dividerText then .ok (.divider :: rest.map .operand)
    else do .ok ((← g.classify t) :: (← g.classifyAll rest))

end Grammar

/-! ## Operands -/

namespace Word

def isFlag (w : Word) : Bool :=
  match w with
  | .flag .. => true
  | _ => false

def isOperand (w : Word) : Bool :=
  match w with
  | .operand _ => true
  | _ => false

def text (w : Word) : Text :=
  match w with
  | .operand t | .flag _ t => t
  | .divider => dividerText

end Word

/-- How many words are taken as operands, if any number will do. -/
def Arity.count? (a : Arity) (words : List Word) : Option Nat :=
  let divider := (words.takeWhile fun w => !w.isFlag && !w.isOperand).length
  match a with
  | .any => some (words.takeWhile fun w => !w.isFlag).length
  | .atMostOne =>
    let after := words.drop divider
    match after with
    | w :: rest =>
      if w.isOperand then some (divider + 1 + (rest.takeWhile fun w => !w.isFlag && !w.isOperand).length)
      else some divider
    | [] => some divider
  | .command =>
    match words.drop divider with
    | w :: _ => if w.isOperand then some words.length else none
    | [] => none

/-- The operands in the words that were taken; the divider is none of them, unless it belongs to a
command. -/
def Arity.operands (a : Arity) (words : List Word) : List Text :=
  if a = .command then words.map Word.text else (words.map Word.text).erase dividerText

/-! ## All arguments -/

namespace Grammar

/-- Looks for operands at the front of the words, unless that was done before: what was found, and
the words after them. -/
def takeOperands (g : Grammar) (p : Parsed) (words : List Word) : Parsed × List Word :=
  match p.operands, g.arity.count? words with
  | none, some n => ({ p with operands := some (g.arity.operands (words.take n)) }, words.drop n)
  | _, _ => (p, words)

def takeValue (p : Parsed) (f : Flag) (value : Text) : Except Refusal Parsed :=
  if f.choices.all fun cs => value ∈ cs then .ok { p with values := (f.name, value) :: p.values }
  else .error .usage

/-- Answers the short flag that asks for help. The letters behind it count as more flags of one
letter, and as there is no other such flag, they may only ask for help again. -/
def takeShortHelp (g : Grammar) (letters : Option Text) : Refusal :=
  match letters with
  | none => .help g.help
  | some letters =>
    if !letters.isEmpty && letters.all (· = CodePoint.ofChar 'h') then .help g.help else .usage

/-- Takes a flag and, if need be, the word after it. -/
def takeFlag (g : Grammar) (p : Parsed) (use : FlagUse) (t : Text) (words : List Word) :
    Except Refusal (Parsed × List Word) :=
  match use with
  | .shortHelp letters => .error (g.takeShortHelp letters)
  | .longHelp none => .error (.help g.help)
  | .longHelp (some _) => .error .usage
  | .unknown => .ok ({ p with extras := p.extras ++ [t] }, words)
  | .flag f (some value) => do .ok (← takeValue p f value, words)
  | .flag f none =>
    match words with
    | .operand value :: rest => do .ok (← takeValue p f value, rest)
    | _ => .error .usage

/-- Sorts out the words, each step taking one of them at least. -/
def parseWords (g : Grammar) (fuel : Nat) (p : Parsed) (words : List Word) :
    Except Refusal Parsed :=
  match fuel, words with
  | fuel + 1, .flag use t :: rest => do
    let (p, rest) ← g.takeFlag p use t rest
    g.parseWords fuel p rest
  | fuel + 1, w :: rest =>
    let (p', words') := g.takeOperands p (w :: rest)
    if (w :: rest).all (fun w => !w.isFlag) then
      .ok { p' with extras := p'.extras ++ words'.map Word.text }
    else if words'.length < (w :: rest).length then g.parseWords fuel p' words'
    else
      let skipped := (w :: rest).takeWhile fun w => !w.isFlag
      g.parseWords fuel { p' with extras := p'.extras ++ skipped.map Word.text }
        ((w :: rest).drop skipped.length)
  | _, _ => .ok (g.takeOperands p []).1

def parse (g : Grammar) (args : List Text) : Except Refusal Parsed := do
  let words ← g.classifyAll args
  g.parseWords (words.length + 1) ⟨[], none, []⟩ words

end Grammar

def Parsed.value? (p : Parsed) (name : Text) : Option Text := p.values.lookup name

end LocaleGen.CommandLine
