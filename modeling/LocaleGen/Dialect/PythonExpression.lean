import LocaleGen.Dialect.PythonFormat

/-!
# Python expressions

`parse` reads the tokens of a source text as one expression. `Level.next` builds the readers for one
nesting more than those of a level, so `level n` reads what is nested less than `n` deep.

Operators are read in a row. Which of them bind closer does not matter, since an expression with
more than one operator is no literal value; one sign in front of an operand and one addition or
subtraction are.
-/

namespace LocaleGen.Python

/-! ## Literals -/

def quotedRun (ts : List Token) : List Quoted × List Token :=
  match ts with
  | .quoted q :: rest => (q :: (quotedRun rest).1, (quotedRun rest).2)
  | _ => ([], ts)

/-- Whether the escapes of a literal of bytes are valid. -/
def hasByteEscapes (t : Text) : Bool :=
  match t with
  | [] => true
  | c :: rest =>
    if c = '\\' then
      match rest with
      | [] => true
      | d :: rest' =>
        (d ≠ 'x' || (2 ≤ rest'.length && (rest'.take 2).all fun e => e.hexValue?.isSome)) &&
          hasByteEscapes rest'
    else hasByteEscapes rest

def Quoted.isBytes (q : Quoted) : Bool :=
  q.flags.bytes && q.body.all CodePoint.isAscii && (q.flags.raw || hasByteEscapes q.body)

def joined (expression : Reader Expr) (run : List Quoted) : Option Expr :=
  if run.any fun q => q.flags.bytes then if run.all Quoted.isBytes then some .constant else none
  else if run.any fun q => q.flags.format then
    if run.all fun q =>
        if q.flags.format then isFormat expression q.flags.raw q.body else q.text?.isSome
    then some .other
    else none
  else (run.mapM Quoted.text?).map fun texts => .text texts.flatten

namespace Level

variable (l : Level)

/-! ## Operands -/

def atom : Reader Expr := fun ts =>
  match ts with
  | .name t :: rest => some (.name t, rest)
  | .whole n :: rest => some (.whole n, rest)
  | .real :: rest => some (.real, rest)
  | .imaginary :: rest => some (.imaginary, rest)
  | .constant :: rest | .ellipsis :: rest => some (.constant, rest)
  | .quoted _ :: _ => (joined l.expression (quotedRun ts).1).map fun e => (e, (quotedRun ts).2)
  | .open b :: rest => l.display b rest
  | _ => none

/-- The characters that count as each letter of the name `set`, which compatible characters spell
too. -/
def setLetters : List (List Nat) :=
  [[0x73, 0x17F, 0x2E2, 0x209B, 0xFF53, 0x1D42C, 0x1D460, 0x1D494, 0x1D4C8, 0x1D4FC, 0x1D530,
    0x1D564, 0x1D598,
    0x1D5CC, 0x1D600, 0x1D634, 0x1D668, 0x1D69C],
   [0x65, 0x1D49, 0x2091, 0x212F, 0x2147, 0xFF45, 0x1D41E, 0x1D452, 0x1D486, 0x1D4EE, 0x1D522,
     0x1D556, 0x1D58A,
    0x1D5BE, 0x1D5F2, 0x1D626, 0x1D65A, 0x1D68E],
   [0x74, 0x1D57, 0x209C, 0xFF54, 0x1D42D, 0x1D461, 0x1D495, 0x1D4C9, 0x1D4FD, 0x1D531,
     0x1D565, 0x1D599,
    0x1D5CD, 0x1D601, 0x1D635, 0x1D669, 0x1D69D]]

def isSetName (t : Text) : Bool :=
  t.length = setLetters.length && (t.zip setLetters).all fun (c, letters) => c.val ∈ letters

def called (e : Expr) (bare : Bool) : Expr :=
  match e with
  | .name t => if isSetName t && bare then .emptySet else .other
  | _ => .other

/-- The members, subscripts and calls after an operand. -/
def trailers (fuel : Nat) (e : Expr) (ending : Ending) : Reader (Expr × Ending) := fun ts =>
  match fuel with
  | 0 => none
  | fuel + 1 =>
    match ts with
    | .dot :: .name _ :: rest => trailers fuel .other .place rest
    | .open .square :: rest => do
      let (_, rest) ← enclosed l.subscript .square rest
      trailers fuel .other .place rest
    | .open .round :: rest => do
      let after ← l.call rest
      trailers fuel (called e (isNext (.close .round) rest)) .call after
    | _ => some ((e, ending), ts)

def primary : Reader (Expr × Ending) := fun ts => do
  let (e, rest) ← l.atom ts
  l.trailers (rest.length + 1) e .atom rest

/-- An element of a target: a place, a name, or targets in brackets. -/
def targetOf : Reader Unit := fun ts =>
  match l.primary ts with
  | some ((_, .place), rest) => some ((), rest)
  | _ =>
    match ts with
    | .name _ :: rest => some ((), rest)
    | .open .round :: rest => l.enclosedTargets .round rest
    | .open .square :: rest => l.enclosedTargets .square rest
    | _ => none

/-! ## Operators -/

def isSign (t : Token) : Bool := t = .plus || t = .minus || t = .tilde

def isBinary (t : Token) : Bool :=
  t = .plus || t = .minus || t = .star || t = .doubleStar || t = .slash || t = .operator

def withSigns (signs : List Token) (e : Expr) : Expr :=
  match signs with
  | [] => e
  | [.plus] | [.minus] => .signed e
  | _ => .other

def operand : Reader Expr := fun ts =>
  let signs := ts.takeWhile isSign
  match ts.dropWhile isSign with
  | .await :: rest => (l.primary rest).map fun (_, rest) => (.other, rest)
  | rest => (l.primary rest).map fun ((e, _), rest) => (withSigns signs e, rest)

/-- The operators after an operand, each with the operand after it. -/
def operations (fuel : Nat) : Reader (List (Token × Expr)) := fun ts =>
  match fuel with
  | 0 => none
  | fuel + 1 =>
    match ts with
    | [] => some ([], [])
    | t :: rest =>
      if isBinary t then do
        let (e, rest) ← l.operand rest
        let (more, rest) ← operations fuel rest
        some ((t, e) :: more, rest)
      else some ([], ts)

def withOperations (e : Expr) (ops : List (Token × Expr)) : Expr :=
  match ops with
  | [] => e
  | [(.plus, right)] | [(.minus, right)] => .sum e right
  | _ => .other

def arithmeticOf : Reader Expr := fun ts => do
  let (e, rest) ← l.operand ts
  let (ops, rest) ← l.operations (rest.length + 1) rest
  some (withOperations e ops, rest)

/-- What follows a comparison between two operands. -/
def comparison? (ts : List Token) : Option (List Token) :=
  match ts with
  | .comparison :: rest | .in :: rest | .is :: .not :: rest | .is :: rest | .not :: .in :: rest =>
    some rest
  | _ => none

def isConnective (t : Token) : Bool := t = .and || t = .or

/-- What follows comparisons and connectives after an operand, and whether there are any. -/
def relations (fuel : Nat) : Reader Bool := fun ts =>
  match fuel with
  | 0 => none
  | fuel + 1 =>
    match comparison? ts with
    | some rest => do
      let (_, rest) ← l.arithmeticOf rest
      let (_, rest) ← relations fuel rest
      some (true, rest)
    | none =>
      if ts.head?.any isConnective then do
        let (_, rest) ← l.arithmeticOf (ts.tail.dropWhile (· = .not))
        let (_, rest) ← relations fuel rest
        some (true, rest)
      else some (false, ts)

/-- Operands with operators, comparisons, connectives and negations. -/
def disjunctionOf : Reader Expr := fun ts => do
  let (e, rest) ← l.arithmeticOf (ts.dropWhile (· = .not))
  let (more, rest) ← l.relations (rest.length + 1) rest
  some (if more || isNext .not ts then .other else e, rest)

/-! ## Parameters -/

/-- How far the parameters of a lambda have got: whether a slash, a default and a star have come. -/
structure Progress where
  named : Bool := false
  slash : Bool := false
  default : Bool := false
  star : Bool := false

def parameter : Reader Bool := fun ts =>
  match ts with
  | .name _ :: .equals :: rest => (l.expression rest).map fun (_, rest) => (true, rest)
  | .name _ :: rest => some (false, rest)
  | _ => none

def afterParameter (ts : List Token) : Option (List Token) :=
  if isNext .comma ts then some ts.tail else if isNext .colon ts then some ts else none

/-- The parameters of a lambda up to its colon. -/
def parameters (fuel : Nat) (p : Progress) (ts : List Token) : Option (List Token) :=
  match fuel with
  | 0 => none
  | fuel + 1 =>
    match ts with
    | .colon :: _ => some ts
    | .slash :: rest =>
      if p.named && !p.slash && !p.star then do
        parameters fuel { p with slash := true } (← afterParameter rest)
      else none
    | .star :: .comma :: rest =>
      if p.star then none
      else do
        let (_, rest) ← l.parameter rest
        parameters fuel { p with star := true } (← afterParameter rest)
    | .star :: .name _ :: rest =>
      if p.star then none else do parameters fuel { p with star := true } (← afterParameter rest)
    | .doubleStar :: .name _ :: rest => do
      let rest ← afterParameter rest
      if isNext .colon rest then some rest else none
    | _ => do
      let (default, rest) ← l.parameter ts
      if p.default && !default && !p.star then none
      else
        parameters fuel { p with named := true, default := p.default || default }
          (← afterParameter rest)

/-! ## Levels -/

/-- An expression: a lambda, a conditional or neither. -/
def expressionOf : Reader Expr := fun ts =>
  match ts with
  | .lambda :: rest => do
    let rest ← l.parameters (rest.length + 1) {} rest
    let (_, rest) ← l.expression (← expect .colon rest)
    some (.other, rest)
  | _ => do
    let (e, rest) ← l.disjunctionOf ts
    match rest with
    | .if :: rest => do
      let (_, rest) ← l.disjunctionOf rest
      let (_, rest) ← l.expression (← expect .else rest)
      some (.other, rest)
    | _ => some (e, rest)

def next : Level where
  expression := l.expressionOf
  disjunction := l.disjunctionOf
  arithmetic := l.arithmeticOf
  target := l.targetOf

end Level

/-- The readers for what is nested less than `n` deep. -/
def level (n : Nat) : Level :=
  match n with
  | 0 => ⟨fun _ => none, fun _ => none, fun _ => none, fun _ => none⟩
  | n + 1 => (level n).next

/-- The expression that tokens are; several with commas between them are a tuple. -/
def parseTokens (l : Level) (ts : List Token) : Option Expr := do
  let (first, rest) ← l.expression ts
  match rest with
  | [] => some first
  | .comma :: [] => some (.tuple [first])
  | .comma :: rest => do
    let ((es, _), rest) ← separated l.expression List.isEmpty rest.length rest
    if rest = [] then some (.tuple (first :: es)) else none
  | _ => none

def parse (t : Text) : Option Expr := do parseTokens (level (t.length + 1)) (← tokens t)

end LocaleGen.Python
