import LocaleGen.Dialect.PythonToken

/-!
# Displays, calls and subscripts of Python

An `Expr` keeps of an expression what can be part of a literal value: numbers, texts, displays,
signs and sums. Any other expression is read, since the whole text has to be an expression, and then
is `Expr.other`.

Brackets hold expressions again. A `Level` has one reader for each kind of expression; the functions
here read what stands in brackets by the readers of a level.
-/

namespace LocaleGen.Python

/-! ## Expressions -/

/-- An expression, as far as it can be part of a literal value. -/
inductive Expr where
  | text (t : Text)
  | whole (n : Nat)
  | real
  | imaginary
  | constant
  | name (t : Text)
  | tuple (es : List Expr)
  | list (es : List Expr)
  | set (es : List Expr)
  | dict (entries : List (Expr × Expr))
  | emptySet
  | signed (e : Expr)
  | sum (left right : Expr)
  | other

abbrev Reader (α : Type) := List Token → Option (α × List Token)

/-- How an operand ends; one that ends as a place can be assigned to. -/
inductive Ending where
  | atom
  | place
  | call
  deriving DecidableEq

/-- The readers for one depth of nesting. -/
structure Level where
  expression : Reader Expr
  disjunction : Reader Expr
  arithmetic : Reader Expr
  target : Reader Unit

/-! ## Lists -/

/-- One or more items with commas between them, and whether a comma is there; one may stand at the
end, which is where `stop` holds. -/
def separated {α : Type} (item : Reader α) (stop : List Token → Bool) (fuel : Nat) :
    Reader (List α × Bool) :=
  fun ts =>
    match fuel with
    | 0 => none
    | fuel + 1 => do
      let (x, rest) ← item ts
      match rest with
      | .comma :: rest =>
        if stop rest then some (([x], true), rest)
        else do
          let ((xs, _), rest) ← separated item stop fuel rest
          some ((x :: xs, true), rest)
      | _ => some (([x], false), rest)

def expect (token : Token) (ts : List Token) : Option (List Token) :=
  match ts with
  | [] => none
  | t :: rest => if t = token then some rest else none

def isNext (token : Token) (ts : List Token) : Bool := ts.head? = some token

def enclosed {α : Type} (item : Reader α) (b : Bracket) : Reader (List α × Bool) := fun ts => do
  let (items, rest) ← separated item (isNext (.close b)) ts.length ts
  some (items, ← expect (.close b) rest)

def following {α : Type} (item : Reader α) (b : Bracket) : Reader (List α × Bool) := fun ts =>
  match ts with
  | .comma :: rest =>
    if isNext (.close b) rest then some (([], true), rest.tail)
    else (enclosed item b rest).map fun ((items, _), rest) => ((items, true), rest)
  | _ => (expect (.close b) ts).map fun rest => (([], false), rest)

namespace Level

variable (l : Level)

/-! ## Targets and loops -/

def starTarget : Reader Unit := fun ts =>
  match ts with
  | .star :: .star :: _ => none
  | .star :: rest => l.target rest
  | _ => l.target ts

/-- The targets in brackets; round ones without a comma hold one without a star. -/
def enclosedTargets (b : Bracket) : Reader Unit := fun ts =>
  if isNext (.close b) ts then some ((), ts.tail)
  else do
    let ((_, comma), rest) ← enclosed l.starTarget b ts
    if b = .round && !comma && isNext .star ts then none else some ((), rest)

/-- What follows the word `for`: the targets, what they range over, and conditions. -/
def loop : Reader Unit := fun ts => do
  let (_, rest) ← separated l.starTarget (isNext .in) ts.length ts
  let (_, rest) ← l.disjunction (← expect .in rest)
  some ((), rest)

/-- The loops and conditions of a comprehension. -/
def clauses (fuel : Nat) : Reader Unit := fun ts =>
  match fuel with
  | 0 => none
  | fuel + 1 =>
    match ts with
    | .async :: .for :: rest | .for :: rest => do
      let (_, rest) ← l.loop rest
      clauses fuel rest
    | .if :: rest => do
      let (_, rest) ← l.disjunction rest
      clauses fuel rest
    | _ => some ((), ts)

def startsLoop (ts : List Token) : Bool :=
  isNext .for ts || (isNext .async ts && isNext .for ts.tail)

def comprehension (b : Bracket) : Reader Expr := fun ts => do
  let (_, rest) ← l.clauses ts.length ts
  some (.other, ← expect (.close b) rest)

/-! ## Displays -/

def named : Reader Expr := fun ts =>
  match ts with
  | .name _ :: .walrus :: rest => (l.expression rest).map fun (_, rest) => (.other, rest)
  | _ => do
    let (e, rest) ← l.expression ts
    if isNext .walrus rest then none else some (e, rest)

def element : Reader Expr := fun ts =>
  match ts with
  | .star :: rest => (l.arithmetic rest).map fun (_, rest) => (.other, rest)
  | _ => l.named ts

def entryValue : Reader Expr := fun ts => do l.expression (← expect .colon ts)

/-- An entry of a dictionary. A dictionary that is taken over counts as an entry whose key has no
value. -/
def entry : Reader (Expr × Expr) := fun ts =>
  match ts with
  | .doubleStar :: rest => (l.arithmetic rest).map fun (_, rest) => ((.other, .other), rest)
  | _ => do
    let (key, rest) ← l.expression ts
    let (value, rest) ← l.entryValue rest
    some ((key, value), rest)

/-- What may be yielded: nothing, expressions, or those of another generator. -/
def yielded : Reader Expr := fun ts =>
  match ts with
  | .close .round :: rest => some (.other, rest)
  | .from :: rest => do
    let (_, rest) ← l.expression rest
    some (.other, ← expect (.close .round) rest)
  | _ => do
    let item : Reader Expr := fun ts =>
      match ts with
      | .star :: rest => l.arithmetic rest
      | _ => l.expression ts
    let (_, rest) ← enclosed item .round ts
    some (.other, rest)

def displayOf (b : Bracket) (es : List Expr) : Expr :=
  match b with
  | .round => .tuple es
  | .square => .list es
  | .curly => .set es

def dictionary (first : Expr × Expr) : Reader Expr := fun ts => do
  let ((entries, _), rest) ← following l.entry .curly ts
  some (.dict (first :: entries), rest)

/-- Whether the first element of a display has neither a star nor a name. -/
def isPlain (ts : List Token) : Bool := !isNext .star ts && !isNext .walrus ts.tail

/-- Elements after their opening bracket. Round brackets around one expression without a comma only
group. -/
def elements (b : Bracket) : Reader Expr := fun ts => do
  let (first, rest) ← l.element ts
  if startsLoop rest then if isNext .star ts then none else l.comprehension b rest
  else if b = .curly && isNext .colon rest && isPlain ts then
    let (value, rest) ← l.entryValue rest
    if startsLoop rest then l.comprehension b rest else l.dictionary (first, value) rest
  else
    let ((es, comma), rest) ← following l.element b rest
    if b = .round && !comma then if isNext .star ts then none else some (first, rest)
    else some (displayOf b (first :: es), rest)

def display (b : Bracket) : Reader Expr := fun ts =>
  if isNext (.close b) ts then some (if b = .curly then .dict [] else displayOf b [], ts.tail)
  else if isNext .yield ts && b = .round then l.yielded ts.tail
  else if isNext .doubleStar ts && b = .curly then do
    let (first, rest) ← l.entry ts
    l.dictionary first rest
  else l.elements b ts

/-! ## Calls and subscripts -/

/-- How far the arguments of a call have got. -/
inductive Stage where
  | positional
  | keyword
  | doubleStar
  deriving DecidableEq

/-- One argument of a call, and how far the arguments have got with it. -/
def argument (stage : Stage) : Reader Stage := fun ts =>
  match ts with
  | .star :: rest =>
    if stage = .doubleStar then none else (l.expression rest).map fun (_, rest) => (stage, rest)
  | .doubleStar :: rest => (l.expression rest).map fun (_, rest) => (.doubleStar, rest)
  | .name _ :: .equals :: rest =>
    (l.expression rest).map fun (_, rest) => (if stage = .positional then .keyword else stage, rest)
  | _ =>
    if stage = .positional then (l.named ts).map fun (_, rest) => (stage, rest) else none

/-- The arguments of a call up to its end. -/
def arguments (fuel : Nat) (stage : Stage) (ts : List Token) : Option (List Token) :=
  match fuel with
  | 0 => none
  | fuel + 1 =>
    if isNext (.close .round) ts then some ts.tail
    else do
      let (stage, rest) ← l.argument stage ts
      match rest with
      | .comma :: rest => arguments fuel stage rest
      | _ => expect (.close .round) rest

/-- What stands in the brackets of a call: arguments, or one comprehension. -/
def call (ts : List Token) : Option (List Token) :=
  if isNext (.close .round) ts then some ts.tail
  else do
    let (stage, rest) ← l.argument .positional ts
    if startsLoop rest then
      if stage = .positional && !isNext .star ts then (l.comprehension .round rest).map Prod.snd
      else none
    else
      match rest with
      | .comma :: rest => l.arguments ts.length stage rest
      | _ => expect (.close .round) rest

def bound (ts : List Token) : Option (List Token) :=
  if isNext .comma ts || isNext .colon ts || isNext (.close .square) ts then some ts
  else (l.expression ts).map Prod.snd

def slice (ts : List Token) : Option (List Token) := do
  let rest ← l.bound (← expect .colon ts)
  match rest with
  | .colon :: rest => l.bound rest
  | _ => some rest

def subscript : Reader Unit := fun ts =>
  match ts with
  | .star :: rest => (l.expression rest).map fun (_, rest) => ((), rest)
  | .colon :: _ => (l.slice ts).map fun rest => ((), rest)
  | .name _ :: .walrus :: rest => (l.expression rest).map fun (_, rest) => ((), rest)
  | _ => do
    let (_, rest) ← l.expression ts
    if isNext .colon rest then (l.slice rest).map fun rest => ((), rest)
    else if isNext .walrus rest then none
    else some ((), rest)

end Level

end LocaleGen.Python
