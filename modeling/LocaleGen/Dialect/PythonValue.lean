import LocaleGen.Dialect.PythonExpression

/-!
# Literal values of Python

`literalValue` gives the value of a source text that is a literal, or a display of literals. Values
are made from left to right, and a member of a set or a key of a dictionary has to be hashable when
it gets there. So a text that is no literal value is not always refused as such: what is in front of
the fault may have no value for a reason of its own.

The stacks that reading and evaluating use are taken to be large enough.
-/

namespace LocaleGen.Python

/-! ## Values -/

/-- What cannot be hashed. -/
inductive Container where
  | list
  | set
  | dict
  deriving DecidableEq

def Container.name (c : Container) : Text :=
  match c with
  | list => "list"
  | set => "set"
  | dict => "dict"

/-- A value, as far as it matters what it is. -/
inductive Value where
  | text (t : Text)
  | other (unhashable : Option Container)
  deriving DecidableEq

def Value.unhashable (v : Value) : Option Container :=
  match v with
  | text _ => none
  | other c => c

/-- Why a value cannot be made of values that are there. -/
inductive Obstacle where
  /-- A member of a set or a key of a dictionary cannot be hashed. -/
  | unhashable (c : Container)
  | tooLarge
  deriving DecidableEq

/-- Why an expression has no value. -/
inductive Refusal where
  | malformed
  | obstacle (o : Obstacle)
  deriving DecidableEq

/-! ## Numbers -/

/-- The least integer that no floating number is near enough to. -/
def floatBound : Nat := Nat.pow 2 1024 - Nat.pow 2 970

/-- The kinds of numbers, with the size of an integer. -/
inductive Number where
  | whole (n : Nat)
  | real
  | imaginary

def number? (e : Expr) : Option Number :=
  match e with
  | .whole n => some (.whole n)
  | .real => some .real
  | .imaginary => some .imaginary
  | _ => none

def signedNumber? (e : Expr) : Option Number :=
  match e with
  | .signed e => number? e
  | e => number? e

def sumValue (left right : Expr) : Except Refusal Value :=
  match signedNumber? left, number? right with
  | some (.whole n), some .imaginary =>
    if floatBound ≤ n then .error (.obstacle .tooLarge) else .ok (.other none)
  | some .real, some .imaginary => .ok (.other none)
  | _, _ => .error .malformed

/-! ## Evaluation -/

def hashed (v : Value) : Except Refusal Unit :=
  match v.unhashable with
  | none => .ok ()
  | some c => .error (.obstacle (.unhashable c))

mutual

/-- The value of an expression. -/
def value (e : Expr) : Except Refusal Value :=
  match e with
  | .text t => .ok (.text t)
  | .whole _ | .real | .imaginary | .constant => .ok (.other none)
  | .tuple es => do .ok (.other ((← values es).findSome? Value.unhashable))
  | .list es => do
    let _ ← values es
    .ok (.other (some .list))
  | .set es => do
    members es
    .ok (.other (some .set))
  | .dict entries => do
    pairs entries
    .ok (.other (some .dict))
  | .emptySet => .ok (.other (some .set))
  | .signed e => if (number? e).isSome then .ok (.other none) else .error .malformed
  | .sum left right => sumValue left right
  | .name _ | .other => .error .malformed

def values (es : List Expr) : Except Refusal (List Value) :=
  match es with
  | [] => .ok []
  | e :: rest => do
    let v ← value e
    .ok (v :: (← values rest))

def members (es : List Expr) : Except Refusal Unit :=
  match es with
  | [] => .ok ()
  | e :: rest => do
    hashed (← value e)
    members rest

/-- The entries of a dictionary. -/
def pairs (entries : List (Expr × Expr)) : Except Refusal Unit :=
  match entries with
  | [] => .ok ()
  | (key, v) :: rest => do
    let key ← value key
    let _ ← value v
    hashed key
    pairs rest

end

def literalValue (source : Text) : Except Refusal Value :=
  if isSource source then
    match parse source.normalizeNewlines with
    | some e => value e
    | none => .error .malformed
  else .error .malformed

end LocaleGen.Python
