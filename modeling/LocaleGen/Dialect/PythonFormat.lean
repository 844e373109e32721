import LocaleGen.Dialect.PythonSyntax

/-!
# Formats of Python

A format is a literal with expressions between braces. Its value is no literal value, so `isFormat`
only says whether a body is one: every piece of text has valid escapes, and every expression is one.

A brace that is written twice is text. An expression holds neither backslashes nor comments; after
it may come `=`, a conversion, and a specification, which is a format again and may hold expressions
of its own, whose specifications hold none.
-/

namespace LocaleGen.Python

/-! ## Text between the expressions -/

def isBrace (c : CodePoint) : Bool := c = CodePoint.ofChar '{' || c = CodePoint.ofChar '}'

/-- A piece of text up to a brace, whether the brace is one of two and read with the piece, and what
follows. In a specification no brace is written twice. A character by its name is not read. -/
def formatText (raw nested : Bool) (t : Text) : Option (Text × Bool × Text) :=
  match t with
  | [] => some ([], false, [])
  | c :: rest =>
    let more (piece : Text) (r : Option (Text × Bool × Text)) : Option (Text × Bool × Text) :=
      r.map fun (text, twice, left) => (piece ++ text, twice, left)
    if c = '\\' && !raw then
      match rest with
      | [] => some ([c], false, [])
      | d :: rest' =>
        if d = 'N' then none
        else if isBrace d then more [c] (formatText raw nested (d :: rest'))
        else more [c, d] (formatText raw nested rest')
    else if isBrace c then
      if !nested && rest.head? = some c then some ([c], true, rest.tail)
      else if !nested && c = '}' then none
      else some ([], false, c :: rest)
    else more [c] (formatText raw nested rest)

/-! ## Expressions -/

def opened? (c : CodePoint) : Option Bracket :=
  if c = '(' then some .round
  else if c = '[' then some .square
  else if c = '{' then some .curly
  else none

def closed? (c : CodePoint) : Option Bracket :=
  if c = ')' then some .round
  else if c = ']' then some .square
  else if c = '}' then some .curly
  else none

/-- The source of an expression up to what ends it, which is read with nothing of it; `quote` is the
quote of the literal that the text is in, and `brackets` are open. -/
def formatExpression (fuel : Nat) (quote : Text) (brackets : List Bracket) (t : Text) :
    Option (Text × Text) :=
  match fuel, t with
  | 0, _ | _, [] => none
  | fuel + 1, c :: rest =>
    let go (n : Nat) (quote : Text) (brackets : List Bracket) : Option (Text × Text) :=
      (formatExpression fuel quote brackets (t.drop n)).map fun (e, left) => (t.take n ++ e, left)
    if c = '\\' then none
    else if quote ≠ [] then
      if quote.isPrefixOf t then go quote.length [] brackets else go 1 quote brackets
    else if c = '\'' || c = '"' then
      if [c, c].isPrefixOf rest then go 3 [c, c, c] brackets else go 1 [c] brackets
    else if c = '#' then none
    else
      match opened? c with
      | some b => if brackets.length < mostBrackets then go 1 [] (b :: brackets) else none
      | none =>
        let signs : Text := "!=<>"
        if brackets = [] && c ∈ signs && rest.head? = some (CodePoint.ofChar '=') then go 2 [] []
        else if brackets = [] && (c = '!' || c = ':' || c = '}' || c = '=') then some ([], t)
        else
          match closed? c with
          | some b => if brackets.head? = some b then go 1 [] brackets.tail else none
          | none => go 1 [] brackets

def isFormatExpression (expression : Reader Expr) (t : Text) : Bool :=
  !t.all (fun c => isBlank c || c = CodePoint.ofChar '\n') &&
    match tokens ("(" ++ t ++ ")") with
    | none => false
    | some ts =>
      match expression ts with
      | some (_, []) => true
      | _ => false

/-- What follows `=` and white space, if `=` is next. -/
def skipEcho (t : Text) : Text :=
  match t with
  | [] => []
  | c :: rest =>
    if c = '=' then rest.dropWhile fun d => d.val = 0x20 || (0x09 ≤ d.val && d.val ≤ 0x0D)
    else c :: rest

/-- What follows the conversion, if one is next. -/
def skipConversion (t : Text) : Option Text :=
  match t with
  | [] => some []
  | c :: rest =>
    if c = '!' then
      match rest with
      | [] => none
      | d :: rest' => if d = 's' || d = 'r' || d = 'a' then some rest' else none
    else some (c :: rest)

/-! ## Bodies -/

/-- What follows a body: nothing, or the brace that closes the expression whose specification it is.
At depth two no expression may come. -/
def skipFormat (expression : Reader Expr) (raw : Bool) (fuel depth : Nat) (t : Text) :
    Option Text :=
  match fuel with
  | 0 => none
  | fuel + 1 => do
    let (text, twice, left) ← formatText raw (depth ≠ 0) t
    guard (raw || (Text.unescape readEscape text).isSome)
    if twice then skipFormat expression raw fuel depth left
    else
      match left with
      | [] => some []
      | c :: rest =>
        if c = '}' then some left
        else if 2 ≤ depth then none
        else do
          let (source, left) ← formatExpression (rest.length + 1) [] [] rest
          guard (isFormatExpression expression source)
          let left ← skipConversion (skipEcho left)
          let left ←
            match left with
            | [] => none
            | d :: rest =>
              if d = ':' then
                if rest = [] then none else skipFormat expression raw fuel (depth + 1) rest
              else some left
          match left with
          | [] => none
          | d :: rest => if d = '}' then skipFormat expression raw fuel depth rest else none

def isFormat (expression : Reader Expr) (raw : Bool) (body : Text) : Bool :=
  skipFormat expression raw (body.length + 1) 0 body = some []

end LocaleGen.Python
