import LocaleGen.Dialect.PythonLiteral
import LocaleGen.Unicode.Identifier

/-!
# Tokens of Python expressions

`tokens` cuts a source text into the tokens of one expression. Line ends count only outside of
brackets, where the expression has to be over: what follows is blank lines and comments.

A token that no expression holds is kept as `Token.foreign`, so that a text of such tokens is one
that has tokens but is no expression.
-/

namespace LocaleGen.Python

/-! ## Tokens -/

/-- The kinds of brackets. -/
inductive Bracket where
  | round
  | square
  | curly
  deriving DecidableEq, Repr

/-- A token of an expression. -/
inductive Token where
  /-- A word that is no keyword. -/
  | name (t : Text)
  | whole (n : Nat)
  /-- A number with a point or an exponent. -/
  | real
  | imaginary
  /-- A literal of text, of bytes or of a format. -/
  | quoted (q : Quoted)
  | «open» (b : Bracket)
  | close (b : Bracket)
  | comma
  | colon
  | walrus
  | dot
  | ellipsis
  | equals
  | star
  | doubleStar
  | plus
  | minus
  | tilde
  | slash
  /-- Any other operator between two operands. -/
  | operator
  | comparison
  /-- `None`, `True` and `False`. -/
  | constant
  | and
  | or
  | not
  | «in»
  | is
  | «if»
  | «else»
  | «for»
  | async
  | await
  | lambda
  | yield
  | «from»
  | foreign
  deriving DecidableEq

def keywordTokens : List (String × Token) :=
  [("False", .constant), ("None", .constant), ("True", .constant), ("and", .and), ("as", .foreign),
   ("assert", .foreign), ("async", .async), ("await", .await), ("break", .foreign),
     ("class", .foreign),
   ("continue", .foreign), ("def", .foreign), ("del", .foreign), ("elif", .foreign),
     ("else", .else),
   ("except", .foreign), ("finally", .foreign), ("for", .for), ("from", .from),
     ("global", .foreign),
   ("if", .if), ("import", .foreign), ("in", .in), ("is", .is), ("lambda", .lambda),
     ("nonlocal", .foreign),
   ("not", .not), ("or", .or), ("pass", .foreign), ("raise", .foreign), ("return", .foreign),
   ("try", .foreign), ("while", .foreign), ("with", .foreign), ("yield", .yield)]

/-- The operators and delimiters and their tokens, a longer one before the shorter ones that it
starts with. -/
def symbolTokens : List (String × Token) :=
  [("**=", .foreign), ("//=", .foreign), (">>=", .foreign), ("<<=", .foreign), ("...", .ellipsis),
   ("**", .doubleStar), ("//", .operator), (">>", .operator), ("<<", .operator),
     ("!=", .comparison),
   ("==", .comparison), ("<=", .comparison), (">=", .comparison), ("<>", .foreign), (":=", .walrus),
   ("->", .foreign), ("+=", .foreign), ("-=", .foreign), ("*=", .foreign), ("/=", .foreign),
     ("%=", .foreign),
   ("&=", .foreign), ("|=", .foreign), ("^=", .foreign), ("@=", .foreign),
   ("(", .open .round), (")", .close .round), ("[", .open .square), ("]", .close .square),
   (r"{", .open .curly), (r"}", .close .curly), (",", .comma), (":", .colon), (".", .dot),
   ("=", .equals), ("*", .star), ("+", .plus), ("-", .minus), ("~", .tilde), ("/", .slash),
   ("%", .operator), ("&", .operator), ("|", .operator), ("^", .operator), ("@", .operator),
   ("<", .comparison), (">", .comparison), (";", .foreign)]

def readSymbol (t : Text) : Option (Token × Text) :=
  symbolTokens.findSome? fun (symbol, token) => (Text.dropStart? t symbol).map fun rest =>
    (token, rest)

/-! ## Words -/

/-- A character that a word may hold; which words are identifiers is looked at once they are
whole. -/
def isWordPart (c : CodePoint) : Bool :=
  c.isLetter || c.isDigit || c = CodePoint.ofChar '_' || !c.isAscii

def readWord (t : Text) : Option (Token × Text) :=
  let word := t.takeWhile isWordPart
  if Text.isIdentifier word then
    let keyword := keywordTokens.find? fun keyword => Text.ofString keyword.1 = word
    some ((keyword.map Prod.snd).getD (.name word), t.dropWhile isWordPart)
  else none

/-! ## Numbers -/

/-- The digits that go on a number, with single low lines between them, and what follows them. -/
def readDigits (isDigit : CodePoint → Bool) (t : Text) : Option (Text × Text) :=
  match t with
  | [] => some ([], [])
  | c :: rest =>
    if isDigit c then (readDigits isDigit rest).map fun (digits, left) => (c :: digits, left)
    else if c = '_' then
      match rest with
      | [] => none
      | d :: rest' =>
        if isDigit d then
          (readDigits isDigit rest').map fun (digits, left) => (d :: digits, left)
        else none
    else some ([], c :: rest)

/-- Whether a number may end before a text: no word goes on there, save a keyword that can follow an
operand. -/
def endsNumber (t : Text) : Bool :=
  match t with
  | [] => true
  | c :: _ =>
    !isWordPart c ||
      (Text.words ["and", "else", "for", "if", "in", "is", "not", "or"]).any fun word =>
        word.isPrefixOf t

def bases : List (Text × Nat × (CodePoint → Bool)) :=
  [("0x", 16, fun c => c.hexValue?.isSome), ("0o", 8, isOctal),
    ("0b", 2, fun c => c.val = 0x30 || c.val = 0x31)]

def readBased (base : Nat) (isDigit : CodePoint → Bool) (t : Text) : Option (Token × Text) := do
  let t := if t.head? = some (CodePoint.ofChar '_') then t.tail else t
  guard (t.head?.any isDigit)
  let (digits, left) ← readDigits isDigit t
  guard (endsNumber left)
  some (.whole (← Text.ofDigits base <$> digits.mapM CodePoint.hexValue?), left)

/-- What follows the fraction that a text starts with, if it starts with one. -/
def skipFraction (t : Text) : Option (Option Text) :=
  match t with
  | c :: d :: rest =>
    if c = '.' then
      if d.isDigit then (readDigits CodePoint.isDigit rest).map fun (_, left) => some left
      else some (some (d :: rest))
    else some none
  | [c] => some (if c = '.' then some [] else none)
  | [] => some none

/-- What follows the exponent that a text starts with, if it starts with one. A sign needs a
digit. -/
def skipExponent (t : Text) : Option (Option Text) :=
  match t with
  | c :: rest =>
    if c.asciiLower = 'e' then
      let signed :=
        rest.head? = some (CodePoint.ofChar '+') || rest.head? = some (CodePoint.ofChar '-')
      let digits := if signed then rest.tail else rest
      if digits.head?.any CodePoint.isDigit then
        (readDigits CodePoint.isDigit digits).map fun (_, left) => some left
      else if signed then none
      else some none
    else some none
  | [] => some none

def mostDigits : Nat := 4300

/-- The integer with the given decimal digits. Zeros stand in front of zero only. -/
def wholeNumber (digits : Text) : Option Token :=
  let zero := digits.all fun c => c = CodePoint.ofChar '0'
  if zero then some (.whole 0)
  else if digits.head? = some (CodePoint.ofChar '0') || mostDigits < digits.length then none
  else some (.whole (Text.ofDigits 10 (digits.map (·.val - 0x30))))

/-- The number with the given digits in front of what follows them, and what follows it. -/
def finishNumber (digits left : Text) : Option (Token × Text) := do
  let fraction ← skipFraction left
  let afterFraction := fraction.getD left
  let exponent ← skipExponent afterFraction
  let afterExponent := exponent.getD afterFraction
  let (token, left) ←
    match afterExponent with
    | c :: rest =>
      if c.asciiLower = 'j' then some (.imaginary, rest)
      else if fraction.isSome || exponent.isSome then some (.real, afterExponent)
      else (wholeNumber digits).map fun token => (token, afterExponent)
    | [] =>
      if fraction.isSome || exponent.isSome then some (.real, [])
      else (wholeNumber digits).map fun token => (token, [])
  guard (endsNumber left)
  some (token, left)

/-- The number that a text starts with, and what follows it. -/
def readNumber (t : Text) : Option (Token × Text) :=
  match bases.find? fun base => base.1 = (t.take 2).map CodePoint.asciiLower with
  | some (_, base, isDigit) => readBased base isDigit (t.drop 2)
  | none =>
    match t with
    | [] => none
    | c :: rest =>
      if c.isDigit then do
        let (digits, left) ← readDigits CodePoint.isDigit rest
        finishNumber (c :: digits) left
      else finishNumber [] t

/-! ## Whole texts -/

def startsNumber (t : Text) : Bool :=
  match t with
  | [] => false
  | c :: rest => c.isDigit || (c = CodePoint.ofChar '.' && rest.head?.any CodePoint.isDigit)

def readToken (t : Text) : Option (Token × Text) :=
  match readQuoted t with
  | some (q, left) => some (.quoted q, left)
  | none =>
    if startsNumber t then readNumber t
    else if t.head?.any isWordPart then readWord t
    else readSymbol t

def isBlank (c : CodePoint) : Bool := c.val = 0x20 || c.val = 0x09 || c.val = 0x0C

/-- Whether a text is blank lines and comments; `comment` says that it starts in one. -/
def isIdle (comment : Bool) (t : Text) : Bool :=
  match t with
  | [] => true
  | c :: rest =>
    if c = '\n' then isIdle false rest
    else if comment then isIdle true rest
    else if isBlank c then isIdle false rest
    else if c = '#' then isIdle true rest
    else if c = '\\' then
      match rest with
      | [] => false
      | d :: rest' => d = '\n' && !rest'.isEmpty && isIdle false rest'
    else false

def mostBrackets : Nat := 200

def depthAfter (depth : Nat) (token : Token) : Option Nat :=
  match token with
  | .open _ => if depth < mostBrackets then some (depth + 1) else none
  | .close _ => if depth = 0 then none else some (depth - 1)
  | _ => some depth

/-- The tokens of a text with `depth` brackets open in front of it, at most `fuel` pieces being
read. -/
def tokensWithin (fuel depth : Nat) (t : Text) : Option (List Token) :=
  match fuel, t with
  | _, [] => if depth = 0 then some [] else none
  | 0, _ => none
  | fuel + 1, c :: rest =>
    if isBlank c then tokensWithin fuel depth rest
    else if c = '#' then tokensWithin fuel depth (rest.dropWhile fun d => d ≠ CodePoint.ofChar '\n')
    else if c = '\n' then
      if depth = 0 then if isIdle false rest then some [] else none
      else tokensWithin fuel depth rest
    else if c = '\\' then
      match rest with
      | d :: e :: rest' => if d = '\n' then tokensWithin fuel depth (e :: rest') else none
      | _ => none
    else
      match readToken (c :: rest) with
      | none => none
      | some (token, left) => do
        let depth ← depthAfter depth token
        some (token :: (← tokensWithin fuel depth left))

def tokens (t : Text) : Option (List Token) := tokensWithin t.length 0 t

end LocaleGen.Python
