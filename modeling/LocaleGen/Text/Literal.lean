import LocaleGen.Binary64.Basic
import LocaleGen.Text.Numeral
import LocaleGen.Unicode.Basic

/-!
# Number literals

How a text stands for a number. `integer` reads a literal of a base with white space around it, a
sign, the mark of the base, single low lines between digits, and digits of any script. `number?`
reads a decimal numeral with a point and an exponent, or one of the words for infinity and
not-a-number; `looseNumber?` also takes white space around it and digits of any script.
-/

namespace LocaleGen.Text

/-! ## Signs -/

def splitSign (t : Text) : Bool × Text :=
  match t with
  | c :: rest => if c = '-' then (true, rest) else if c = '+' then (false, rest) else (false, t)
  | [] => (false, [])

def signed (negative : Bool) (n : Nat) : Int := if negative then -(n : Int) else n

/-! ## Integers -/

/-- Why a text is no integer literal. -/
inductive IntegerFlaw where
  | malformed
  | tooLong (count : Nat)
  deriving DecidableEq

def digitLimit : Nat := 4300

def digitValue? (c : CodePoint) : Option Nat := c.decimalValue?.or c.hexValue?

def isDigitOf (base : Nat) (c : CodePoint) : Bool := (digitValue? c).any (· < base)

def lowLine : CodePoint := '_'

/-- The characters without the low lines among them, each of which has to stand alone between two
others. -/
def dropLowLines? (t : Text) : Option Text :=
  if t.head? = some lowLine ∨ t.getLast? = some lowLine ∨
    Text.contains t [lowLine, lowLine] then none
  else some (t.filter (· ≠ lowLine))

def baseLetter? (base : Nat) : Option CodePoint :=
  if base = 2 then some 'b' else if base = 8 then some 'o' else if base = 16 then some 'x' else none

def dropBaseMark (base : Nat) (t : Text) : Text :=
  match t with
  | first :: letter :: rest =>
    if first = '0' && baseLetter? base = some letter.asciiLower then
      if rest.head? = some lowLine then rest.tail else rest
    else t
  | _ => t

/-- The integer that a literal of a base stands for. -/
def integer (base : Nat) (t : Text) : Except IntegerFlaw Int :=
  let (negative, literal) := splitSign (t.trim CodePoint.isSpace)
  let (run, rest) := (dropBaseMark base literal).span fun c => isDigitOf base c || c = lowLine
  match dropLowLines? run with
  | none => .error .malformed
  | some digits =>
    if base = 10 && digitLimit < digits.length then .error (.tooLong digits.length)
    else if digits.isEmpty || !rest.isEmpty then .error .malformed
    else .ok (signed negative (ofDigits base (digits.filterMap digitValue?)))

/-! ## Numbers -/

/-- The exponent at the front, zero if there is none, which has to be the whole text. -/
def exponent? (t : Text) : Option Int :=
  match t with
  | [] => some 0
  | c :: rest =>
    if c = 'e' || c = 'E' then
      let (negative, digits) := splitSign rest
      (toNat? digits).map (signed negative)
    else none

/-- The number that a numeral without sign stands for: digits with a point anywhere among them or
none, and an exponent or none. -/
def magnitude? (negative : Bool) (t : Text) : Option Binary64 :=
  let (whole, rest) := t.span CodePoint.isDigit
  let (fraction, rest) :=
    match rest with
    | c :: rest' => if c = '.' then rest'.span CodePoint.isDigit else ([], rest)
    | [] => ([], [])
  match toNat? (whole ++ fraction), exponent? rest with
  | some n, some e => some (.ofScientific negative n (e - fraction.length))
  | _, _ => none

def namedNumber? (word : Text) : Option (Bool → Binary64) :=
  if word = "inf" || word = "infinity" then some .infinite
  else if word = "nan" then some fun _ => .nan
  else none

def number? (t : Text) : Option Binary64 :=
  let (negative, t) := splitSign t
  match namedNumber? (t.map CodePoint.asciiLower) with
  | some make => some (make negative)
  | none => magnitude? negative t

def asciiDigit (c : CodePoint) : CodePoint :=
  match c.decimalValue? with
  | some d => digit d
  | none => c

/-- The number that a numeral or a word stands for, whatever the script of its digits and the white
space around it. -/
def looseNumber? (t : Text) : Option Binary64 := number? ((t.trim CodePoint.isSpace).map asciiDigit)

end LocaleGen.Text
