import LocaleGen.Text.Numeral

/-!
# Tags

What a node is: a text, a number, a sequence and so on. A plain scalar without a tag gets one from
its spelling, `Tag.ofPlain`; a scalar that is spelled like nothing else is a text.
-/

namespace LocaleGen.Yaml

/-- What a node is. -/
inductive Tag where
  | null
  | bool
  | int
  | float
  | text
  | timestamp
  | binary
  | sequence
  | mapping
  | set
  | orderedMapping
  /-- A sequence of mappings with one member each. -/
  | pairs
  | merge
  | value
  | other (name : Text)
  deriving DecidableEq

namespace Tag

/-! ## Names -/

def nameStart : Text := "tag:yaml.org,2002:"

def known : List (String × Tag) :=
  [("null", .null), ("bool", .bool), ("int", .int), ("float", .float), ("str", .text),
   ("timestamp", .timestamp), ("binary", .binary), ("seq", .sequence), ("map", .mapping),
     ("set", .set),
   ("omap", .orderedMapping), ("pairs", .pairs), ("merge", .merge), ("value", .value)]

def named (name : Text) : Tag :=
  match name.dropStart? nameStart with
  | none => .other name
  | some suffix =>
    match known.find? fun k => suffix = Text.ofString k.1 with
    | some k => k.2
    | none => .other name

/-! ## Spellings -/

def dropSign (t : Text) : Text :=
  match t with
  | c :: rest => if c = '-' || c = '+' then rest else t
  | [] => []

def isDigitOrLine (c : CodePoint) : Bool := c.isDigit || c = '_'

def truthWords : List Text :=
  Text.words ["yes", "Yes", "YES", "no", "No", "NO", "true", "True", "TRUE", "false", "False",
    "FALSE", "on",
    "On", "ON", "off", "Off", "OFF"]

def nullWords : List Text := Text.words ["", "~", "null", "Null", "NULL"]

def isRun (p : CodePoint → Bool) (t : Text) : Bool := !t.isEmpty && t.all p

def isDigits (t : Text) : Bool := (t.head?.map CodePoint.isDigit).getD false && t.all isDigitOrLine

def startsPositive (t : Text) : Bool :=
  (t.head?.map fun c => c.isDigit && c ≠ CodePoint.ofChar '0').getD false

def isSixtieth (t : Text) : Bool :=
  match t with
  | [d] => d.isDigit
  | [d, e] => d.isDigit && e.isDigit && d.val < 0x36
  | _ => false

/-- A number of a base below ten or of sixteen, with its mark at the front. -/
def isMarked (mark : Text) (p : CodePoint → Bool) (t : Text) : Bool :=
  match t.dropStart? mark with
  | some rest => isRun (fun c => p c || c = '_') rest
  | none => false

/-- Integers: binary, octal, decimal, hexadecimal, and in places of sixty. -/
def isInt (t : Text) : Bool :=
  let t := dropSign t
  t = Text.ofString "0" || isMarked "0b" (fun c => c = '0' || c = '1') t ||
    isMarked "0" (fun c => c.isDigit && c.val < 0x38) t ||
    isMarked "0x" (fun c => c.hexValue?.isSome) t ||
    startsPositive t &&
      match t.splitOn ':' with
      | first :: more => isDigits first && more.all isSixtieth
      | [] => false

def isExponent (t : Text) : Bool :=
  match t with
  | [] => true
  | e :: sign :: digits =>
    (e = 'e' || e = 'E') && (sign = '-' || sign = '+') && isRun CodePoint.isDigit digits
  | _ => false

def isFraction (needsDigit : Bool) (t : Text) : Bool :=
  match t with
  | [] => false
  | c :: rest =>
    c = '.' && (!needsDigit || (rest.head?.map CodePoint.isDigit).getD false) &&
      isExponent (rest.dropWhile isDigitOrLine)

def isSixtiethsWithFraction (t : Text) : Bool :=
  let whole := t.takeWhile (· ≠ CodePoint.ofChar '.')
  match t.dropWhile (· ≠ CodePoint.ofChar '.'), Text.splitOn whole (':') with
  | _ :: fraction, first :: second :: more =>
    isDigits first && (second :: more).all isSixtieth && fraction.all isDigitOrLine
  | _, _ => false

/-- Numbers with a point, the infinite ones and the one that is none. -/
def isFloat (t : Text) : Bool :=
  let unsigned := dropSign t
  let whole := unsigned.takeWhile isDigitOrLine
  (isDigits whole && isFraction false (unsigned.drop whole.length)) || isFraction true t ||
    isSixtiethsWithFraction unsigned || unsigned ∈ Text.words [".inf", ".Inf", ".INF"] ||
    t ∈ Text.words [".nan", ".NaN", ".NAN"]

def dropLineEnd (t : Text) : Text :=
  if t.length ≠ 1 ∧ t.getLast? = some (CodePoint.ofChar '\n') then t.dropLast else t

/-- The tag that the spelling of a scalar gives it, a line feed at its end aside. -/
def ofPlain (isTimestamp : Text → Bool) (t : Text) : Tag :=
  let t := dropLineEnd t
  if t ∈ truthWords then .bool
  else if t ∈ nullWords then .null
  else if isFloat t then .float
  else if isInt t then .int
  else if t = Text.ofString "<<" then .merge
  else if t = Text.ofString "=" then .value
  else if isTimestamp t then .timestamp
  else .text

end Tag

end LocaleGen.Yaml
