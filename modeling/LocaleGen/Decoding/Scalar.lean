import LocaleGen.Finding
import LocaleGen.Json.Value
import LocaleGen.Text.Literal

/-!
# Lenient scalars

Structured data may give a number or a truth value in another form than the one that is asked for.
Each function here takes all the forms that mean the value without loss and names the issue with any
other:

* `integer`: truth values, whole numbers, and numerals with a sign, zeros at the front, digits
  grouped by low lines, and a fraction of zeros;
* `truth`: zero and one, and the usual words for yes and no;
* `number`: truth values, integers, and numerals of any notation, infinity and not-a-number
  included;
* `text`: texts alone.

White space around a numeral does not count.
-/

namespace LocaleGen.Decoding

def encodable (t : Text) : Except Issue Text :=
  if t.any CodePoint.isSurrogate then .error .unencodable else .ok t

def trimmed (t : Text) : Text := t.trim CodePoint.isSpace

/-! ## Integers -/

/-- A numeral without the zeros at its front and the low lines among them. A zero stays if nothing
else is left before the point or the end. -/
def dropZeros? (t : Text) : Option Text :=
  match t with
  | [] => none
  | first :: rest =>
    if first = '0' then
      let zeros := rest.takeWhile fun (c : CodePoint) => c = '0' || c = '_'
      let last := zeros.getLast?.getD first
      match rest.drop zeros.length with
      | [] => some [last]
      | c :: left =>
        if c = '.' then some (last :: c :: left)
        else if c.isDigit || c = '-' then some (c :: left)
        else none
    else if first.isDigit then some t
    else none

def dropFraction (t : Text) : Text :=
  let (whole, fraction) := t.span (· ≠ CodePoint.ofChar '.')
  match fraction with
  | _ :: zero :: zeros => if (zero :: zeros).all (· = CodePoint.ofChar '0') then whole else t
  | _ => t

/-- The integer that digits stand for, the first of which is zero only if it stands alone. A minus
sign may stand before them. -/
def integerOfDigits? (t : Text) : Option Int :=
  let (negative, digits) :=
    match t with
    | c :: rest => if c = '-' then (true, rest) else (false, t)
    | [] => (false, [])
  if (digits.head? = some (CodePoint.ofChar '0') && digits.length ≠ 1) ||
    Text.digitLimit < t.length then none
  else (Text.toNat? digits).map (Text.signed negative)

def integerOfText? (t : Text) : Option Int := do
  let t := trimmed t
  let (negative, unsigned) := Text.splitSign t
  let digits ← Text.dropLowLines? (dropFraction (← dropZeros? unsigned))
  integerOfDigits? (if negative then '-' :: digits else digits)

def leadingInteger (t : Text) : Text :=
  let (sign, rest) := t.splitAt (if t.head? = some (CodePoint.ofChar '-') then 1 else 0)
  if rest.head? = some (CodePoint.ofChar '0') then sign
  else sign ++ rest.takeWhile CodePoint.isDigit

def integerOfFloat (x : Binary64) : Except Issue Int :=
  if !x.isFinite then .error .notFinite
  else
    match x.toInt? with
    | none => .error .fractional
    | some i => if i.natAbs < 0x8000000000000000 then .ok i else .error .oversizedInteger

/-- The integer that a value means. -/
def integer (v : Json) : Except Issue Int :=
  match v with
  | .bool b => .ok (if b then 1 else 0)
  | .int i => .ok i
  | .float x => integerOfFloat x
  | .text t => do
    let t ← encodable t
    if Text.digitLimit < (leadingInteger t).length then .error .oversizedInteger
    else
      match integerOfText? t with
      | some i => .ok i
      | none => .error .unreadableInteger
  | _ => .error .notInteger

/-! ## Truth values -/

def falseWords : List Text := Text.words ["0", "off", "f", "false", "n", "no"]

def trueWords : List Text := Text.words ["1", "on", "t", "true", "y", "yes"]

/-- The truth value that a word stands for, in any case of its letters. -/
def truthOfText (t : Text) : Except Issue Bool :=
  let word := t.map CodePoint.asciiLower
  if word ∈ falseWords then .ok false
  else if word ∈ trueWords then .ok true
  else .error .unreadableTruth

def truthOfInt (i : Int) : Except Issue Bool :=
  if i = 0 then .ok false else if i = 1 then .ok true else .error .unreadableTruth

/-- The truth value that a value means. -/
def truth (v : Json) : Except Issue Bool :=
  match v with
  | .bool b => .ok b
  | .int i =>
    if -0x8000000000000000 ≤ i && i < 0x8000000000000000 then truthOfInt i else .error .notTruth
  | .float x =>
    match integerOfFloat x with
    | .ok i => truthOfInt i
    | .error _ => .error .notTruth
  | .text t => do truthOfText (← encodable t)
  | _ => .error .notTruth

/-! ## Numbers -/

/-- The number that a numeral stands for. White space around it does not count; if there is none,
low lines among its characters do not count either. -/
def numberOfText? (t : Text) : Option Binary64 :=
  match Text.number? (trimmed t) with
  | some x => some x
  | none => (Text.dropLowLines? t).bind Text.number?

/-- The number that a value means. -/
def number (v : Json) : Except Issue Binary64 :=
  match v with
  | .bool b => .ok (.ofInt (if b then 1 else 0))
  | .int i => if (Binary64.ofInt i).isFinite then .ok (.ofInt i) else .error .notNumber
  | .float x => .ok x
  | .text t => do
    match numberOfText? (← encodable t) with
    | some x => .ok x
    | none => .error .unreadableNumber
  | _ => .error .notNumber

/-! ## Texts -/

def text (v : Json) : Except Issue Text :=
  match v with
  | .text t => .ok t
  | _ => .error .notText

def optionalText (v : Json) : Except Issue (Option Text) :=
  match v with
  | .null => .ok none
  | v => (text v).map some

end LocaleGen.Decoding
