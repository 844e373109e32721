import LocaleGen.Binary64.Basic
import LocaleGen.Text.Literal
import LocaleGen.Text.Utf8
import LocaleGen.Unicode.Case
import LocaleGen.Yaml.Tag
import LocaleGen.Yaml.Timestamp

/-!
# Scalars of YAML

What the content of a scalar means once its tag is known. A tag may stand before any content, so
each of these readers can fail: a number may be none, and the thirtieth of February is no day.
-/

/-! ## Binary scalars

Bytes in base 64. `decode` takes four characters for three bytes and passes over whatever is no
digit; the text has to end with a whole group, filled up with equals signs if need be. -/

namespace LocaleGen.Yaml.Binary

def digitValue? (c : CodePoint) : Option Nat :=
  if 0x41 ≤ c.val && c.val ≤ 0x5A then some (c.val - 0x41)
  else if 0x61 ≤ c.val && c.val ≤ 0x7A then some (c.val - 0x61 + 26)
  else if c.isDigit then some (c.val - 0x30 + 52)
  else if c = '+' then some 62
  else if c = '/' then some 63
  else none

/-- Reads on in the middle of a group: `place` of its digits have been read, the last of them
leaving the number `left`, and `pads` equals signs since then. -/
def decodeFrom (place pads left : Nat) (t : Text) : Option Bytes :=
  match t with
  | [] => if place = 0 then some [] else none
  | c :: rest =>
    if c = '=' then
      if 2 ≤ place then
        if 4 ≤ place + (pads + 1) then some [] else decodeFrom place (pads + 1) left rest
      else decodeFrom place pads left rest
    else
      match digitValue? c with
      | none => decodeFrom place pads left rest
      | some d =>
        match place with
        | 0 => decodeFrom 1 0 d rest
        | 1 => (decodeFrom 2 0 (d % 16) rest).map ((left * 4 + d / 16).toUInt8 :: ·)
        | 2 => (decodeFrom 3 0 (d % 4) rest).map ((left * 16 + d / 4).toUInt8 :: ·)
        | _ => (decodeFrom 0 0 0 rest).map ((left * 64 + d).toUInt8 :: ·)

def decode (t : Text) : Option Bytes := if t.all CodePoint.isAscii then decodeFrom 0 0 0 t else none

end LocaleGen.Yaml.Binary

namespace LocaleGen.Yaml.Scalar

/-- What a literal without low lines and its sign at the front stand for. -/
def splitNumeral (t : Text) : Except Problem (Bool × Text) :=
  match t.filter (· ≠ Text.lowLine) with
  | [] => .error (.meaningless .tooShort)
  | c :: rest => .ok (Text.splitSign (c :: rest))

/-! ## Integers -/

def shownLength : Nat := 200

def readLiteral (base : Nat) (t : Text) : Except Problem Int :=
  match Text.integer base t with
  | .ok i => .ok i
  | .error (.tooLong count) => .error (.meaningless (.tooManyDigits count))
  | .error .malformed =>
    .error (.meaningless (.value
      ("invalid literal for int() with base " ++ Text.ofNat base ++ ": " ++
        t.quoted.take shownLength)))

/-- The number with the given places, each of which counts sixty times the next one. -/
def ofSixtieths (places : List Int) : Int := places.foldl (fun n d => n * 60 + d) 0

/-- The integer that a numeral without its sign stands for: a mark at its front tells the base, and
colons separate places of sixty. -/
def readUnsigned (t : Text) : Except Problem Int :=
  match t.dropStart? "0b", t.dropStart? "0x" with
  | some digits, _ => readLiteral 2 digits
  | none, some digits => readLiteral 16 digits
  | none, none =>
    match t with
    | [] => .error (.meaningless .tooShort)
    | c :: _ =>
      if c = '0' then readLiteral 8 t
      else if CodePoint.ofChar ':' ∈ t then do
        .ok (ofSixtieths (← (t.splitOn ':').mapM (readLiteral 10)))
      else readLiteral 10 t

def readInt (t : Text) : Except Problem Int := do
  let (negative, unsigned) ← splitNumeral t
  let i ← readUnsigned unsigned
  .ok (if negative then -i else i)

/-! ## Numbers with a point -/

def readPart (t : Text) : Except Problem Binary64 :=
  match Text.looseNumber? t with
  | some x => .ok x
  | none => .error (.meaningless (.value ("could not convert string to float: " ++ t.quoted)))

/-- The sum of places, the last one first, of which each counts `factor` and sixty times more than
the one before. -/
def sumSixtieths (factor : Nat) (sum : Binary64) (places : List Binary64) :
    Except Problem Binary64 :=
  match places with
  | [] => .ok sum
  | x :: rest =>
    let weight := Binary64.ofInt factor
    if weight.isFinite then sumSixtieths (factor * 60) (sum.add (x.mul weight)) rest
    else .error (.meaningless (.overflow "int too large to convert to float"))

/-- The number that a numeral stands for. -/
def readFloat (t : Text) : Except Problem Binary64 := do
  let (negative, unsigned) ← splitNumeral (Text.lower (t.filter (· ≠ Text.lowLine)))
  let x ←
    if unsigned = Text.ofString ".inf" then .ok (.infinite false)
    else if unsigned = Text.ofString ".nan" then .ok .nan
    else if CodePoint.ofChar ':' ∈ unsigned then do
      sumSixtieths 1 (.zero false) (← (unsigned.splitOn ':').mapM readPart).reverse
    else readPart unsigned
  .ok (if negative then x.negate else x)

/-! ## Everything else -/

def readBool (t : Text) : Except Problem Bool :=
  let word := t.lower
  if word ∈ Text.words ["yes", "true", "on"] then .ok true
  else if word ∈ Text.words ["no", "false", "off"] then .ok false
  else .error (.meaningless (.key word))

def checkTimestamp (t : Text) : Except Problem Unit :=
  match Timestamp.parse? (Tag.dropLineEnd t) with
  | some stamp => stamp.check.mapError .meaningless
  | none => .error (.meaningless (.noMember "NoneType" "groupdict"))

def readBinary (t : Text) : Except Problem Bytes :=
  match Binary.decode t with
  | some bytes => .ok bytes
  | none => .error (.malformed "failed to decode base64 data" 0 0)

end LocaleGen.Yaml.Scalar
