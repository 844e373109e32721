import LocaleGen.Dict
import LocaleGen.Json.Value
import LocaleGen.Text.Numeral

/-!
# Reading JSON

`Json.read` decodes one JSON text. Numbers without fraction and exponent are exact integers, `NaN`,
`Infinity` and `-Infinity` are numbers, half pairs of surrogates are kept, and of a repeated name
the last value counts, in the first place.

A malformed text is answered by the first `Problem` and its place. Two limits are no problems of
form: a nesting deeper than `depthLimit`, and an integer with more than `digitLimit` digits.

Every reading function takes the text from where it starts and returns what is left. A problem
records how much was left, from which `read` finds the line and the column. `fuel` bounds the number
of nested calls. No two of them start at the same code point, but for a value and the items, the
members or the scalar that it is, so twice the length of the text is enough.
-/

namespace LocaleGen

/-- How deeply containers can be nested where JSON is read and written and where YAML is read. That
is up to the interpreter and to how deep in calls it is. -/
class NestingLimits where
  reading : Nat
  writing : Nat
  yaml : Nat
  three_le_reading : 3 ≤ reading

/-- For runs: somewhat less than the usual limit of a thousand calls allows. -/
instance : NestingLimits := ⟨950, 950, 485, by decide⟩

namespace Json

/-! ## Problems -/

/-- The ways in which a text fails to be JSON. -/
inductive Problem where
  | expectingValue
  | expectingName
  | expectingColon
  | expectingComma
  | extraData
  | unterminatedString
  | controlCharacter
  | badEscape
  | badUnicodeEscape
  | byteOrderMark
  deriving DecidableEq, Repr

namespace Problem

/-- What is wrong, without the place. -/
def wording (p : Problem) : Text :=
  match p with
  | expectingValue => "Expecting value"
  | expectingName => "Expecting property name enclosed in double quotes"
  | expectingColon => "Expecting ':' delimiter"
  | expectingComma => "Expecting ',' delimiter"
  | extraData => "Extra data"
  | unterminatedString => "Unterminated string starting at"
  | controlCharacter => "Invalid control character at"
  | badEscape => "Invalid \\escape"
  | badUnicodeEscape => "Invalid \\uXXXX escape"
  | byteOrderMark => "Unexpected UTF-8 BOM (decode using utf-8-sig)"

end Problem

/-- A place in a text: the line and the column count from one, the offset from zero. -/
structure Place where
  line : Nat
  column : Nat
  offset : Nat
  deriving DecidableEq, Repr

def Place.after (start : Text) : Place :=
  { line := start.count (CodePoint.ofChar '\n') + 1
    column := (start.reverse.takeWhile (· ≠ CodePoint.ofChar '\n')).length + 1
    offset := start.length }

/-- Why a text has no value. -/
inductive ReadError where
  | malformed (problem : Problem) (place : Place)
  | tooDeep (inList : Bool)
  | tooManyDigits (count : Nat)
  deriving DecidableEq, Repr

def describe (problem : Problem) (place : Place) : Text :=
  problem.wording ++ ": line " ++ Text.ofNat place.line ++ " column " ++ Text.ofNat place.column ++
    " (char " ++ Text.ofNat place.offset ++ ")"

/-- As many containers may be open at a time. -/
def depthLimit [NestingLimits] : Nat := NestingLimits.reading

/-- As many digits may an integer have. -/
def digitLimit : Nat := 4300

/-- A failure inside the text, by how much of the text was left. -/
inductive Stop where
  | malformed (problem : Problem) (left : Nat)
  | tooDeep (inList : Bool)
  | tooManyDigits (count : Nat)

def stop {α : Type} (problem : Problem) (rest : Text) : Except Stop α :=
  .error (.malformed problem rest.length)

/-! ## White space and strings -/

/-- Space, tab, line feed and carriage return. -/
def isSpace (c : CodePoint) : Bool := c = ' ' || c = '\t' || c = '\n' || c = '\r'

def skipSpace (t : Text) : Text := t.dropWhile isSpace

/-- The character that a letter after a backslash stands for. -/
def shortEscape? (c : CodePoint) : Option CodePoint :=
  if c = '"' || c = '\\' || c = '/' then some c
  else if c = 'b' then some '\x08'
  else if c = 'f' then some '\x0c'
  else if c = 'n' then some '\n'
  else if c = 'r' then some '\r'
  else if c = 't' then some '\t'
  else none

/-- The unit written by four hexadecimal digits, which may not be the end of the text. The text
starts after the letter of the escape, which is the place of a problem. -/
def readUnit (t : Text) : Except Stop (Nat × Text) :=
  match t with
  | a :: b :: c :: d :: rest =>
    match rest, Text.hexNat? [a, b, c, d] with
    | _ :: _, some n => .ok (n, rest)
    | _, _ => .error (.malformed .badUnicodeEscape (t.length + 1))
  | _ => .error (.malformed .badUnicodeEscape (t.length + 1))

def joinPair (high low : Nat) : CodePoint :=
  .ofNat (0x10000 + (high - 0xD800) * 0x400 + (low - 0xDC00))

/-- The rest of a Unicode escape: two units that form a pair are one code point. A second escape is
looked at only if the text does not end with it. -/
def readUnicodeEscape (t : Text) : Except Stop (CodePoint × Text) := do
  let (high, rest) ← readUnit t
  if (CodePoint.ofNat high).isHighSurrogate && !(rest.drop 6).isEmpty then
    match rest with
    | c :: d :: rest' =>
      if c = '\\' && d = 'u' then
        let (low, rest'') ← readUnit rest'
        if (CodePoint.ofNat low).isLowSurrogate then .ok (joinPair high low, rest'')
        else .ok (.ofNat high, rest)
      else .ok (.ofNat high, rest)
    | _ => .ok (.ofNat high, rest)
  else .ok (.ofNat high, rest)

/-- The rest of a string, where `opened` is the text from its opening quote on. -/
def readString (fuel : Nat) (opened t : Text) : Except Stop (Text × Text) :=
  match fuel with
  | 0 => stop .unterminatedString opened
  | fuel + 1 =>
    match t with
    | [] => stop .unterminatedString opened
    | c :: rest =>
      if c = '"' then .ok ([], rest)
      else if c = '\\' then
        match rest with
        | [] => stop .unterminatedString opened
        | d :: rest' =>
          if d = 'u' then do
            let (e, rest'') ← readUnicodeEscape rest'
            let (s, left) ← readString fuel opened rest''
            .ok (e :: s, left)
          else
            match shortEscape? d with
            | none => stop .badEscape t
            | some e => do
              let (s, left) ← readString fuel opened rest'
              .ok (e :: s, left)
      else if c.val < 0x20 then stop .controlCharacter t
      else do
        let (s, left) ← readString fuel opened rest
        .ok (c :: s, left)

/-! ## Numbers -/

def spanDigits (t : Text) : Text × Text := t.span CodePoint.isDigit

/-- The digits after a point, if there are any. -/
def readFraction (t : Text) : Option (Text × Text) :=
  match t with
  | c :: rest =>
    if c = '.' then
      let (ds, rest') := spanDigits rest
      if ds.isEmpty then none else some (ds, rest')
    else none
  | [] => none

/-- The exponent after its letter, if it has digits. -/
def readExponent (t : Text) : Option (Int × Text) :=
  match t with
  | c :: rest =>
    if c = 'e' || c = 'E' then
      let (negative, rest) :=
        match rest with
        | s :: rest' =>
          if s = '-' then (true, rest') else if s = '+' then (false, rest') else (false, rest)
        | [] => (false, rest)
      let (ds, rest') := spanDigits rest
      match Text.toNat? ds with
      | some n => some (if negative then -(n : Int) else n, rest')
      | none => none
    else none
  | [] => none

/-- The whole part of a number: one zero, or digits that do not start with one. -/
def readWhole (t : Text) : Option (Text × Text) :=
  match t with
  | c :: rest =>
    if c = '0' then some ([c], rest) else if c.isDigit then some (spanDigits t) else none
  | [] => none

/-- A number without its sign: the longest beginning that is one. `start` is where the number
starts. -/
def readMagnitude (negative : Bool) (start t : Text) : Except Stop (Json × Text) :=
  match readWhole t with
  | none => stop .expectingValue start
  | some (whole, rest) =>
    let (fraction, rest) := (readFraction rest).getD ([], rest)
    let (exponent, rest, scientific) :=
      match readExponent rest with
      | some (e, rest') => (e, rest', true)
      | none => ((0 : Int), rest, false)
    if fraction.isEmpty && !scientific then
      if digitLimit < whole.length then .error (.tooManyDigits whole.length)
      else
        let n := (Text.toNat? whole).getD 0
        .ok (.int (if negative then -(n : Int) else n), rest)
    else
      let n := (Text.toNat? (whole ++ fraction)).getD 0
      .ok (.float (.ofScientific negative n (exponent - fraction.length)), rest)

/-! ## Values -/

def constants : List (Text × Json) :=
  [("null", .null), ("true", .bool true), ("false", .bool false), ("NaN", .float .nan),
   ("Infinity", .float (.infinite false)), ("-Infinity", .float (.infinite true))]

def readConstant (t : Text) (words : List (Text × Json)) : Option (Json × Text) :=
  match words with
  | [] => none
  | (word, v) :: rest =>
    match t.dropStart? word with
    | some left => some (v, left)
    | none => readConstant t rest

/-- A value that is no container. -/
def readScalar (fuel : Nat) (t : Text) : Except Stop (Json × Text) :=
  match t with
  | [] => stop .expectingValue t
  | c :: rest =>
    if c = '"' then do
      let (s, left) ← readString fuel t rest
      .ok (.text s, left)
    else
      match readConstant t constants with
      | some found => .ok found
      | none => if c = '-' then readMagnitude true t rest else readMagnitude false t t

/-- A member name and its colon; the rest starts with the value. -/
def readName (fuel : Nat) (t : Text) : Except Stop (Text × Text) :=
  match t with
  | c :: rest =>
    if c = '"' then do
      let (name, left) ← readString fuel t rest
      match skipSpace left with
      | d :: left' =>
        if d = ':' then .ok (name, skipSpace left') else stop .expectingColon (d :: left')
      | [] => stop .expectingColon []
    else stop .expectingName t
  | [] => stop .expectingName t

mutual

/-- A value with at most `depth` containers open inside one another. -/
def readValue (fuel depth : Nat) (t : Text) : Except Stop (Json × Text) :=
  match fuel with
  | 0 => stop .expectingValue t
  | fuel + 1 =>
    match t with
    | [] => stop .expectingValue t
    | c :: rest =>
      if c = '[' then
        match depth with
        | 0 => .error (.tooDeep true)
        | depth + 1 =>
          match skipSpace rest with
          | [] => stop .expectingValue []
          | d :: rest' =>
            if d = ']' then .ok (.list [], rest')
            else do
              let (items, left) ← readItems fuel depth (d :: rest')
              .ok (.list items, left)
      else if c = '{' then
        match depth with
        | 0 => .error (.tooDeep false)
        | depth + 1 =>
          match skipSpace rest with
          | [] => stop .expectingName []
          | d :: rest' =>
            if d = '}' then .ok (.object [], rest')
            else do
              let (members, left) ← readMembers fuel depth (d :: rest')
              .ok (.object (Dict.ofList members).entries, left)
      else readScalar fuel t

/-- The items of a list and its closing bracket. -/
def readItems (fuel depth : Nat) (t : Text) : Except Stop ((List Json) × Text) :=
  match fuel with
  | 0 => stop .expectingValue t
  | fuel + 1 => do
    let (v, left) ← readValue fuel depth t
    match skipSpace left with
    | d :: rest =>
      if d = ']' then .ok ([v], rest)
      else if d = ',' then do
        let (vs, left) ← readItems fuel depth (skipSpace rest)
        .ok (v :: vs, left)
      else stop .expectingComma (d :: rest)
    | [] => stop .expectingComma []

/-- The members of an object, in the order of the text, and its closing brace. -/
def readMembers (fuel depth : Nat) (t : Text) : Except Stop ((List (Text × Json)) × Text) :=
  match fuel with
  | 0 => stop .expectingName t
  | fuel + 1 => do
    let (name, left) ← readName fuel t
    let (v, left) ← readValue fuel depth left
    match skipSpace left with
    | d :: rest =>
      if d = '}' then .ok ([(name, v)], rest)
      else if d = ',' then do
        let (ms, left) ← readMembers fuel depth (skipSpace rest)
        .ok ((name, v) :: ms, left)
      else stop .expectingComma (d :: rest)
    | [] => stop .expectingComma []

end

variable [NestingLimits]

def readWhite (t : Text) : Except Stop Json := do
  let (v, left) ← readValue (2 * t.length + 2) depthLimit (skipSpace t)
  match skipSpace left with
  | [] => .ok v
  | rest => stop .extraData rest

/-- The value that a JSON text stands for. -/
def read (t : Text) : Except ReadError Json :=
  if t.head? = some '\uFEFF' then .error (.malformed .byteOrderMark (Place.after []))
  else
    match readWhite t with
    | .ok v => .ok v
    | .error (.malformed problem left) =>
      .error (.malformed problem (Place.after (t.take (t.length - left))))
    | .error (.tooDeep inList) => .error (.tooDeep inList)
    | .error (.tooManyDigits count) => .error (.tooManyDigits count)

end Json

end LocaleGen
