import LocaleGen.Text.Utf8

/-!
# Characters by escapes

Two encodings in ASCII that write other characters by escapes: `unescape` reads a backslash and the
number of the character, `unshift` reads runs of base 64 behind a plus sign, which hold units of 16
bits. A faulty run gives `none`.
-/

namespace LocaleGen.Charset

/-! ## Backslashes -/

def letterEscapes : List (Char × Nat) :=
  [('\\', 0x5C), ('\'', 0x27), ('"', 0x22), ('b', 8), ('f', 12), ('t', 9), ('n', 10),
    ('r', 13), ('v', 11),
    ('a', 7)]

/-- How many digits follow the letter of an escape by number. -/
def digitCount? (numbersOnly : Bool) (c : CodePoint) : Option Nat :=
  if c = 'u' then some 4
  else if c = 'U' then some 8
  else if c = 'x' && !numbersOnly then some 2
  else none

def takeDigits (isDigit : CodePoint → Bool) (count : Nat) (t : Text) : Text × Text :=
  let digits := (t.take count).takeWhile isDigit
  (digits, t.drop digits.length)

/-- The character of an escape by number, and what follows it; the rest is shorter than the text by
the letter. -/
def readNumber (count : Nat) (t : Text) : Option CodePoint × Text :=
  let (digits, rest) := takeDigits (fun c => c.hexValue?.isSome) count t
  let n := (Text.hexNat? digits).getD 0
  if digits.length = count && n < 0x110000 then (some (.ofNat n), rest) else (none, rest)

/-- What a name between braces stands for is not known, so it is faulty. -/
def skipName (t : Text) : Text :=
  match t with
  | [] => []
  | c :: rest => if c = '{' then (rest.dropWhile (· ≠ CodePoint.ofChar '}')).drop 1 else c :: rest

/-- What a backslash stands for, by what follows it, and the rest. With `numbersOnly` only the
escapes by four and eight digits count. -/
def readEscape (numbersOnly : Bool) (t : Text) : List (Option CodePoint) × Text :=
  match t with
  | [] => ([if numbersOnly then some '\\' else none], [])
  | c :: rest =>
    match digitCount? numbersOnly c with
    | some count =>
      let (number, rest) := readNumber count rest
      ([number], rest)
    | none =>
      if numbersOnly then ([some '\\', some c], rest)
      else if c = '\n' then ([], rest)
      else if c = 'N' then ([none], skipName rest)
      else
        let (octal, rest') := takeDigits (fun d => 0x30 ≤ d.val && d.val ≤ 0x37) 3 t
        if !octal.isEmpty then ([some (.ofNat (Text.ofDigits 8 (octal.map (·.val - 0x30))))], rest')
        else
          match letterEscapes.find? fun e => c = e.1 with
          | some e => ([some (.ofNat e.2)], rest)
          | none => ([some '\\', some c], rest)

/-- Reads the text with its escapes; `fuel` bounds the number of characters. -/
def unescapeFrom (fuel : Nat) (numbersOnly : Bool) (t : Text) : List (Option CodePoint) :=
  match fuel, t with
  | _, [] => []
  | 0, _ :: _ => []
  | fuel + 1, c :: rest =>
    if c = '\\' then
      let (read, rest) := readEscape numbersOnly rest
      read ++ unescapeFrom fuel numbersOnly rest
    else some c :: unescapeFrom fuel numbersOnly rest

def unescape (numbersOnly : Bool) (t : Text) : List (Option CodePoint) :=
  unescapeFrom t.length numbersOnly t

/-! ## Runs of base 64 -/

/-- Where one is in a text with runs of base 64. -/
inductive Shift where
  | direct
  | opened
  /-- In a run: how many bits are left, which, and the first half of a surrogate pair, if one was
  read. -/
  | inside (bits buffer : Nat) (half : Option Nat)

def sextet? (c : CodePoint) : Option Nat :=
  if c.isLetter then some (if c.val < 0x61 then c.val - 0x41 else c.val - 0x61 + 26)
  else if c.isDigit then some (c.val - 0x30 + 52)
  else if c = '+' then some 62
  else if c = '/' then some 63
  else none

/-- What a unit stands for after the first half of a surrogate pair, and the half that waits after
it. -/
def readUnit (half : Option Nat) (unit : Nat) : List (Option CodePoint) × Option Nat :=
  let c := CodePoint.ofNat unit
  match half with
  | some first =>
    if c.isLowSurrogate then ([some (.ofNat (0x10000 + (first - 0xD800) * 0x400 + (unit - 0xDC00)))], none)
    else if c.isHighSurrogate then ([some (.ofNat first)], some unit)
    else ([some (.ofNat first), some c], none)
  | none => if c.isHighSurrogate then ([], some unit) else ([some c], none)

def readSextet (bits buffer : Nat) (half : Option Nat) (d : Nat) :
    List (Option CodePoint) × Shift :=
  let bits := bits + 6
  let buffer := buffer * 64 + d
  if bits < 16 then ([], .inside bits buffer half)
  else
    let (read, half) := readUnit half (buffer / Nat.pow 2 (bits - 16))
    (read, .inside (bits - 16) (buffer % Nat.pow 2 (bits - 16)) half)

def hasLeftBits (bits buffer : Nat) : Bool := 6 ≤ bits || buffer ≠ 0

def readDirect (c : CodePoint) : List (Option CodePoint) × Shift :=
  if c = '+' then ([], .opened) else ([if c.isAscii then some c else none], .direct)

/-- Reads a character. -/
def Shift.step (s : Shift) (c : CodePoint) : List (Option CodePoint) × Shift :=
  match s with
  | direct => readDirect c
  | opened =>
    if c = '-' then ([some '+'], .direct)
    else
      match sextet? c with
      | some d => readSextet 0 0 none d
      | none => ([none], .direct)
  | inside bits buffer half =>
    match sextet? c with
    | some d => readSextet bits buffer half d
    | none =>
      if hasLeftBits bits buffer then ([none], .direct)
      else
        let before := if c.isAscii then half.toList.map fun n => some (.ofNat n) else []
        let (read, s) := if c = '-' then ([], .direct) else readDirect c
        (before ++ read, s)

def Shift.finish (s : Shift) : List (Option CodePoint) :=
  match s with
  | inside bits buffer half => if half.isSome || hasLeftBits bits buffer then [none] else []
  | _ => []

def unshiftFrom (s : Shift) (t : Text) : List (Option CodePoint) :=
  match t with
  | [] => s.finish
  | c :: rest =>
    let (read, s) := s.step c
    read ++ unshiftFrom s rest

def unshift (t : Text) : List (Option CodePoint) := unshiftFrom .direct t

end LocaleGen.Charset
