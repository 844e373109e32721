import LocaleGen.Text.Numeral

/-!
# UTF-8

`encode` writes a text as bytes and refuses surrogates. `decode` reads bytes strictly and reports
the first faulty run of them; `decodeLossy` puts one replacement character in the place of each
faulty run; `decodeLenient` is strict but lets an encoded surrogate pass.

A faulty run is the longest beginning of a character that the bytes still agree with, or the one
byte that starts none. `readChar` finds one character or one faulty run; the decoders repeat it.
-/

namespace LocaleGen

abbrev Bytes := List UInt8

namespace Utf8

/-! ## Writing -/

/-- The bytes of a code point by the scheme that scalars use. -/
def encodeChar (c : CodePoint) : Bytes :=
  let n := c.val
  if n < 0x80 then [n.toUInt8]
  else if n < 0x800 then [(0xC0 + n / 0x40).toUInt8, (0x80 + n % 0x40).toUInt8]
  else if n < 0x10000 then
    [(0xE0 + n / 0x1000).toUInt8, (0x80 + n / 0x40 % 0x40).toUInt8, (0x80 + n % 0x40).toUInt8]
  else
    [(0xF0 + n / 0x40000).toUInt8, (0x80 + n / 0x1000 % 0x40).toUInt8,
      (0x80 + n / 0x40 % 0x40).toUInt8,
     (0x80 + n % 0x40).toUInt8]

/-- The first surrogates of a text: where they start, and they themselves up to the next scalar. -/
def firstSurrogates (t : Text) : Option (Nat × Text) :=
  match t.dropWhile fun c => !c.isSurrogate with
  | [] => none
  | c :: rest =>
    some ((t.takeWhile fun c => !c.isSurrogate).length, (c :: rest).takeWhile CodePoint.isSurrogate)

def encodeAll (t : Text) : Bytes := t.flatMap encodeChar

def encode (t : Text) : Except (Nat × Text) Bytes :=
  match firstSurrogates t with
  | some found => .error found
  | none => .ok (encodeAll t)

/-! ## Reading -/

/-- What is wrong with a faulty run. -/
inductive Reason where
  | invalidStart
  | invalidContinuation
  | unexpectedEnd
  deriving DecidableEq, Repr

def Reason.wording (r : Reason) : Text :=
  match r with
  | .invalidStart => "invalid start byte"
  | .invalidContinuation => "invalid continuation byte"
  | .unexpectedEnd => "unexpected end of data"

/-- The first faulty run of some bytes: its place, its first byte, its length. -/
structure Fault where
  position : Nat
  byte : UInt8
  length : Nat
  reason : Reason
  deriving DecidableEq, Repr

def Fault.message (f : Fault) : Text :=
  let place : Text :=
    if f.length = 1 then
      "byte 0x" ++ Text.hex 2 f.byte.toNat ++ " in position " ++ Text.ofNat f.position
    else
      "bytes in position " ++ Text.ofNat f.position ++ "-" ++
        Text.ofNat (f.position + f.length - 1)
  "'utf-8' codec can't decode " ++ place ++ ": " ++ f.reason.wording

inductive Read where
  | char (c : CodePoint) (rest : Bytes)
  | faulty (length : Nat) (reason : Reason) (rest : Bytes)

/-- What the second byte of a character must lie between, after the given first byte. -/
def secondBounds (first : UInt8) : Nat × Nat :=
  if first = 0xE0 then (0xA0, 0xBF)
  else if first = 0xED then (0x80, 0x9F)
  else if first = 0xF0 then (0x90, 0xBF)
  else if first = 0xF4 then (0x80, 0x8F)
  else (0x80, 0xBF)

/-- Reads the bytes after the first one: `needed` more, the next of which lies within `bounds`. So
far `taken` bytes gave the number `value`. -/
def readTail (needed taken value : Nat) (bounds : Nat × Nat) (bytes : Bytes) : Read :=
  match needed with
  | 0 => .char (.ofNat value) bytes
  | needed + 1 =>
    match bytes with
    | [] => .faulty taken .unexpectedEnd []
    | b :: rest =>
      if bounds.1 ≤ b.toNat ∧ b.toNat ≤ bounds.2 then
        readTail needed (taken + 1) (value * 0x40 + b.toNat % 0x40) (0x80, 0xBF) rest
      else .faulty taken .invalidContinuation (b :: rest)

/-- The character that starts with byte `b`, or the faulty run that does. -/
def readChar (b : UInt8) (rest : Bytes) : Read :=
  let n := b.toNat
  if n < 0x80 then .char (.ofNat n) rest
  else if n < 0xC2 then .faulty 1 .invalidStart rest
  else if n < 0xE0 then readTail 1 1 (n % 0x20) (secondBounds b) rest
  else if n < 0xF0 then readTail 2 1 (n % 0x10) (secondBounds b) rest
  else if n < 0xF5 then readTail 3 1 (n % 0x08) (secondBounds b) rest
  else .faulty 1 .invalidStart rest

def readSurrogate (bytes : Bytes) : Option (CodePoint × Bytes) :=
  match bytes with
  | a :: b :: c :: rest =>
    if a = 0xED ∧ 0xA0 ≤ b.toNat ∧ b.toNat ≤ 0xBF ∧ 0x80 ≤ c.toNat ∧ c.toNat ≤ 0xBF then
      some (.ofNat (0xD000 + b.toNat % 0x40 * 0x40 + c.toNat % 0x40), rest)
    else none
  | _ => none

def width (c : CodePoint) : Nat :=
  if c.val < 0x80 then 1 else if c.val < 0x800 then 2 else if c.val < 0x10000 then 3 else 4

/-- Reads on from byte number `position`; `fuel` bounds the number of characters. -/
def decodeFrom (fuel : Nat) (surrogates : Bool) (position : Nat) (bytes : Bytes) :
    Except Fault Text :=
  match fuel, bytes with
  | _, [] => .ok []
  | 0, _ :: _ => .ok []
  | fuel + 1, b :: rest =>
    match readChar b rest with
    | .char c rest' => do
      let t ← decodeFrom fuel surrogates (position + width c) rest'
      .ok (c :: t)
    | .faulty length reason _ =>
      match if surrogates then readSurrogate (b :: rest) else none with
      | some (c, rest') => do
        let t ← decodeFrom fuel surrogates (position + 3) rest'
        .ok (c :: t)
      | none => .error ⟨position, b, length, reason⟩

def decode (bytes : Bytes) : Except Fault Text := decodeFrom bytes.length false 0 bytes

/-- The text that bytes stand for, where a surrogate may stand encoded like any other code point. -/
def decodeLenient (bytes : Bytes) : Except Fault Text := decodeFrom bytes.length true 0 bytes

/-- Reads on with `none` for every faulty run; `fuel` bounds the number of characters. -/
def readAllFrom (fuel : Nat) (bytes : Bytes) : List (Option CodePoint) :=
  match fuel, bytes with
  | _, [] => []
  | 0, _ :: _ => []
  | fuel + 1, b :: rest =>
    match readChar b rest with
    | .char c rest' => some c :: readAllFrom fuel rest'
    | .faulty _ _ rest' => none :: readAllFrom fuel rest'

/-- The characters that bytes stand for, with `none` for every faulty run. -/
def readAll (bytes : Bytes) : List (Option CodePoint) := readAllFrom bytes.length bytes

def decodeLossy (bytes : Bytes) : Text := (readAll bytes).map fun c => c.getD '\uFFFD'

end Utf8

end LocaleGen
