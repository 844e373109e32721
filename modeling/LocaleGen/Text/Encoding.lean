import LocaleGen.Text.Utf8
import LocaleGen.Unicode.Basic

/-!
# Other encodings

`latin1` reads one byte as one character. `detect` finds out in which of the Unicode encodings the
bytes of a JSON text are written, by a byte order mark or by the places of zero bytes, and
`decodeJsonBytes` reads them; surrogates may stand encoded in any of them.
-/

namespace LocaleGen.Encoding

def latin1 (bytes : Bytes) : Text := bytes.map fun b => .ofNat b.toNat

/-- The Unicode encodings. -/
inductive Form where
  | utf8
  | utf16 (bigEndian : Bool)
  | utf32 (bigEndian : Bool)

def number (bigEndian : Bool) (bytes : Bytes) : Nat :=
  (if bigEndian then bytes else bytes.reverse).foldl (fun n b => n * 256 + b.toNat) 0

def units16 (bigEndian : Bool) (bytes : Bytes) : Option (List Nat) :=
  match bytes with
  | [] => some []
  | a :: b :: rest => (units16 bigEndian rest).map (number bigEndian [a, b] :: ·)
  | _ => none

/-- The code points of units, pairs of surrogates joined. -/
def joinUnits (units : List Nat) : Text :=
  match units with
  | [] => []
  | [a] => [.ofNat a]
  | a :: b :: rest =>
    if (CodePoint.ofNat a).isHighSurrogate && (CodePoint.ofNat b).isLowSurrogate then
      .ofNat (0x10000 + (a - 0xD800) * 0x400 + (b - 0xDC00)) :: joinUnits rest
    else .ofNat a :: joinUnits (b :: rest)

/-- The code points of four bytes each, if there is nothing left over or too large. -/
def units32 (bigEndian : Bool) (bytes : Bytes) : Option Text :=
  match bytes with
  | [] => some []
  | a :: b :: c :: d :: rest =>
    let n := number bigEndian [a, b, c, d]
    if n < 0x110000 then (units32 bigEndian rest).map (CodePoint.ofNat n :: ·) else none
  | _ => none

/-- The encoding of a JSON text and its bytes without a byte order mark. -/
def detect (bytes : Bytes) : Form × Bytes :=
  match bytes with
  | 0x00 :: 0x00 :: 0xFE :: 0xFF :: rest => (.utf32 true, rest)
  | 0xFF :: 0xFE :: 0x00 :: 0x00 :: rest => (.utf32 false, rest)
  | 0xFE :: 0xFF :: rest => (.utf16 true, rest)
  | 0xFF :: 0xFE :: rest => (.utf16 false, rest)
  | 0xEF :: 0xBB :: 0xBF :: rest => (.utf8, rest)
  | a :: b :: c :: d :: _ =>
    if a = 0 then (if b = 0 then .utf32 true else .utf16 true, bytes)
    else if b = 0 then (if c = 0 ∧ d = 0 then .utf32 false else .utf16 false, bytes)
    else (.utf8, bytes)
  | [a, b] =>
    if a = 0 then (.utf16 true, bytes) else if b = 0 then (.utf16 false, bytes) else (.utf8, bytes)
  | _ => (.utf8, bytes)

def decodeJsonBytes (bytes : Bytes) : Option Text :=
  match detect bytes with
  | (.utf8, rest) => (Utf8.decodeLenient rest).toOption
  | (.utf16 bigEndian, rest) => (units16 bigEndian rest).map joinUnits
  | (.utf32 bigEndian, rest) => units32 bigEndian rest

end LocaleGen.Encoding
