import LocaleGen.Charset.CodePageTable
import LocaleGen.Charset.Escaped
import LocaleGen.Charset.Multibyte
import LocaleGen.Charset.RegionalTable
import LocaleGen.Host.Punycode
import LocaleGen.Text.Encoding

/-!
# Encodings by name

A `Charset` is an encoding that a content type can name. `Charset.ofName?` finds it, whatever the
case of its name and the signs between the parts of it. `Charset.decode` gives the characters that
bytes stand for, and `none` for each faulty run; some encodings refuse bytes as a whole.
-/

namespace LocaleGen

/-- An encoding. -/
inductive Charset where
  | ascii
  | latin1
  | utf8
  | markedUtf8
  /-- Units of two bytes, whose order is told by a mark in front if it is not fixed. -/
  | utf16 (bigEndian : Option Bool)
  /-- Units of four bytes. -/
  | utf32 (bigEndian : Option Bool)
  /-- Runs of base 64. -/
  | utf7
  | escaped (numbersOnly : Bool)
  | table (t : Charset.ByteTable)
  | multibyte (m : Charset.Multibyte)
  /-- Labels of host names outside ASCII. -/
  | punycode
  | binary
  | rotated
  | hostNames
  | undefined

namespace Charset

/-! ## Names -/

/-- The name in small letters, with one low line for each run of other signs between its parts. -/
def normalName (t : Text) : Text :=
  let isPart (c : CodePoint) : Bool := c.isLetter || c.isDigit || c = '.'
  let spaced : Text := t.map fun c => if isPart c then c.asciiLower else '_'
  Text.join "_" ((Text.splitOn spaced '_').filter (!·.isEmpty))

/-- The encodings that need no table, with their names. The first name of an encoding is its own,
and the others stand for it. -/
def named : List (Charset × List String) :=
  [(.ascii, ["ascii", "646", "ansi_x3.4_1968", "ansi_x3_4_1968", "ansi_x3.4_1986", "cp367",
    "csascii", "ibm367",
      "iso646_us", "iso_646.irv_1991", "iso_ir_6", "us", "us_ascii"]),
   (.latin1, ["latin_1", "8859", "cp819", "csisolatin1", "ibm819", "iso8859", "iso8859_1", "iso_8859_1",
      "iso_8859_1_1987", "iso_ir_100", "l1", "latin", "latin1"]),
   (.latin1, ["charmap"]),
   (.utf8, ["utf_8", "u8", "utf", "utf8", "utf8_ucs2", "utf8_ucs4", "cp65001"]),
   (.markedUtf8, ["utf_8_sig"]),
   (.utf16 none, ["utf_16", "u16", "utf16"]),
   (.utf16 (some false), ["utf_16_le", "unicodelittleunmarked", "utf_16le"]),
   (.utf16 (some true), ["utf_16_be", "unicodebigunmarked", "utf_16be"]),
   (.utf32 none, ["utf_32", "u32", "utf32"]),
   (.utf32 (some false), ["utf_32_le", "utf_32le"]),
   (.utf32 (some true), ["utf_32_be", "utf_32be"]),
   (.utf7, ["utf_7", "u7", "utf7", "unicode_1_1_utf_7"]),
   (.escaped false, ["unicode_escape"]),
   (.escaped true, ["raw_unicode_escape"]),
   (.binary, ["base64_codec", "base64", "base_64"]),
   (.binary, ["bz2_codec", "bz2"]),
   (.binary, ["hex_codec", "hex"]),
   (.binary, ["quopri_codec", "quopri", "quoted_printable", "quotedprintable"]),
   (.binary, ["uu_codec", "uu"]),
   (.binary, ["zlib_codec", "zip", "zlib"]),
   (.rotated, ["rot_13", "rot13"]),
   (.hostNames, ["idna"]),
   (.punycode, ["punycode"]),
   (.undefined, ["undefined"])] ++ Multibyte.named.map fun e => (.multibyte e.1, e.2)

def byteTables : List ByteTable :=
  standardTables ++ windowsTables ++ consoleTables ++ mainframeTables ++ macTables ++ regionalTables

/-- The encoding with a name among those that `choose` takes of all its names. -/
def find? (choose : List String → List String) (name : Text) : Option Charset :=
  let isNamed (names : List String) : Bool := (choose names).any fun n => Text.ofString n = name
  match named.find? fun e => isNamed e.2 with
  | some e => some e.1
  | none => (byteTables.find? fun t => isNamed t.names).map .table

/-- The encoding that a name stands for. A point may be read as a low line in a name that stands for
another. -/
def ofName? (t : Text) : Option Charset :=
  let name := normalName t
  (find? id name).or (find? List.tail (name.replace '.' "_"))

/-! ## Reading -/

/-- The characters of units of two bytes. -/
def readUnits16 (bigEndian : Bool) (bytes : Bytes) : List (Option CodePoint) :=
  match bytes with
  | [] => []
  | [_] => [none]
  | a :: b :: rest =>
    let c := CodePoint.ofNat (Encoding.number bigEndian [a, b])
    if c.isHighSurrogate then
      match rest with
      | a' :: b' :: rest' =>
        let d := CodePoint.ofNat (Encoding.number bigEndian [a', b'])
        if d.isLowSurrogate then
          some (.ofNat (0x10000 + (c.val - 0xD800) * 0x400 + (d.val - 0xDC00))) ::
            readUnits16 bigEndian rest'
        else none :: readUnits16 bigEndian (a' :: b' :: rest')
      | _ => [none]
    else (if c.isLowSurrogate then none else some c) :: readUnits16 bigEndian rest

/-- The characters of units of four bytes. -/
def readUnits32 (bigEndian : Bool) (bytes : Bytes) : List (Option CodePoint) :=
  match bytes with
  | [] => []
  | a :: b :: c :: d :: rest =>
    let n := Encoding.number bigEndian [a, b, c, d]
    let isScalar := n < 0x110000 && !(CodePoint.ofNat n).isSurrogate
    (if isScalar then some (.ofNat n) else none) :: readUnits32 bigEndian rest
  | _ => [none]

/-- The number of four hexadecimal digits in the given place. -/
def numberAt (rows : List Text) (place : Nat) : Option Nat :=
  match rows with
  | [] => none
  | row :: rest =>
    let count := row.length / 4
    if place < count then Text.hexNat? ((row.drop (4 * place)).take 4)
    else numberAt rest (place - count)

/-- The character of a byte. -/
def ByteTable.read (t : ByteTable) (b : UInt8) : Option CodePoint :=
  let rows := t.rows.map Text.ofString
  let isWhole := (rows.map List.length).foldl (· + ·) 0 = 4 * 256
  let n := b.toNat
  let number :=
    if isWhole then numberAt rows n else if n < 0x80 then some n else numberAt rows (n - 0x80)
  match number with
  | some n => if n = 0xFFFD then none else some (.ofNat n)
  | none => none

def splitMark (marks : List (Bytes × Bool)) (bytes : Bytes) : Option (Bool × Bytes) :=
  (marks.find? fun m => m.1.isPrefixOf bytes).map fun m => (m.2, bytes.drop m.1.length)

/-- Reads units in the fixed order, or in the one that the mark in front tells; less than a unit
cannot have a mark and is faulty. -/
def readMarked (bits : Nat) (bigEndian : Option Bool) (marks : List (Bytes × Bool))
    (read : Bool → Bytes → List (Option CodePoint)) (bytes : Bytes) :
    Except Refusal (List (Option CodePoint)) :=
  match bigEndian with
  | some bigEndian => .ok (read bigEndian bytes)
  | none =>
    match splitMark marks bytes with
    | some (bigEndian, rest) => .ok (read bigEndian rest)
    | none => if bytes.length * 8 < bits then .ok (read false bytes) else .error (.unmarked bits)

def utf8Mark : Bytes := [0xEF, 0xBB, 0xBF]

/-- The bytes behind the mark; the beginning of one alone is nothing, too. -/
def dropUtf8Mark (bytes : Bytes) : Bytes :=
  if bytes.isPrefixOf utf8Mark then []
  else if utf8Mark.isPrefixOf bytes then bytes.drop 3 else bytes

/-- The characters of a label outside ASCII; bytes other than ASCII are faults only in front of the
last hyphen. -/
def readLabel (bytes : Bytes) : Except Refusal (List (Option CodePoint)) :=
  let (basic, digits) := Host.Punycode.split (Encoding.latin1 bytes)
  match digits.dropWhile CodePoint.isAscii with
  | c :: _ => .error (.notAscii (.ofNat c.val) (digits.takeWhile CodePoint.isAscii).length)
  | [] =>
    let basic := basic.map fun c => if c.isAscii then c else '\uFFFD'
    .ok ((Host.Punycode.decodeLossy basic digits).map some)

/-- The characters that bytes stand for. -/
def decode (charset : Charset) (bytes : Bytes) : Except Refusal (List (Option CodePoint)) :=
  let characters : Text := Encoding.latin1 bytes
  match charset with
  | ascii => .ok (characters.map fun c => if c.isAscii then some c else none)
  | latin1 => .ok (characters.map some)
  | utf8 => .ok (Utf8.readAll bytes)
  | markedUtf8 => .ok (Utf8.readAll (dropUtf8Mark bytes))
  | utf16 bigEndian =>
    readMarked 16 bigEndian [([0xFF, 0xFE], false), ([0xFE, 0xFF], true)] readUnits16 bytes
  | utf32 bigEndian =>
    readMarked 32 bigEndian [([0xFF, 0xFE, 0, 0], false),
      ([0, 0, 0xFE, 0xFF], true)] readUnits32 bytes
  | utf7 => .ok (unshift characters)
  | escaped numbersOnly => .ok (unescape numbersOnly characters)
  | table t => .ok (bytes.map t.read)
  | multibyte m => m.read bytes
  | punycode => readLabel bytes
  | binary => .error .notText
  | rotated => .error .notBytes
  | hostNames => .error .noReplacement
  | undefined => .error .undefined

/-- The encoding in which the order of the bytes is fixed; without a mark the lower byte comes
first. -/
def ordered (charset : Charset) : Charset :=
  match charset with
  | utf16 none => utf16 (some false)
  | utf32 none => utf32 (some false)
  | _ => charset

/-- The text of bytes without a fault. -/
def decode? (charset : Charset) (bytes : Bytes) : Option Text :=
  match charset with
  | punycode => if bytes.all (· < 0x80) then Host.Punycode.decode (Encoding.latin1 bytes) else none
  | _ =>
    match charset.decode bytes with
    | .ok read => read.mapM id
    | .error (.unmarked _) => (charset.ordered.decode bytes).toOption.bind fun read => read.mapM id
    | .error _ => none

def decodeLossy (charset : Charset) (bytes : Bytes) : Except Refusal Text := do
  .ok ((← charset.decode bytes).map fun c => c.getD '\uFFFD')

end Charset

end LocaleGen
