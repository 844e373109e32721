import LocaleGen.Charset.HangulPlane
import LocaleGen.Charset.Sequence

/-!
# Korean encodings

The square encoding of KS X 1001 has the syllables that are in use, and makes up others from four
characters. The code page has the other syllables in the order of Unicode at places around the
square. The combining encoding takes five bits for each part of a syllable.
-/

namespace LocaleGen.Charset

/-! ## Syllables -/

def syllable (initial medial final : Nat) : CodePoint :=
  .ofNat (0xAC00 + (initial * 21 + medial) * 28 + final)

/-- The initial consonants among the consonant letters, by their places among these. -/
def initialLetters : List Nat :=
  [0, 1, 3, 6, 7, 8, 16, 17, 18, 20, 21, 22, 23, 24, 25, 26, 27, 28, 29]

def finalLetters : List Nat :=
  [0, 1, 2, 3, 4, 5, 6, 8, 9, 10, 11, 12, 13, 14, 15, 16, 17, 19, 20, 21, 22, 23, 25,
    26, 27, 28, 29]

def madeUp? (initial medial final : UInt8) : Option CodePoint := do
  let i ← if 0xA1 ≤ initial then initialLetters.idxOf? (initial.toNat - 0xA1) else none
  let m ← if within medial 0xBF 0xD3 then some (medial.toNat - 0xBF) else none
  let f ←
    if final = 0xD4 then some 0
    else if 0xA1 ≤ final then (finalLetters.idxOf? (final.toNat - 0xA1)).map (· + 1) else none
  return syllable i m f

/-! ## Steps -/

def commonSyllables : List Nat :=
  ((hangul.flatMap fun run => Text.ofString run.2).map (·.val)).filter fun n =>
    0xAC00 ≤ n && n ≤ 0xD7A3

/-- The index of the second byte of a syllable that KS X 1001 lacks: capital letters, small letters,
and the bytes from 81 on. -/
def rareColumn? (b : UInt8) : Option Nat :=
  if within b 0x41 0x5A then some (b.toNat - 0x41)
  else if within b 0x61 0x7A then some (b.toNat - 0x61 + 26)
  else if within b 0x81 0xFE then some (b.toNat - 0x81 + 52)
  else none

/-- The syllable that two bytes stand for outside the square. -/
def rareSyllable? (a b : UInt8) : Option CodePoint := do
  let column ← rareColumn? b
  let place ←
    if within a 0x81 0xA0 then some ((a.toNat - 0x81) * 178 + column)
    else if within a 0xA1 0xC6 && b ≤ 0xA0 then some (32 * 178 + (a.toNat - 0xA1) * 84 + column)
    else none
  if place < 8822 then some (.ofNat (nthOutside commonSyllables 0xAC00 place)) else none

/-- What five bits stand for in a syllable. -/
inductive Part where
  | missing
  | letter (index : Nat)

def initialPart? (n : Nat) : Option Part :=
  if n = 1 then some .missing else if 2 ≤ n && n ≤ 20 then some (.letter (n - 2)) else none

/-- The medial of five bits, which are in groups of six with two left out. -/
def medialPart? (n : Nat) : Option Part :=
  if n = 2 then some .missing
  else if 3 ≤ n && n ≤ 29 && 2 ≤ n % 8 then some (.letter (n / 8 * 6 + n % 8 - 3))
  else none

def finalPart? (n : Nat) : Option Part :=
  if n = 1 then some .missing
  else if 2 ≤ n && n ≤ 17 then some (.letter (n - 1))
  else if 19 ≤ n && n ≤ 29 then some (.letter (n - 2))
  else none

def consonant (places : List Nat) (index : Nat) : Option CodePoint :=
  places[index]?.map fun place => .ofNat (0x3131 + place)

/-- The syllable or the letter of three parts. -/
def joined? (initial medial final : Part) : Option CodePoint :=
  match initial, medial, final with
  | .letter i, .letter m, .letter f => some (syllable i m f)
  | .letter i, .letter m, .missing => some (syllable i m 0)
  | .letter i, .missing, .missing => consonant initialLetters i
  | .missing, .letter m, .missing => some (.ofNat (0x314F + m))
  | .missing, .missing, .letter f => consonant finalLetters (f - 1)
  | .missing, .missing, .missing => some (.ofNat 0x3000)
  | _, _, _ => none

/-- The character that two bytes stand for in the combining encoding. -/
def johab? (a b : UInt8) : Option CodePoint :=
  if a < 0xD8 then do
    let n := a.toNat * 256 + b.toNat
    joined? (← initialPart? (n / 1024 % 32)) (← medialPart? (n / 32 % 32)) (← finalPart? (n % 32))
  else if a = 0xD8 || a = 0xDF || 0xF9 < a || b < 0x31 || within b 0x80 0x90 || b.toNat % 128 = 0x7F
      || (a = 0xDA && within b 0xA1 0xD3) then
    none
  else
    let row := if a < 0xE0 then 2 * (a.toNat - 0xD9) else 2 * a.toNat - 0x197
    let column := if b < 0x91 then b.toNat - 0x31 else b.toNat - 0x43
    hangul.at? (row * 94 + column)

namespace Step

/-- A step in the square encoding. -/
def eucKorean : UInt8 → Bytes → Step Unit :=
  asciiOr fun a rest =>
    if a = 0xA4 && rest.head? = some 0xD4 then
      match rest.drop 1 with
      | x :: initial :: y :: medial :: z :: final :: _ =>
        match if [x, y, z].all (· = 0xA4) then madeUp? initial medial final else none with
        | some c => .characters [c] 8 ()
        | none => .faulty 1
      | _ => .unfinished
    else double (fun a b => do .some [← hangul.at? (← squarePlace? 0xA1 a b)]) a rest

def windowsKorean : UInt8 → Bytes → Step Unit :=
  asciiOr (double fun a b =>
    (((squarePlace? 0xA1 a b).bind hangul.at?).or (rareSyllable? a b)).map fun c => [c])

def johab : UInt8 → Bytes → Step Unit := asciiOr (double fun a b => (johab? a b).map fun c => [c])

end Step

end LocaleGen.Charset
