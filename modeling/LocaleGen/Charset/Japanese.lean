import LocaleGen.Charset.KanjiExtension
import LocaleGen.Charset.KanjiPlane
import LocaleGen.Charset.KanjiSupplement
import LocaleGen.Charset.Sequence

/-!
# Japanese encodings

Half-wide katakana have one byte, and the characters of JIS X 0208 two. The shifted encodings write
a place so that its first byte is none of those for katakana; the square ones take bytes from A1 on
and announce katakana and a second plane by a byte of their own. JIS X 0213 comes in two editions,
of which the second is `revised`.
-/

namespace LocaleGen.Charset

def katakana? (b : UInt8) : Option CodePoint :=
  if within b 0xA1 0xDF then some (.ofNat (0xFEC0 + b.toNat)) else none

def roman (b : UInt8) : CodePoint :=
  if b = 0x5C then .ofNat 0xA5 else if b = 0x7E then .ofNat 0x203E else .ofNat b.toNat

/-- Whether a place of the first plane of JIS X 0213 was left free in an edition. -/
def isLeftFree (revised : Bool) (place : Option Nat) : Bool :=
  !revised && place.any revisedPlaces.contains

def firstPlane? (revised : Bool) (place : Nat) : Option Text :=
  if isLeftFree revised place then none
  else
    match (kanji.at? place).or (addedKanji.at? place) with
    | some c => some [c]
    | none => pairAt? pairedKanji place

def secondPlane? (revised : Bool) (place : Nat) : Option CodePoint :=
  if !revised && place = 8674 then some (.ofNat 0x9B1D) else secondKanji.at? place

/-- The row of the second plane that comes at a row behind the first plane. -/
def secondRow (row : Nat) : Nat :=
  if 9 ≤ row then row + 68 else if 5 ≤ row || row = 1 then row + 6 else row

/-- The characters at a place of both planes, one behind the other. Two signs are their ASCII forms
here. -/
def bothPlanes? (revised : Bool) (place : Nat) : Option Text :=
  if place = 31 then some ['\\']
  else if place = 111 then some ['~']
  else if place < 94 * 94 then firstPlane? revised place
  else
    let place := place - 94 * 94
    (secondPlane? revised (secondRow (place / 94) * 94 + place % 94)).map fun c => [c]

namespace Step

def shiftJis (a : UInt8) (rest : Bytes) : Step Unit :=
  match katakana? a with
  | some c => single c
  | none => asciiOr (double fun a b => do .some [← kanji.at? (← shiftedPlace? a b)]) a rest

/-- A step in the shifted encoding of both planes. -/
def shiftedPlanes (revised : Bool) (a : UInt8) (rest : Bytes) : Step Unit :=
  match katakana? a with
  | some c => single c
  | none =>
    if a < 0x80 then single (roman a)
    else
      double (fun a b => (shiftedPlace? a b).bind (bothPlanes? revised)) a rest
        fun a b => isLeftFree revised (shiftedPlace? a b)

/-- A step in the Japanese code page, which leaves nine rows and some bytes to its users. -/
def windowsJapanese (a : UInt8) (rest : Bytes) : Step Unit :=
  match katakana? a with
  | some c => single c
  | none =>
    if a = 0xA0 then single (.ofNat 0xF8F0)
    else if 0xFD ≤ a then single (.ofNat (0xF8F1 + (a.toNat - 0xFD)))
    else if a ≤ 0x80 then single (.ofNat a.toNat)
    else
      double (fun a b => do
        let place ← shiftedPlace? a b
        if within a 0xF0 0xF9 then return [.ofNat (0xE000 + 188 * (a.toNat - 0xF0) + indexAround7F b)]
        else return [← (windowsKanji.at? place).or (kanji.at? place)]) a rest

/-- A step in a square encoding with the given planes, in the first of which some places are left
free. -/
def squareJapanese (first second : Nat → Option Text) (isFree : Option Nat → Bool) :
    UInt8 → Bytes → Step Unit :=
  asciiOr fun a rest =>
    if a = 0x8E then double (fun _ b => (katakana? b).map fun c => [c]) a rest
    else if a = 0x8F then
      match rest with
      | b :: c :: _ =>
        match (squarePlace? 0xA1 b c).bind second with
        | some text => .characters text 3 ()
        | none => .faulty 1
      | _ => .unfinished
    else double (fun a b => (squarePlace? 0xA1 a b).bind first) a rest fun a b =>
      isFree (squarePlace? 0xA1 a b)

/-- A step in the square encoding of JIS X 0208 and JIS X 0212. -/
def eucJapanese : UInt8 → Bytes → Step Unit :=
  squareJapanese (fun place => (kanji.at? place).map fun c => [c])
    (fun place => (moreKanji.at? place).map fun c => [c]) fun _ => false

/-- A step in the square encoding of JIS X 0213, whose second plane has those of JIS X 0212 in
between. -/
def eucPlanes (revised : Bool) : UInt8 → Bytes → Step Unit :=
  squareJapanese (firstPlane? revised)
    (fun place => ((secondPlane? revised place).or (moreKanji.at? place)).map fun c => [c])
    (isLeftFree revised)

end Step

end LocaleGen.Charset
