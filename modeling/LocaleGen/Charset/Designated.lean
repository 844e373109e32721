import LocaleGen.Charset.Chinese
import LocaleGen.Charset.Japanese
import LocaleGen.Charset.Korean

/-!
# Encodings with designated sets

Encodings by ISO 2022 use the bytes of ASCII for several sets of characters. An escape sequence
designates a set as one of three (`Designation`): the one in use, the one in use after a shift, and
one from which single characters are taken. A `Repertoire` is what such an encoding can designate.
-/

namespace LocaleGen.Charset

/-- Sets of characters that can be designated. -/
inductive CharacterSet where
  | ascii
  /-- The higher half of the western European set, for single characters alone. -/
  | latin
  /-- The higher half of the Greek set, for single characters alone. -/
  | greek
  | roman
  | katakana
  | gb2312
  | jisx0208
  | jisc6226
  | jisx0212
  | ksx1001
  | jisx0213 (revised : Bool)
  | jisx0213Second (revised : Bool)
  deriving DecidableEq

namespace CharacterSet

/-- Whether a character of the set has two bytes, and the byte that ends its escape sequence. -/
def mark (s : CharacterSet) : Bool × Char :=
  match s with
  | ascii => (false, 'B')
  | latin => (false, 'A')
  | greek => (false, 'F')
  | roman => (false, 'J')
  | katakana => (false, 'I')
  | gb2312 => (true, 'A')
  | jisx0208 => (true, 'B')
  | jisc6226 => (true, '@')
  | jisx0212 => (true, 'D')
  | ksx1001 => (true, 'C')
  | jisx0213 revised => (true, if revised then 'Q' else 'O')
  | jisx0213Second _ => (true, 'P')

def width (s : CharacterSet) : Nat := if s.mark.1 then 2 else 1

/-- The characters at a place of a set with two bytes. -/
def plane? (s : CharacterSet) (place : Nat) : Option Text :=
  let one (c : Option CodePoint) : Option Text := c.map fun c => [c]
  match s with
  | gb2312 => one (hanzi.at? place)
  | jisx0208 | jisc6226 => one (kanji.at? place)
  | jisx0212 => one (moreKanji.at? place)
  | ksx1001 => one (hangul.at? place)
  | jisx0213 revised => firstPlane? revised place
  | jisx0213Second revised => one (secondPlane? revised place)
  | _ => none

def read (s : CharacterSet) (a : UInt8) (next : Option UInt8) : Option Text :=
  match s with
  | roman => some [Charset.roman a]
  | katakana => (katakana? (a ^^^ 0x80)).map fun c => [c]
  | _ => do s.plane? (← squarePlace? 0x21 a (← next))

def greekSigns : List Nat :=
  [0xA0, 0xA3, 0xA6, 0xA7, 0xA8, 0xA9, 0xAB, 0xAC, 0xAD, 0xB0, 0xB1, 0xB2, 0xB3, 0xB7, 0xBB, 0xBD]

def greek? (n : Nat) : Option CodePoint :=
  if n < 0xA0 || greekSigns.contains n then some (.ofNat n)
  else if n = 0xA1 then some (.ofNat 0x2018)
  else if n = 0xA2 then some (.ofNat 0x2019)
  else if n = 0xAF then some (.ofNat 0x2015)
  else if 0xB4 ≤ n && n ≤ 0xFE && n ≠ 0xD2 then some (.ofNat (0x2D0 + n))
  else none

def readSingle (s : CharacterSet) (b : UInt8) : Except Refusal (Option CodePoint) :=
  match s with
  | ascii => .ok (if b < 0x80 then some (.ofNat b.toNat) else none)
  | latin => .ok (if b < 0x80 then some (.ofNat (b.toNat + 0x80)) else none)
  | greek => .ok (greek? (b ^^^ 0x80).toNat)
  | _ => .error .misplaced

end CharacterSet

/-- What an encoding can designate, ASCII apart, and how. -/
structure Repertoire where
  sets : List CharacterSet
  hasShift : Bool := false
  hasSingle : Bool := false
  /-- A designation may tell by a sequence in front of it that a newer edition is meant. -/
  hasEditions : Bool := true

structure Designation where
  first : CharacterSet := .ascii
  second : CharacterSet := .ascii
  third : CharacterSet := .ascii
  isShifted : Bool := false
  isEscaped : Bool := false

namespace Designation

def isFinal (b : UInt8) : Bool := within b 0x40 0x5A

/-- The size of the escape sequence that goes on with some bytes after the given number of others:
`none` if its end is not there, and zero if it is too long. -/
def escapeSize (r : Repertoire) (i : Nat) (bytes : Bytes) : Option Nat :=
  if 16 ≤ i then some 0
  else
    match bytes with
    | [] => none
    | b :: rest =>
      if isFinal b then some (i + 1)
      else if r.hasEditions && b = 0x26 && rest.head? = some 0x40 then
        escapeSize r (i + 3) (rest.drop 2)
      else escapeSize r (i + 1) rest
termination_by bytes.length
decreasing_by all_goals (simp only [List.length_drop, List.length_cons]; omega)

/-- Which of the three sets an escape sequence designates, and the mark of the set, if it can
designate any. -/
def escape? (r : Repertoire) (sequence : Bytes) : Option (Fin 3 × Bool × UInt8) :=
  match sequence with
  | [_, 0x24, mark] => some (0, true, mark)
  | [_, 0x28, mark] => some (0, false, mark)
  | [_, 0x29, mark] => some (1, false, mark)
  | [_, 0x2E, mark] => if r.hasSingle then some (2, false, mark) else none
  | [_, 0x24, 0x28, mark] => some (0, true, mark)
  | [_, 0x24, 0x29, mark] => some (1, true, mark)
  | [_, _, _, 0x1B, 0x24, 0x42] => if r.hasEditions then some (0, true, 0x42) else none
  | _ => none

def setOf? (r : Repertoire) (isDouble : Bool) (mark : UInt8) : Option CharacterSet :=
  (CharacterSet.ascii :: r.sets).find? fun s => s.mark.1 = isDouble && s.mark.2.toNat = mark.toNat

def designate (d : Designation) (which : Fin 3) (s : CharacterSet) : Designation :=
  match which with
  | 0 => { d with first := s }
  | 1 => { d with second := s }
  | 2 => { d with third := s }

/-- A step at an escape sequence that may designate a set. -/
def escapeStep (r : Repertoire) (d : Designation) (bytes : Bytes) : Step Designation :=
  match escapeSize r 1 (bytes.drop 1) with
  | none => .unfinished
  | some 0 => .faulty 1
  | some size =>
    match escape? r (bytes.take size) with
    | none => .faulty size
    | some (which, isDouble, mark) =>
      match setOf? r isDouble mark with
      | some s => .characters [] size (d.designate which s)
      | none => .faulty size

/-- A step at a single character of the third set. -/
def singleStep (d : Designation) (rest : Bytes) : Step Designation :=
  match rest with
  | _ :: b :: _ =>
    match d.third.readSingle b with
    | .ok (some c) => .characters [c] 3 d
    | .ok none => .faulty 3
    | .error refusal => .refused refusal
  | _ => .unfinished

/-- A step at a character of the set in use. -/
def characterStep (d : Designation) (a : UInt8) (rest : Bytes) : Step Designation :=
  let used := if d.isShifted then d.second else d.first
  if a < 0x20 || used = .ascii then .characters [.ofNat a.toNat] 1 d
  else if rest.length + 1 < used.width then .unfinished
  else
    match used.read a rest.head? with
    | some text => .characters text used.width d
    | none => .faulty used.width

/-- A step in the encoding with a repertoire. -/
def step (r : Repertoire) (d : Designation) (a : UInt8) (rest : Bytes) : Step Designation :=
  if d.isEscaped then .characters [.ofNat a.toNat] 1 { d with isEscaped := !isFinal a }
  else if a = 0x1B then
    match rest with
    | [] => .unfinished
    | b :: _ =>
      if [0x28, 0x29, 0x24, 0x2E, 0x26].contains b then escapeStep r d (a :: rest)
      else if r.hasSingle && b = 0x4E then singleStep d rest
      else .characters [.ofNat a.toNat] 1 { d with isEscaped := true }
  else if a = 0x0F && r.hasShift then .characters [] 1 { d with isShifted := false }
  else if a = 0x0E && r.hasShift then .characters [] 1 { d with isShifted := true }
  else if a = 0x0A then .characters ['\n'] 1 { d with isShifted := false }
  else if 0x80 ≤ a then .faulty 1
  else characterStep d a rest

end Designation

end LocaleGen.Charset
