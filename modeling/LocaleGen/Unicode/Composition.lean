import LocaleGen.Unicode.Basic
import LocaleGen.Unicode.CompositionTable
import LocaleGen.Unicode.MarkTable

/-!
# Composed text

Of the ways to write a letter with marks, one is the normal form: `Text.composed` takes every
character apart, puts the marks of each letter into order, and puts together what makes one
character. `Text.isComposed` says that a text is in this form.
-/

namespace LocaleGen

/-! ## Syllables of Korean -/

namespace Unicode

/-- The first syllable, its parts, and how many there are of each; no third part is one of them. -/
def firstSyllable : Nat := 0xAC00
def firstLead : Nat := 0x1100
def firstVowel : Nat := 0x1161
def noTail : Nat := 0x11A7
def leadCount : Nat := 19
def vowelCount : Nat := 21
def tailCount : Nat := 28

def syllableParts? (n : Nat) : Option (List Nat) :=
  let i := n - firstSyllable
  if firstSyllable ≤ n ∧ i < leadCount * vowelCount * tailCount then
    let lead := firstLead + i / (vowelCount * tailCount)
    let vowel := firstVowel + i / tailCount % vowelCount
    let tail := i % tailCount
    some (if tail = 0 then [lead, vowel] else [lead, vowel, noTail + tail])
  else none

/-- The syllable that two parts make, or a syllable and a third part. -/
def syllable? (a b : Nat) : Option Nat :=
  if firstLead ≤ a ∧ a < firstLead + leadCount ∧ firstVowel ≤ b ∧ b < firstVowel + vowelCount then
    some (firstSyllable + ((a - firstLead) * vowelCount + (b - firstVowel)) * tailCount)
  else if firstSyllable ≤ a ∧ a < firstSyllable + leadCount * vowelCount * tailCount ∧
      (a - firstSyllable) % tailCount = 0 ∧ noTail < b ∧ b < noTail + tailCount then
    some (a + (b - noTail))
  else none

end Unicode

/-! ## Characters -/

namespace CodePoint

/-- The class of a mark, by which marks of one letter are ordered; zero for anything else. -/
def combiningClass (c : CodePoint) : Nat :=
  match Unicode.combiningClasses.find? fun e => c.val ≤ e.2.1 with
  | some (first, _, k) => if first ≤ c.val then k else 0
  | none => 0

def composite? (a b : CodePoint) : Option CodePoint :=
  match Unicode.syllable? a.val b.val with
  | some n => some (.ofNat n)
  | none =>
    (Unicode.composites.find? fun e => e.2.1 = a.val && e.2.2 = b.val).map
      fun e => CodePoint.ofNat e.1

/-- A character taken apart, in `steps` steps at most. -/
def decomposeIn (steps : Nat) (c : CodePoint) : Text :=
  match steps with
  | 0 => [c]
  | steps + 1 =>
    match Unicode.composites.find? fun e => e.1 = c.val with
    | some (_, a, b) => decomposeIn steps (.ofNat a) ++ [.ofNat b]
    | none => [c]

/-- A character taken apart; none takes more than three steps. -/
def decompose (c : CodePoint) : Text :=
  match Unicode.syllableParts? c.val with
  | some parts => parts.map CodePoint.ofNat
  | none => decomposeIn 3 c

end CodePoint

/-! ## Texts -/

namespace Text

/-- A mark in its place among the marks before the next letter. -/
def insertMark (k : Nat) (c : CodePoint) (t : Text) : Text :=
  match t with
  | [] => [c]
  | d :: rest =>
    if d.combiningClass = 0 || k ≤ d.combiningClass then c :: d :: rest
    else d :: insertMark k c rest

def orderMarks (t : Text) : Text :=
  t.foldr (fun c t => if c.combiningClass = 0 then c :: t else insertMark c.combiningClass c t) []

/-- Puts characters together from left to right: `before` is finished, last first; after it stands a
letter, if there was one, and after that the marks that are left of it, last first. -/
def composeFrom (before : Text) (letter : Option CodePoint) (marks t : Text) : Text :=
  match t with
  | [] => before.reverse ++ letter.toList ++ marks.reverse
  | c :: rest =>
    let k := c.combiningClass
    let isReached := marks.head?.all fun d => d.combiningClass < k
    match if isReached then letter.bind (·.composite? c) else none with
    | some made => composeFrom before (some made) marks rest
    | none =>
      if k = 0 then composeFrom (marks ++ letter.toList ++ before) (some c) [] rest
      else composeFrom before letter (c :: marks) rest

/-- The text in normal form, of characters that stand for themselves. -/
def composed (t : Text) : Text :=
  composeFrom [] none [] (orderMarks (t.flatMap CodePoint.decompose))

def isComposed (t : Text) : Bool :=
  !(t.any fun c => Unicode.inRanges Unicode.alwaysDecomposed c.val) && t.composed == t

end Text

end LocaleGen
