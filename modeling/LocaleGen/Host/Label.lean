import LocaleGen.Host.Flaw
import LocaleGen.Unicode.Basic
import LocaleGen.Unicode.Composition
import LocaleGen.Unicode.LabelTable
import LocaleGen.Unicode.MarkTable
import LocaleGen.Unicode.ScriptTable

/-!
# Labels

A label is what stands between two dots of a host name. It holds letters, digits, marks and hyphens;
a few more characters are allowed next to what they belong to, and `isInContext` says where.
`checkLabel` refuses any other label.
-/

/-! ## Directions of writing

A label with characters that are written from right to left has to run one way: its first character
says which, no other runs against it, and the last one that is no mark belongs to it as well.
`checkDirections` refuses any other label. -/

namespace LocaleGen

/-- How a character runs. -/
inductive Direction where
  | left
  | right
  | europeanNumber
  | arabicNumber
  | mark
  | neutral
  deriving DecidableEq

/-- How a character of a label runs. -/
def CodePoint.direction (c : CodePoint) : Direction :=
  if c.isDigit || Unicode.inRanges [(0x06F0, 0x06F9)] c.val then .europeanNumber
  else if Unicode.inRanges [(0x0660, 0x0669), (0x10D30, 0x10D39)] c.val then .arabicNumber
  else if Unicode.inRanges Unicode.nonspacingMarks c.val then .mark
  else if c = '-' || Unicode.inRanges [(0x200C, 0x200D)] c.val ||
    Unicode.inRanges Unicode.neutral c.val then
    .neutral
  else if Unicode.inRanges Unicode.rightToLeft c.val ||
    Unicode.inRanges Unicode.arabicLetters c.val then
    .right
  else .left

namespace Host

def Course.forbids (course : Course) (d : Direction) : Bool :=
  match course with
  | .leftToRight => d = .right || d = .arabicNumber
  | .rightToLeft => d = .left

/-- Whether a label can end with a character, marks apart. -/
def Course.allowsLast (course : Course) (d : Direction) : Bool :=
  match course with
  | .leftToRight => d = .left || d = .europeanNumber
  | .rightToLeft => d = .right || d = .europeanNumber || d = .arabicNumber

/-- Goes through the characters from a position on, after a number of the given kind, if there was
one. -/
def checkCourse (course : Course) (position : Nat) (numeral : Option Direction)
    (ds : List Direction) : Except Flaw Unit :=
  match ds with
  | [] => .ok ()
  | d :: rest =>
    if course.forbids d then .error (.against course position)
    else if course = .rightToLeft ∧ (d = .europeanNumber ∨ d = .arabicNumber) then
      if numeral = none ∨ numeral = some d then checkCourse course (position + 1) (some d) rest
      else .error .mixedNumerals
    else checkCourse course (position + 1) numeral rest

/-- Refuses a label that does not run one way. -/
def checkDirections (label : Text) : Except Flaw Unit := do
  let ds := label.map CodePoint.direction
  if ds.all fun d => d ≠ .right && d ≠ .arabicNumber then .ok ()
  else
    let course ←
      match ds.head? with
      | some .right => .ok Course.rightToLeft
      | some .left => .ok Course.leftToRight
      | _ => .error (.noCourse label)
    checkCourse course 1 none ds
    if (ds.reverse.find? (· ≠ .mark)).any course.allowsLast then .ok () else .error .openEnd

end Host

end LocaleGen

namespace LocaleGen.Host

/-! ## Characters that need something beside them -/

def isVirama (c : CodePoint) : Bool := c.combiningClass = 9

def isTransparent (c : CodePoint) : Bool :=
  Unicode.inRanges Unicode.nonspacingMarks c.val || c.val = 0x1E94B

def joins (letters : List (List (Nat × Nat))) (t : Text) : Bool :=
  ((t.dropWhile isTransparent).head?).any fun c => letters.any (Unicode.inRanges · c.val)

/-- Whether a joiner may stand between what is before it, the nearest first, and what is after
it. -/
def joinerBelongs (c : CodePoint) (before after : Text) : Bool :=
  before.head?.any isVirama ||
    (c.val = 0x200C && joins [Unicode.joiningNext, Unicode.joiningBoth] before &&
      joins [Unicode.joiningPrevious, Unicode.joiningBoth] after)

/-- The joiners: one lets letters join, the other keeps them apart. -/
def isJoiner (c : CodePoint) : Bool := c.val = 0x200C || c.val = 0x200D

def isArabicDigit (c : CodePoint) : Bool := 0x660 ≤ c.val && c.val ≤ 0x669
def isPersianDigit (c : CodePoint) : Bool := 0x6F0 ≤ c.val && c.val ≤ 0x6F9

/-- The characters that may stand only next to some others. -/
def needsContext (c : CodePoint) : Bool :=
  c.val ∈ [0xB7, 0x375, 0x5F3, 0x5F4, 0x30FB] || isArabicDigit c || isPersianDigit c

/-- Whether a character may stand between what is before it, the nearest first, and what is after
it: the middle dot between two `l`s, the Greek numeral sign before a Greek character, the Hebrew
marks after a Hebrew one, the Katakana middle dot in a label with kana or Han characters; of the two
kinds of digits only one. -/
def isInContext (label before : Text) (c : CodePoint) (after : Text) : Bool :=
  if c.val = 0xB7 then before.head? = some 'l' && after.head? = some 'l'
  else if c.val = 0x375 then after.head?.any fun d => Unicode.inRanges Unicode.greek d.val
  else if c.val = 0x5F3 || c.val = 0x5F4 then
    before.head?.any fun d => Unicode.inRanges Unicode.hebrew d.val
  else if c.val = 0x30FB then label.any fun d => Unicode.inRanges Unicode.kanaAndHan d.val
  else if isArabicDigit c then !label.any isPersianDigit
  else !label.any isArabicDigit

/-! ## Whole labels -/

/-- Checks the characters from the first one of `after` on; those before it stand in `before`, the
nearest first. -/
def checkCharacters (label before after : Text) : Except Flaw Unit :=
  match after with
  | [] => .ok ()
  | c :: rest =>
    let position := before.length + 1
    if Unicode.inRanges Unicode.labelCharacters c.val then checkCharacters label (c :: before) rest
    else if isJoiner c then
      if joinerBelongs c before rest then checkCharacters label (c :: before) rest
      else .error (.strayJoiner c position label)
    else if needsContext c then
      if isInContext label before c rest then checkCharacters label (c :: before) rest
      else .error (.outOfContext c position label)
    else .error (.forbidden c position label)

def hyphen : CodePoint := '-'

def isMark (c : CodePoint) : Bool :=
  [Unicode.nonspacingMarks, Unicode.spacingMarks, Unicode.enclosingMarks].any
    (Unicode.inRanges · c.val)

/-- Refuses a label that no host name may have. -/
def checkLabel (label : Text) : Except Flaw Unit := do
  if label.isEmpty then .error .noCharacter
  else if !label.isComposed then .error .notComposed
  else if (label.drop 2).take 2 = [hyphen, hyphen] then .error .innerHyphens
  else if label.head? = some hyphen ∨ label.getLast? = some hyphen then .error .outerHyphen
  else if label.head?.any isMark then .error .initialMark
  else
    checkCharacters label [] label
    checkDirections label

end LocaleGen.Host
