import LocaleGen.Text.Quoted

/-!
# What is wrong with a host name

A `Host.Flaw` is a reason why a label, or a name made of labels, cannot name a host. Positions count
from one.
-/

namespace LocaleGen.Host

/-- The two ways in which a label can run. -/
inductive Course where
  | leftToRight
  | rightToLeft
  deriving DecidableEq

/-- Why a name cannot name a host. -/
inductive Flaw where
  | emptyName
  | emptyLabel
  | longLabel
  | longName
  | nothingEncoded
  | encodedHyphen
  /-- The encoded form stands for no label. -/
  | undecodable
  /-- A label is empty where it is checked. -/
  | noCharacter
  /-- Characters stand apart that should be one. -/
  | notComposed
  | innerHyphens
  | outerHyphen
  | initialMark
  | strayJoiner (c : CodePoint) (position : Nat) (label : Text)
  /-- A character stands without what it needs beside it. -/
  | outOfContext (c : CodePoint) (position : Nat) (label : Text)
  | forbidden (c : CodePoint) (position : Nat) (label : Text)
  | noCourse (label : Text)
  | against (course : Course) (position : Nat)
  | mixedNumerals
  | openEnd
  deriving DecidableEq

namespace Flaw

def name (f : Flaw) : Text :=
  match f with
  | outOfContext .. => "InvalidCodepointContext"
  | forbidden .. => "InvalidCodepoint"
  | noCourse _ | against .. | mixedNumerals | openEnd => "IDNABidiError"
  | _ => "IDNAError"

def place (c : CodePoint) (position : Nat) : Text × Text :=
  ("U+" ++ Text.capitalHex 4 c.val, " at position " ++ Text.ofNat position)

/-- The line shown for a flaw. -/
def message (f : Flaw) : Text :=
  match f with
  | emptyName => "Empty domain"
  | emptyLabel => "Empty label"
  | longLabel => "Label too long"
  | longName => "Domain too long"
  | nothingEncoded => "Malformed A-label, no Punycode eligible content found"
  | encodedHyphen => "A-label must not end with a hyphen"
  | undecodable => "Invalid A-label"
  | noCharacter => "Empty Label"
  | notComposed => "Label must be in Normalization Form C"
  | innerHyphens => "Label has disallowed hyphens in 3rd and 4th position"
  | outerHyphen => "Label must not start or end with a hyphen"
  | initialMark => "Label begins with an illegal combining character"
  | strayJoiner c position label =>
    let (number, here) := place c position
    "Unknown codepoint adjacent to joiner " ++ number ++ here ++ " in " ++ label.quoted
  | outOfContext c position label =>
    let (number, here) := place c position
    "Codepoint " ++ number ++ " not allowed" ++ here ++ " in " ++ label.quoted
  | forbidden c position label =>
    let (number, here) := place c position
    "Codepoint " ++ number ++ here ++ " of " ++ label.quoted ++ " not allowed"
  | noCourse label =>
    "First codepoint in label " ++ label.quoted ++ " must be directionality L, R or AL"
  | against course position =>
    let kind : Text :=
      match course with
      | .leftToRight => "left-to-right"
      | .rightToLeft => "right-to-left"
    "Invalid direction for codepoint at position " ++ Text.ofNat position ++
      " in a " ++ kind ++ " label"
  | mixedNumerals => "Can not mix numeral types in a right-to-left label"
  | openEnd => "Label ends with illegal codepoint directionality"

end Flaw

end LocaleGen.Host
