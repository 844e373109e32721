import LocaleGen.Charset.Plane
import LocaleGen.Text.Numeral

/-!
# Sequences of bytes

In many encodings the characters take different numbers of bytes, and in some the meaning of bytes
depends on those before them. Such an encoding is a function from a state and the bytes at hand to a
`Step`: the characters that stand first, or a fault there. `readSteps` goes on from step to step.

A `Refusal` is why an encoding refuses bytes as a whole, where a fault among them would only leave a
mark.
-/

namespace LocaleGen.Charset

/-! ## Refused bytes -/

/-- Why an encoding refuses bytes as a whole. -/
inductive Refusal where
  /-- There is no mark for the order of the bytes, of which as many bits make a unit. -/
  | unmarked (bits : Nat)
  | noReplacement
  | undefined
  | notText
  | notBytes
  | overlong
  | misplaced
  | notAscii (byte : UInt8) (position : Nat)
  deriving DecidableEq

namespace Refusal

def name (r : Refusal) : Text :=
  match r with
  | unmarked _ | noReplacement | undefined | overlong => "UnicodeError"
  | notText => "AssertionError"
  | notBytes => "TypeError"
  | misplaced => "RuntimeError"
  | notAscii .. => "UnicodeDecodeError"

/-- The line shown for a refusal. -/
def message (r : Refusal) : Text :=
  match r with
  | unmarked bits => "UTF-" ++ Text.ofNat bits ++ " stream does not start with BOM"
  | noReplacement => "Unsupported error handling replace"
  | undefined => "undefined encoding"
  | notText => []
  | notBytes => "descriptor 'translate' for 'str' objects doesn't apply to a 'bytes' object"
  | overlong => "pending buffer overflow"
  | misplaced => "internal codec error"
  | notAscii byte position =>
    "'ascii' codec can't decode byte 0x" ++ Text.hex 2 byte.toNat ++ " in position "
      ++ Text.ofNat position ++ ": ordinal not in range(128)"

end Refusal

/-! ## Steps -/

/-- What stands first in the bytes at hand. -/
inductive Step (σ : Type) where
  | characters (text : Text) (size : Nat) (next : σ)
  | faulty (size : Nat)
  | unfinished
  | refused (r : Refusal)

/-- The characters of bytes, and `none` for each fault. -/
def readSteps {σ : Type} (step : σ → UInt8 → Bytes → Step σ) (state : σ) (bytes : Bytes) :
    Except Refusal (List (Option CodePoint)) :=
  match bytes with
  | [] => .ok []
  | b :: rest =>
    match step state b rest with
    | .characters text size next => do
      .ok (text.map some ++ (← readSteps step next (rest.drop (size - 1))))
    | .faulty size => do .ok (none :: (← readSteps step state (rest.drop (size - 1))))
    | .unfinished => if rest.length < 8 then .ok [none] else .error .overlong
    | .refused r => .error r
termination_by bytes.length
decreasing_by all_goals (rw [List.length_drop, List.length_cons]; omega)

namespace Step

def single (c : CodePoint) : Step Unit := .characters [c] 1 ()

/-- The characters that two bytes stand for together; otherwise the first of them is a fault, or
both are. -/
def double (read : UInt8 → UInt8 → Option Text) (a : UInt8) (rest : Bytes)
    (areFaulty : UInt8 → UInt8 → Bool := fun _ _ => false) : Step Unit :=
  match rest with
  | [] => .unfinished
  | b :: _ =>
    match read a b with
    | some text => .characters text 2 ()
    | none => .faulty (if areFaulty a b then 2 else 1)

def asciiOr (other : UInt8 → Bytes → Step Unit) (a : UInt8) (rest : Bytes) : Step Unit :=
  if a < 0x80 then single (.ofNat a.toNat) else other a rest

end Step

end LocaleGen.Charset
